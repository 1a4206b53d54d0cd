import FunctionBindings.Binding.Builtin
import FunctionBindings.Proofs.Binding.Responses
import FunctionBindings.Scan.Candidates
import Mathlib.Data.List.Pairwise

/-!
# Bindings that share a name

An output on the method and a response are named after the return value; every other binding takes
the name of the parameter or member that declares it (`Binding.takesName`). The rule of unique names
passes over the name of the return value, whoever has it. So bindings of an accepted function share
a name only if it is that of the return value, and then either they are the output on the method and
the response, or a parameter or member has that name too (`sharedNames_of_checked`). Nothing limits
how often it does (`exists_shared_return`).
-/

namespace FunctionBindings

namespace Binding

/-- True of a binding that takes the name of the parameter or member that it is declared on. -/
def takesName (binding : Binding) : Bool :=
  binding.source = .parameter ∨ binding.source = .member

/-- True of an output on the method and the response that types imply, both named after the return
value. -/
def AreReturned (first second : Binding) : Prop :=
  first.name = returnBindingName ∧ first.source = .method ∧ second.source = .synthesized

/-- A binding that takes its name is no output on the method. -/
theorem source_ne_of_takesName {binding : Binding} (h : binding.takesName) :
    binding.source ≠ .method ∧ binding.source ≠ .synthesized := by
  unfold takesName at h
  cases hsource : binding.source <;> simp_all

end Binding

section

variable {p q r : Binding → Bool} {bindings : List Binding} {first second : Binding}

/-- Of two bindings in a list, at most one is of a kind that comes at most once. -/
theorem not_both_of_countP_le_one (h : bindings.countP p ≤ 1)
    (hsub : [first, second].Sublist bindings) : ¬ (p first ∧ p second) := by
  rintro ⟨hfirst, hsecond⟩
  have htwo : [first, second].countP p = 2 := by simp [hfirst, hsecond]
  have hle := hsub.countP_le (p := p)
  omega

/-- Bindings of a kind are no more than those of two kinds that cover it. -/
theorem countP_le_add (h : ∀ binding ∈ bindings, p binding → q binding ∨ r binding) :
    bindings.countP p ≤ bindings.countP q + bindings.countP r := by
  induction bindings with
  | nil => simp
  | cons binding rest ih =>
      have hrest := ih fun other hother ↦ h other (List.mem_cons_of_mem binding hother)
      have hbinding := h binding List.mem_cons_self
      simp only [List.countP_cons]
      by_cases hp : p binding
      · obtain hq | hr := hbinding hp
        · simp only [hp, hq, if_true]
          omega
        · simp only [hp, hr, if_true]
          omega
      · simp only [hp, Bool.false_eq_true, if_false]
        omega

end

namespace ScannedFunction

variable {function : ScannedFunction} {catalog : Catalog} {conventions : Conventions}
  {binding : Binding}

/-- The bindings of the method are named after the return value. -/
theorem of_mem_methodBindings (h : binding ∈ function.methodBindings catalog) :
    binding.source = .method ∧ binding.name = returnBindingName := by
  obtain ⟨entry, -, rfl⟩ := List.mem_map.1 h
  exact ⟨rfl, rfl⟩

/-- The bindings of parameters take their names. -/
theorem of_mem_parameterBindings (h : binding ∈ function.parameterBindings catalog conventions) :
    binding.source = .parameter ∧ ∃ param ∈ function.method.params, param.name = binding.name := by
  obtain ⟨param, hparam, hdeclared⟩ := List.mem_flatMap.1 h
  obtain ⟨entry, -, rfl⟩ := List.mem_map.1 hdeclared
  exact ⟨rfl, param, hparam, rfl⟩

/-- The bindings of the return type are responses or take the names of members. -/
theorem of_mem_returnBindings (h : binding ∈ function.returnBindings catalog conventions) :
    (binding.source = .synthesized ∧ binding.isHttpResponse) ∨
      binding.source = .member ∧ ∃ member ∈ function.returnMembers, member.name = binding.name := by
  obtain rfl | ⟨member, hmember, hbinding⟩ := function.mem_returnBindings catalog conventions h
  · exact .inl ⟨rfl, rfl⟩
  · unfold bindingsOfMember at hbinding
    split at hbinding
    · obtain rfl := List.mem_singleton.1 hbinding
      exact .inl ⟨rfl, rfl⟩
    · obtain ⟨entry, -, rfl⟩ := List.mem_map.1 hbinding
      exact .inr ⟨rfl, member, hmember, rfl⟩

/-- A binding is an output on the method, named after the return value, or a response, or it takes
the name of a parameter or member. -/
theorem source_cases (h : binding ∈ (function.classify catalog conventions).bindings) :
    (binding.source = .method ∧ binding.name = returnBindingName) ∨
      (binding.source = .synthesized ∧ binding.isHttpResponse) ∨
      binding.takesName ∧ ((∃ param ∈ function.method.params, param.name = binding.name) ∨
        ∃ member ∈ function.returnMembers, member.name = binding.name) := by
  simp only [classify, List.mem_append] at h
  obtain (hmethod | hparam) | hreturn := h
  · exact .inl (of_mem_methodBindings hmethod)
  · obtain ⟨hsource, hname⟩ := of_mem_parameterBindings hparam
    exact .inr (.inr ⟨by simp [Binding.takesName, hsource], .inl hname⟩)
  · obtain hresponse | ⟨hsource, hname⟩ := of_mem_returnBindings hreturn
    · exact .inr (.inl hresponse)
    · exact .inr (.inr ⟨by simp [Binding.takesName, hsource], .inr hname⟩)

/-- Where no parameter and no member has the name of the return value, no binding takes it. -/
theorem name_ne_of_takesName (h : binding ∈ (function.classify catalog conventions).bindings)
    (htakes : binding.takesName)
    (hparams : ∀ param ∈ function.method.params, param.name ≠ returnBindingName)
    (hmembers : ∀ member ∈ function.returnMembers, member.name ≠ returnBindingName) :
    binding.name ≠ returnBindingName := by
  intro hname
  obtain ⟨hnotMethod, hnotSynthesized⟩ := Binding.source_ne_of_takesName htakes
  obtain ⟨hmethod, -⟩ | ⟨hsynthesized, -⟩ | ⟨-, hnamed⟩ := source_cases h
  · exact hnotMethod hmethod
  · exact hnotSynthesized hsynthesized
  · obtain ⟨param, hparam, hsame⟩ | ⟨member, hmember, hsame⟩ := hnamed
    · exact hparams param hparam (hsame.trans hname)
    · exact hmembers member hmember (hsame.trans hname)

variable (function catalog conventions) in
/-- The outputs on the method come before all other bindings. -/
theorem pairwise_source_classify :
    (function.classify catalog conventions).bindings.Pairwise fun first second ↦
      second.source = .method → first.source = .method := by
  rw [classify, List.append_assoc, List.pairwise_append]
  refine ⟨?_, ?_, ?_⟩
  · exact List.pairwise_of_forall_mem_list fun first hfirst _ _ _ ↦ (of_mem_methodBindings hfirst).1
  · refine List.pairwise_of_forall_mem_list fun _ _ second hsecond hmethod ↦ ?_
    obtain hparam | hreturn := List.mem_append.1 hsecond
    · cases (of_mem_parameterBindings hparam).1.symm.trans hmethod
    · obtain ⟨hsource, -⟩ | ⟨hsource, -⟩ := of_mem_returnBindings hreturn
      · cases hsource.symm.trans hmethod
      · cases hsource.symm.trans hmethod
  · exact fun first hfirst _ _ _ ↦ (of_mem_methodBindings hfirst).1

end ScannedFunction

section

variable {function : ScannedFunction} {catalog : Catalog} {conventions : Conventions}

/-- Where the rules are kept, only the name of the return value is shared: by the output on the
method and the response, or with a binding that takes it from a parameter or member. -/
theorem Classification.KeepsRules.of_sublist {first second : Binding}
    (hrules : (function.classify catalog conventions).KeepsRules)
    (hsub : [first, second].Sublist (function.classify catalog conventions).bindings)
    (hname : first.name = second.name) :
    first.name = returnBindingName ∧
      (first.AreReturned second ∨ first.takesName ∨ second.takesName) := by
  have hreturn : first.name = returnBindingName := by
    by_contra hother
    have hfilter : [first, second].filter (·.name ≠ returnBindingName) = [first, second] := by
      simp [hother, ← hname]
    have hnodup := ((hsub.filter (·.name ≠ returnBindingName)).map (·.name)).nodup
      hrules.distinctNames
    rw [hfilter] at hnodup
    simp [hname] at hnodup
  refine ⟨hreturn, ?_⟩
  have hmethods := not_both_of_countP_le_one hrules.methodOutputs hsub
  have hresponses := not_both_of_countP_le_one hrules.httpResponses hsub
  have horder := List.pairwise_iff_forall_sublist.1
    (function.pairwise_source_classify catalog conventions) hsub
  simp only [decide_eq_true_eq] at hmethods
  have hmem : second ∈ (function.classify catalog conventions).bindings :=
    hsub.subset (List.mem_cons_of_mem first List.mem_cons_self)
  -- An output on the method stands before a response, and neither comes twice.
  obtain ⟨hfirst, -⟩ | ⟨hfirst, hresponse⟩ | ⟨hfirst, -⟩ :=
    ScannedFunction.source_cases (hsub.subset List.mem_cons_self)
  · obtain ⟨hsecond, -⟩ | ⟨hsecond, -⟩ | ⟨hsecond, -⟩ := ScannedFunction.source_cases hmem
    · exact absurd ⟨hfirst, hsecond⟩ hmethods
    · exact .inl ⟨hreturn, hfirst, hsecond⟩
    · exact .inr (.inr hsecond)
  · obtain ⟨hsecond, -⟩ | ⟨-, hsecond⟩ | ⟨hsecond, -⟩ := ScannedFunction.source_cases hmem
    · cases hfirst.symm.trans (horder hsecond)
    · exact absurd ⟨hresponse, hsecond⟩ hresponses
    · exact .inr (.inr hsecond)
  · exact .inr (.inl hfirst)

/-- The name of the return value comes at most twice besides the bindings that take it. -/
theorem Classification.KeepsRules.countP_returnBindingName_le
    (hrules : (function.classify catalog conventions).KeepsRules) :
    (function.classify catalog conventions).bindings.countP (·.name = returnBindingName) ≤
      2 + (function.classify catalog conventions).bindings.countP fun binding ↦
        binding.takesName ∧ binding.name = returnBindingName := by
  have hnamed : (function.classify catalog conventions).bindings.countP
        (·.name = returnBindingName) ≤
      (function.classify catalog conventions).bindings.countP
          (fun binding ↦ binding.source = .method ∨ binding.isHttpResponse) +
        (function.classify catalog conventions).bindings.countP fun binding ↦
          binding.takesName ∧ binding.name = returnBindingName := by
    refine countP_le_add fun binding hbinding hname ↦ ?_
    obtain ⟨hmethod, -⟩ | ⟨-, hresponse⟩ | ⟨htakes, -⟩ := ScannedFunction.source_cases hbinding
    · simp [hmethod]
    · simp [hresponse]
    · simpa [htakes] using Or.inr hname
  have hreturned : (function.classify catalog conventions).bindings.countP
        (fun binding ↦ binding.source = .method ∨ binding.isHttpResponse) ≤
      (function.classify catalog conventions).bindings.countP (·.source = .method) +
        (function.classify catalog conventions).bindings.countP (·.isHttpResponse) :=
    countP_le_add fun binding _ h ↦ by simpa using h
  have hmethods := hrules.methodOutputs
  have hresponses := hrules.httpResponses
  omega

/-- Where the rules are kept, the return value's name is shared as it is meant to be exactly if no
binding that takes it has to share it. -/
theorem Classification.KeepsRules.pairwise_areReturned_iff
    (hrules : (function.classify catalog conventions).KeepsRules) :
    (function.classify catalog conventions).bindings.Pairwise
        (fun first second ↦ first.name = second.name → first.AreReturned second) ↔
      ∀ binding ∈ (function.classify catalog conventions).bindings, binding.takesName →
        binding.name = returnBindingName →
        (function.classify catalog conventions).bindings.countP
          (·.name = returnBindingName) = 1 := by
  constructor
  · intro hpairs binding hbinding htakes hname
    obtain ⟨before, after, hsplit⟩ := List.append_of_mem hbinding
    obtain ⟨hnotMethod, hnotSynthesized⟩ := Binding.source_ne_of_takesName htakes
    rw [hsplit, List.pairwise_append, List.pairwise_cons] at hpairs
    obtain ⟨-, ⟨hlater, -⟩, hearlier⟩ := hpairs
    -- Whatever stood beside it under the name would make it one of the two that may share it.
    have hbefore : before.countP (·.name = returnBindingName) = 0 := by
      refine List.countP_eq_zero.2 fun other hother hsame ↦ ?_
      have hshared : other.name = binding.name := (of_decide_eq_true hsame).trans hname.symm
      exact hnotSynthesized (hearlier other hother binding List.mem_cons_self hshared).2.2
    have hafter : after.countP (·.name = returnBindingName) = 0 := by
      refine List.countP_eq_zero.2 fun other hother hsame ↦ ?_
      have hshared : binding.name = other.name := hname.trans (of_decide_eq_true hsame).symm
      exact hnotMethod (hlater other hother hshared).2.1
    rw [hsplit, List.countP_append, List.countP_cons, hbefore, hafter]
    simp [hname]
  · intro hone
    refine List.pairwise_iff_forall_sublist.2 fun {first second} hsub hname ↦ ?_
    obtain ⟨hreturn, hreturned | htakes⟩ := hrules.of_sublist hsub hname
    · exact hreturned
    · have hcount : (function.classify catalog conventions).bindings.countP
          (·.name = returnBindingName) = 1 := by
        obtain hfirst | hsecond := htakes
        · exact hone first (hsub.subset List.mem_cons_self) hfirst hreturn
        · exact hone second (hsub.subset (List.mem_cons_of_mem first List.mem_cons_self)) hsecond
            (hname ▸ hreturn)
      refine absurd ⟨?_, ?_⟩ (not_both_of_countP_le_one (Nat.le_of_eq hcount) hsub)
      · simpa using hreturn
      · simpa [← hname] using hreturn

end

/-- Two bindings of an accepted function share a name only if it is that of the return value, and
then they are the output on the method and the response behind it, or one of them has taken the name
from a parameter or member. The name comes at most twice besides those that take it; it is shared by
the output and the response alone exactly if every binding that takes it is the only one that has
it, and so if no parameter and no member of the return type has that name. -/
theorem sharedNames_of_checked {function : ScannedFunction} {catalog : Catalog}
    {conventions : Conventions} {checked : CheckedFunction}
    (h : checkFunction function catalog conventions = .ok checked) :
    (checked.bindings.Pairwise fun first second ↦ first.name = second.name →
      first.name = returnBindingName ∧
        (first.AreReturned second ∨ first.takesName ∨ second.takesName)) ∧
    checked.bindings.countP (·.name = returnBindingName) ≤
      2 + checked.bindings.countP (fun binding ↦
        binding.takesName ∧ binding.name = returnBindingName) ∧
    ((checked.bindings.Pairwise fun first second ↦
        first.name = second.name → first.AreReturned second) ↔
      ∀ binding ∈ checked.bindings, binding.takesName → binding.name = returnBindingName →
        checked.bindings.countP (·.name = returnBindingName) = 1) ∧
    ((∀ param ∈ function.method.params, param.name ≠ returnBindingName) →
      (∀ member ∈ function.returnMembers, member.name ≠ returnBindingName) →
      (checked.bindings.Pairwise fun first second ↦
        first.name = second.name → first.AreReturned second) ∧
      checked.bindings.countP (·.name = returnBindingName) ≤ 2) := by
  obtain ⟨hrules, rfl⟩ := checkFunction_eq_ok_iff.1 h
  have hcount := hrules.countP_returnBindingName_le
  refine ⟨?_, hcount, hrules.pairwise_areReturned_iff, fun hparams hmembers ↦ ?_⟩
  · exact List.pairwise_iff_forall_sublist.2 fun hsub hname ↦ hrules.of_sublist hsub hname
  have hfree : ∀ binding ∈ (function.classify catalog conventions).bindings, binding.takesName →
      binding.name ≠ returnBindingName :=
    fun _ hbinding htakes ↦ ScannedFunction.name_ne_of_takesName hbinding htakes hparams hmembers
  refine ⟨hrules.pairwise_areReturned_iff.2 fun binding hbinding htakes hname ↦
    absurd hname (hfree binding hbinding htakes), ?_⟩
  have hnone : (function.classify catalog conventions).bindings.countP (fun binding ↦
      binding.takesName ∧ binding.name = returnBindingName) = 0 := by
    refine List.countP_eq_zero.2 fun binding hbinding hboth ↦ ?_
    obtain ⟨htakes, hname⟩ := of_decide_eq_true hboth
    exact hfree binding hbinding htakes hname
  dsimp only
  omega

namespace ReturnParameter

/-- A method with a queue and a blob on one parameter, which is called like the return value. -/
def method : Method :=
  (((Method.of "Run" .void).annotated
    ((Attribute.named "Function").withArgument (.string "Copy"))).withParam
      (((Parameter.of "$return" (.named "string" [])).annotated
        (((Attribute.named "QueueTrigger").withArgument (.string "orders")).withSpan
          ⟨100, 120⟩)).annotated
        (((Attribute.named "BlobInput").withArgument (.string "copies")).withSpan
          ⟨130, 150⟩))).withSpan ⟨10, 90⟩

/-- The type that owns the method. -/
def owner : DeclaredType := ((DeclaredType.of "Orders").inFile "Orders.cs").withMethod method

/-- The program of the owner. -/
def program : Program := (Program.of "Shop").withType owner

/-- The function of the program. -/
def function : ScannedFunction := ⟨"Copy", "Shop.Orders.Run", owner, method, none⟩

/-- What is found on the function. -/
def found : Classification := function.classify (.forProgram program) .standard

/-- The function is accepted with two bindings that have the name of the return value, neither of
which is an output on the method or a response. -/
theorem exists_shared_return :
    function ∈ functionsOf (program.scanOutcomes .standard) ∧
    ∃ checked, checkFunction function (.forProgram program) .standard = .ok checked ∧
      checked.bindings.map (fun binding ↦ (binding.name, binding.source)) =
        [(returnBindingName, .parameter), (returnBindingName, .parameter)] ∧
      ¬ checked.bindings.Pairwise fun first second ↦
        first.name = second.name → first.AreReturned second := by
  have hfunctions : functionsOf (program.scanOutcomes .standard) = [function] := rfl
  have hpasses : (function.validate found).any (·.isHard) = false := rfl
  have hplaces : found.bindings.map (fun binding ↦ (binding.name, binding.source)) =
    [(returnBindingName, .parameter), (returnBindingName, .parameter)] := rfl
  refine ⟨hfunctions ▸ List.mem_singleton_self function,
    ⟨function, found.bindings, function.validate found⟩, ?_, hplaces, fun hpairs ↦ ?_⟩
  · rw [checkFunction]
    exact if_neg (hpasses ▸ Bool.false_ne_true)
  · have hsources : (found.bindings.map fun binding ↦ (binding.name, binding.source)).Pairwise
        fun first second ↦ first.1 = second.1 → second.2 = .synthesized :=
      List.pairwise_map.2 (hpairs.imp fun hreturned hname ↦ (hreturned hname).2.2)
    simp [hplaces] at hsources

end ReturnParameter

namespace ReturnedReply

/-- A method with a queue that returns an HTTP response. -/
def method : Method :=
  ((Method.of "Run" (.named "HttpResponseData" [])).annotated
    ((Attribute.named "Function").withArgument (.string "Reply"))).annotated
      ((Attribute.named "QueueOutput").withArgument (.string "replies"))

/-- The function of the method. -/
def function : ScannedFunction :=
  ⟨"Reply", "Shop.Orders.Run", (DeclaredType.of "Orders").withMethod method, method, none⟩

/-- The output on the method and the response share the name of the return value. -/
theorem sharedNames_of_checked_reply :
    ∃ checked, checkFunction function .builtin .standard = .ok checked ∧
      checked.bindings.map (fun binding ↦ (binding.name, binding.source)) =
        [(returnBindingName, .method), (returnBindingName, .synthesized)] ∧
      (checked.bindings.Pairwise fun first second ↦
        first.name = second.name → first.AreReturned second) ∧
      checked.bindings.countP (·.name = returnBindingName) ≤ 2 := by
  let found := function.classify .builtin .standard
  have hpasses : (function.validate found).any (·.isHard) = false := rfl
  have hchecked : checkFunction function .builtin .standard =
      .ok ⟨function, found.bindings, function.validate found⟩ := by
    rw [checkFunction]
    exact if_neg (hpasses ▸ Bool.false_ne_true)
  obtain ⟨-, -, -, hreturned⟩ := sharedNames_of_checked hchecked
  refine ⟨_, hchecked, rfl, hreturned ?_ ?_⟩
  · intro param hparam
    cases hparam
  · intro member hmember
    cases hmember

end ReturnedReply

end FunctionBindings
