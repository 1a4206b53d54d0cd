import FunctionBindings.Binding.Builtin
import FunctionBindings.Generation.Properties
import FunctionBindings.Proofs.Binding.RuleReport

/-!
# Choosing a constructor

The rules look for a constructor by the number of an attribute's arguments, and the descriptor of a
binding by the arguments themselves. Both go through the constructors that a call can mean
(`BindingSpec.overloads`) and take the first with some property: what the number leaves open, the
arguments decide (`BindingSpec.Chooses`), and where one of the two finds nothing, so does the other.
Main statement: `constructor_choice`, with what follows for the bindings of an accepted function: no
argument is left without a parameter.
-/

namespace FunctionBindings

/-- True of the first element of a list with a property. -/
def IsFirst {α : Type} (holds : α → Prop) (xs : List α) (x : α) : Prop :=
  ∃ before after, xs = before ++ x :: after ∧ holds x ∧ ∀ other ∈ before, ¬ holds other

namespace IsFirst

variable {α : Type} {holds : α → Prop} {xs : List α} {x : α}

/-- A search finds the first element that passes its test. -/
theorem find?_eq_some_iff {test : α → Bool} (htest : ∀ x, test x ↔ holds x) :
    xs.find? test = some x ↔ IsFirst holds xs x := by
  rw [List.find?_eq_some_iff_append, IsFirst, htest]
  constructor
  · rintro ⟨hx, before, after, hsplit, hbefore⟩
    refine ⟨before, after, hsplit, hx, fun other hother hholds ↦ ?_⟩
    simpa [(htest other).2 hholds] using hbefore other hother
  · rintro ⟨before, after, hsplit, hx, hbefore⟩
    refine ⟨hx, before, after, hsplit, fun other hother ↦ ?_⟩
    rw [Bool.not_eq_true', Bool.eq_false_iff, ne_eq, htest]
    exact hbefore other hother

/-- The first element with a property is among the elements, and has it. -/
theorem mem (h : IsFirst holds xs x) : x ∈ xs ∧ holds x := by
  obtain ⟨before, after, rfl, hx, -⟩ := h
  exact ⟨by simp, hx⟩

/-- No more than one element is the first. -/
theorem unique {y : α} (hx : IsFirst holds xs x) (hy : IsFirst holds xs y) : x = y := by
  classical
  have htest (z : α) : decide (holds z) ↔ holds z := decide_eq_true_iff
  rw [← find?_eq_some_iff htest] at hx hy
  exact Option.some.inj (hx.symm.trans hy)

/-- The first element with a property among those that are kept has both properties, and is the
first that has. -/
theorem filter_iff {keep : α → Bool} :
    IsFirst holds (xs.filter keep) x ↔ IsFirst (fun y ↦ keep y ∧ holds y) xs x := by
  classical
  have htest (z : α) : decide (holds z) ↔ holds z := decide_eq_true_iff
  rw [← find?_eq_some_iff htest, List.find?_filter]
  exact find?_eq_some_iff fun z ↦ by simp

end IsFirst

namespace BindingSpec

/-- A shortest list is found in every list of lists but the empty one. -/
theorem firstShortest?_eq_none_iff {lists : List (List String)} :
    firstShortest? lists = none ↔ lists = [] := by
  cases lists with
  | nil => simp [firstShortest?]
  | cons list lists =>
      rw [firstShortest?]
      cases firstShortest? lists with
      | none => simp
      | some shortest =>
          dsimp only
          split <;> simp

/-- What is found is the first of the lists that no other is shorter than. -/
theorem isFirst_of_firstShortest? {lists : List (List String)} {shortest : List String}
    (h : firstShortest? lists = some shortest) :
    IsFirst (fun list ↦ ∀ other ∈ lists, list.length ≤ other.length) lists shortest := by
  induction lists generalizing shortest with
  | nil => cases h
  | cons list lists ih =>
      rw [firstShortest?] at h
      cases hrest : firstShortest? lists with
      | none =>
          obtain rfl := firstShortest?_eq_none_iff.1 hrest
          obtain rfl : list = shortest := by simpa [hrest] using h
          exact ⟨[], [], rfl, by simp, nofun⟩
      | some later =>
          obtain ⟨before, after, hsplit, hlater, hbefore⟩ := ih hrest
          rw [hrest] at h
          dsimp only at h
          split at h
          -- A later list is shorter than the first one, and than all lists in front of it.
          · rename_i hshorter
            obtain rfl := Option.some.inj h
            refine ⟨list :: before, after, by rw [hsplit, List.cons_append], ?_, ?_⟩
            · rintro other (_ | ⟨_, hother⟩)
              · exact Nat.le_of_lt hshorter
              · exact hlater other hother
            · rintro other (_ | ⟨_, hother⟩) hshortest
              · have hmem : later ∈ lists := by simp [hsplit]
                have hle := hshortest later (List.mem_cons_of_mem list hmem)
                omega
              · exact hbefore other hother fun another hanother ↦
                  hshortest another (List.mem_cons_of_mem list hanother)
          -- Otherwise the first list is as short as any later one.
          · rename_i hshorter
            obtain rfl := Option.some.inj h
            refine ⟨[], lists, rfl, ?_, nofun⟩
            rintro other (_ | ⟨_, hother⟩)
            · exact Nat.le_refl _
            · have hle := hlater other hother
              omega

/-- The first of the shortest lists is the one that is found. -/
theorem firstShortest?_eq_some_iff {lists : List (List String)} {shortest : List String} :
    firstShortest? lists = some shortest ↔
      IsFirst (fun list ↦ ∀ other ∈ lists, list.length ≤ other.length) lists shortest := by
  refine ⟨isFirst_of_firstShortest?, fun h ↦ ?_⟩
  cases hfound : firstShortest? lists with
  | none =>
      obtain rfl := firstShortest?_eq_none_iff.1 hfound
      cases h.mem.1
  | some found => rw [(isFirst_of_firstShortest? hfound).unique h]

/-- The constructors that a call can mean: the declared ones or, where none is declared, the one
without parameters. -/
def overloads (spec : BindingSpec) : List (List String) :=
  if spec.constructors = [] then [[]] else spec.constructors

/-- True of parameters and arguments of which the same are about members of enumerations. -/
def LinesUp (spec : BindingSpec) (params : List String) (arguments : List Constant) : Prop :=
  ∀ entry ∈ params.zip arguments,
    entry.1 ∈ spec.enumParams ↔ ∃ name, entry.2 = .member name

/-- The constructor that arguments belong to. As many parameters as there are arguments are better
than more, and where several constructors have as many, the first that lines up is better than the
first. -/
inductive Chooses (spec : BindingSpec) (arguments : List Constant) (params : List String) :
    Prop where
  | fitting
      (hfirst : IsFirst
        (fun other ↦ other.length = arguments.length ∧ spec.LinesUp other arguments)
        spec.overloads params)
  | exact
      (hnone : ∀ other ∈ spec.overloads,
        ¬ (other.length = arguments.length ∧ spec.LinesUp other arguments))
      (hfirst : IsFirst (fun other ↦ other.length = arguments.length) spec.overloads params)
  | longer
      (hnone : ∀ other ∈ spec.overloads, ¬ other.length = arguments.length)
      (hfirst : IsFirst
        (fun other ↦ arguments.length < other.length ∧
          ∀ another ∈ spec.overloads, arguments.length < another.length →
            other.length ≤ another.length)
        spec.overloads params)

variable {spec : BindingSpec} {arguments : List Constant} {params : List String}

/-- The parameters and arguments that fit are those that line up. -/
theorem fits_iff : spec.fits params arguments ↔ spec.LinesUp params arguments := by
  have hmember (argument : Constant) : argument.isMember ↔ ∃ name, argument = .member name := by
    cases argument <;> simp [Constant.isMember]
  rw [fits, List.all_eq_true, LinesUp]
  refine forall₂_congr fun entry _ ↦ ?_
  rw [beq_iff_eq, Bool.eq_iff_iff, List.contains_iff_mem, hmember]

/-- The constructor for a number of arguments, as a search in the overloads. -/
theorem constructorFor?_eq (spec : BindingSpec) (count : Nat) :
    spec.constructorFor? count =
      (spec.overloads.find? (·.length = count)).or
        (firstShortest? (spec.overloads.filter (count < ·.length))) := by
  unfold constructorFor? overloads
  cases spec.constructors with
  | nil =>
      cases count with
      | zero => rfl
      | succ count => simp [firstShortest?]
  | cons first rest =>
      simp only [List.isEmpty_cons, Bool.false_eq_true, if_false, reduceCtorEq]
      cases List.find? (fun params ↦ decide (params.length = count)) (first :: rest) <;> rfl

/-- The constructor for arguments, as a search in the overloads. -/
theorem constructorForArguments?_eq (spec : BindingSpec) (arguments : List Constant) :
    spec.constructorForArguments? arguments =
      (spec.overloads.find? fun params ↦
        params.length == arguments.length && spec.fits params arguments).or
      (spec.constructorFor? arguments.length) := by
  unfold constructorForArguments? overloads
  split
  · rename_i hfound
    have hdeclared : spec.constructors ≠ [] := by
      intro hnone
      simp [hnone] at hfound
    simp [hdeclared, hfound]
  · rename_i hfound
    by_cases hnone : spec.constructors = []
    -- The implicit constructor is found by the number as well.
    · cases arguments with
      | nil => simp [hnone, constructorFor?, fits]
      | cons argument arguments => simp [hnone]
    · simp [hnone, hfound]

/-- Arguments belong to the constructor that is chosen for them. -/
theorem constructorForArguments?_eq_some_iff :
    spec.constructorForArguments? arguments = some params ↔ spec.Chooses arguments params := by
  have hfitting (other : List String) :
      (other.length == arguments.length && spec.fits other arguments) ↔
        other.length = arguments.length ∧ spec.LinesUp other arguments := by
    rw [Bool.and_eq_true, beq_iff_eq, fits_iff]
  have hexact (other : List String) :
      decide (other.length = arguments.length) ↔ other.length = arguments.length :=
    decide_eq_true_iff
  have hlonger : firstShortest? (spec.overloads.filter (arguments.length < ·.length)) =
      some params ↔
        IsFirst (fun other ↦ arguments.length < other.length ∧
          ∀ another ∈ spec.overloads, arguments.length < another.length →
            other.length ≤ another.length) spec.overloads params := by
    rw [firstShortest?_eq_some_iff, IsFirst.filter_iff]
    simp
  rw [constructorForArguments?_eq, constructorFor?_eq, Option.or_eq_some_iff,
    Option.or_eq_some_iff, IsFirst.find?_eq_some_iff hfitting, IsFirst.find?_eq_some_iff hexact,
    hlonger, List.find?_eq_none, List.find?_eq_none]
  simp only [hfitting, hexact]
  constructor
  · rintro (hfirst | ⟨hnone, hfirst | ⟨hnone', hfirst⟩⟩)
    · exact .fitting hfirst
    · exact .exact hnone hfirst
    · exact .longer hnone' hfirst
  · rintro (hfirst | ⟨hnone, hfirst⟩ | ⟨hnone, hfirst⟩)
    · exact .inl hfirst
    · exact .inr ⟨hnone, .inl hfirst⟩
    · exact .inr ⟨fun other hother hfits ↦ hnone other hother hfits.1, .inr ⟨hnone, hfirst⟩⟩

/-- The chosen constructor takes all arguments, and no more where one of that length exists. -/
theorem Chooses.length_le (h : spec.Chooses arguments params) :
    arguments.length ≤ params.length ∧
      ((∃ other ∈ spec.overloads, other.length = arguments.length) →
        params.length = arguments.length) := by
  cases h with
  | fitting hfirst => exact ⟨Nat.le_of_eq hfirst.mem.2.1.symm, fun _ ↦ hfirst.mem.2.1⟩
  | exact hnone hfirst => exact ⟨Nat.le_of_eq hfirst.mem.2.symm, fun _ ↦ hfirst.mem.2⟩
  | longer hnone hfirst =>
      refine ⟨Nat.le_of_lt hfirst.mem.2.1, ?_⟩
      rintro ⟨other, hother, hlength⟩
      exact absurd hlength (hnone other hother)

/-- There is no constructor for a number of arguments if all overloads have fewer parameters. -/
theorem constructorFor?_eq_none_iff {count : Nat} :
    spec.constructorFor? count = none ↔
      (spec.constructors ≠ [] ∧ ∀ params ∈ spec.constructors, params.length < count) ∨
      (spec.constructors = [] ∧ count ≠ 0) := by
  rw [constructorFor?_eq, Option.or_eq_none_iff, List.find?_eq_none, firstShortest?_eq_none_iff,
    List.filter_eq_nil_iff]
  have hall : ((∀ params ∈ spec.overloads, ¬ decide (params.length = count)) ∧
      ∀ params ∈ spec.overloads, ¬ decide (count < params.length)) ↔
        ∀ params ∈ spec.overloads, params.length < count := by
    simp only [decide_eq_true_eq]
    constructor
    · intro ⟨hdiffer, hshort⟩ params hparams
      have hne := hdiffer params hparams
      have hle := hshort params hparams
      omega
    · intro hless
      refine ⟨fun params hparams ↦ ?_, fun params hparams ↦ ?_⟩
      · exact Nat.ne_of_lt (hless params hparams)
      · exact Nat.lt_asymm (hless params hparams)
  rw [hall, overloads]
  by_cases hnone : spec.constructors = []
  · simp [hnone, Nat.pos_iff_ne_zero]
  · simp [hnone]

/-- There is no constructor for arguments if there is none for their number. -/
theorem constructorForArguments?_eq_none_iff :
    spec.constructorForArguments? arguments = none ↔
      spec.constructorFor? arguments.length = none := by
  rw [constructorForArguments?_eq, Option.or_eq_none_iff]
  refine and_iff_right_of_imp fun hnone ↦ ?_
  rw [constructorFor?_eq, Option.or_eq_none_iff, List.find?_eq_none] at hnone
  rw [List.find?_eq_none]
  intro other hother hfits
  rw [Bool.and_eq_true, beq_iff_eq] at hfits
  exact hnone.1 other hother (decide_eq_true hfits.1)

end BindingSpec

/-- The arguments of an attribute have a constructor exactly if their number has one: if a declared
constructor is long enough, or if none is declared and there are no arguments. They belong to the
first constructor of their number that lines up with them, to the first of their number if none
does, and to the first of the shortest longer ones if there is none of their number; where no
constructor is declared, the one without parameters counts. So in the properties of a binding of an
accepted function, every positional argument stands under a parameter of its constructor. -/
theorem constructor_choice (spec : BindingSpec) (arguments : List Constant) :
    (spec.constructorForArguments? arguments = none ↔
      spec.constructorFor? arguments.length = none) ∧
    (spec.constructorFor? arguments.length = none ↔
      (spec.constructors ≠ [] ∧
        ∀ params ∈ spec.constructors, params.length < arguments.length) ∨
      (spec.constructors = [] ∧ arguments ≠ [])) ∧
    (∀ params, spec.constructorForArguments? arguments = some params ↔
      spec.Chooses arguments params) ∧
    (∀ params, spec.Chooses arguments params →
      arguments.length ≤ params.length ∧
      ((∃ other ∈ spec.overloads, other.length = arguments.length) →
        params.length = arguments.length)) ∧
    ∀ (function : ScannedFunction) (catalog : Catalog) (conventions : Conventions)
      (checked : CheckedFunction), checkFunction function catalog conventions = .ok checked →
      ∀ binding ∈ checked.bindings, ∀ (attr : Attribute) (found : BindingSpec),
        binding.origin = .declared attr found →
        ∃ params, found.constructorForArguments? attr.arguments = some params ∧
          attr.arguments.length ≤ params.length ∧
          (params.zip attr.arguments).map Prod.snd = attr.arguments ∧
          attr.properties found =
            .ofList ((params.zip attr.arguments ++ attr.namedArguments.map fun argument ↦
              (argument.name, argument.value)).filterMap Attribute.propertyEntry?) := by
  refine ⟨BindingSpec.constructorForArguments?_eq_none_iff, ?_,
    fun params ↦ BindingSpec.constructorForArguments?_eq_some_iff,
    fun params h ↦ h.length_le, ?_⟩
  · rw [BindingSpec.constructorFor?_eq_none_iff, ne_eq, ne_eq, ne_eq, List.length_eq_zero_iff]
  · intro function catalog conventions checked hchecked binding hbinding attr found horigin
    obtain ⟨hrules, rfl⟩ := checkFunction_eq_ok_iff.1 hchecked
    have hsome := hrules.constructors binding hbinding attr found horigin
    rw [Option.isSome_iff_ne_none, ne_eq, ← BindingSpec.constructorForArguments?_eq_none_iff,
      ← ne_eq, Option.ne_none_iff_exists'] at hsome
    obtain ⟨params, hparams⟩ := hsome
    have hlength : attr.arguments.length ≤ params.length :=
      (BindingSpec.constructorForArguments?_eq_some_iff.1 hparams).length_le.1
    refine ⟨params, hparams, hlength, List.map_snd_zip hlength, ?_⟩
    rw [Attribute.properties, Attribute.argumentEntries, hparams, Option.getD_some]

namespace LevelTrigger

/-- The spec of the HTTP trigger, in which two constructors have one parameter. -/
def spec : BindingSpec :=
  ⟨"HttpTrigger", "HttpTrigger", .trigger,
    [[], ["methods"], ["authLevel"], ["authLevel", "methods"]], ["authLevel"]⟩

/-- An HTTP trigger with a member of an enumeration. -/
def attr : Attribute :=
  (Attribute.named "HttpTrigger").withArgument (.member "AuthorizationLevel.Function")

/-- A method with the trigger. -/
def method : Method :=
  ((Method.of "Run" .void).annotated
    ((Attribute.named "Function").withArgument (.string "Order"))).withParam
      ((Parameter.of "request" (.named "string" [])).annotated attr)

/-- The function of the method. -/
def function : ScannedFunction :=
  ⟨"Order", "Shop.Orders.Run", (DeclaredType.of "Orders").withMethod method, method, none⟩

/-- The argument belongs to the second of the constructors with one parameter, and becomes a
property under the name of its parameter. -/
theorem constructor_choice_level :
    spec.Chooses attr.arguments ["authLevel"] ∧
    ∃ checked, checkFunction function .builtin .standard = .ok checked ∧
      ∃ binding ∈ checked.bindings, binding.origin = .declared attr spec ∧
        (attr.properties spec).entries = [("authLevel", .text "Function")] := by
  obtain ⟨-, -, hchooses, -, hbindings⟩ := constructor_choice spec attr.arguments
  have hlevel : spec.constructorForArguments? attr.arguments = some ["authLevel"] := rfl
  let found := function.classify .builtin .standard
  have hpasses : (function.validate found).any (·.isHard) = false := rfl
  have hchecked : checkFunction function .builtin .standard =
      .ok ⟨function, found.bindings, function.validate found⟩ := by
    rw [checkFunction]
    exact if_neg (hpasses ▸ Bool.false_ne_true)
  have hbinding : ⟨"request", .parameter, .declared attr spec, .input, some .string, .unknown⟩ ∈
      found.bindings := List.mem_singleton_self _
  obtain ⟨params, hparams, -, -, hproperties⟩ :=
    hbindings function .builtin .standard _ hchecked _ hbinding attr spec rfl
  obtain rfl : ["authLevel"] = params := Option.some.inj (hlevel.symm.trans hparams)
  refine ⟨(hchooses ["authLevel"]).1 hlevel, _, hchecked, _, hbinding, rfl, ?_⟩
  rw [hproperties]
  rfl

end LevelTrigger

end FunctionBindings
