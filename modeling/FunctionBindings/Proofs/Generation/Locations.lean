import FunctionBindings.Proofs.Binding.Spots
import FunctionBindings.Proofs.Generation.Contributions

/-!
# Files of errors

Every error and warning about a function has the file of the type that owns the function. The spot
that it is reported at lies in the declaration of that type or, on a member, in that of the return
type. So the file is that of the declaration that the span points into unless the return type is
declared in another file (`location_of_reported`). There it is wrong
(`exists_location_in_other_file`).
-/

namespace FunctionBindings

namespace ScannedFunction

variable (function : ScannedFunction) (conventions : Conventions)

/-- The type whose declaration the span of an error at a spot points into: that of the return type
on a member, and the owner anywhere else. A spot without a known span has that of the method. -/
def holder? (spot : Spot) : Option DeclaredType :=
  if spot.isOnMember ∧ ¬ spot.span.isUnknown then function.returnDeclaration
  else some function.owner

variable {function : ScannedFunction} {conventions : Conventions}

/-- A function with a spot on a member has a declaration of its return type. -/
theorem exists_returnDeclaration {spot : Spot} (hspot : spot ∈ function.spots conventions)
    (hmember : spot.isOnMember) : ∃ declaration, function.returnDeclaration = some declaration := by
  -- Otherwise there are no members to look at.
  cases hdeclaration : function.returnDeclaration with
  | some declaration => exact ⟨declaration, rfl⟩
  | none =>
      have hnone : function.consideredMembers conventions = [] := by
        simp [consideredMembers, returnMembers, hdeclaration]
      simp only [spots, hnone, siteAttributes, sites, List.filter_nil, List.map_nil,
        List.append_nil, List.mem_append, List.mem_map, List.mem_flatMap, List.mem_cons,
        List.not_mem_nil, or_false] at hspot
      obtain ⟨_, ⟨_, rfl | ⟨param, -, rfl⟩, attr, -, rfl⟩, rfl⟩ | rfl := hspot <;> cases hmember

end ScannedFunction

/-- Whatever a report says about a function, it says at a spot of that function, with the span of
the spot or, if that is not known, of the method, and always in the file of the owner. This is the
file that the span points into except where it points to a member of a return type that is declared
in another file than the owner. -/
theorem location_of_reported {program : Program} {options : GeneratorOptions} {error : CheckError}
    (h : .check error ∈ (program.generate options).errors ∨
      error ∈ (program.generate options).warnings) :
    ∃ function ∈ functionsOf (program.scanOutcomes options.conventions),
    ∃ spot ∈ function.spots options.conventions, ∃ holder,
      error.function = function.name ∧ error.owner = function.owner.name ∧
      error.cause.IsAbout (.forProgram program) spot ∧
      function.holder? spot = some holder ∧
      error.location.span = (if spot.span.isUnknown then function.method.span else spot.span) ∧
      error.location.file = function.owner.file ∧
      (error.location.file = holder.file ↔
        ¬ spot.isOnMember ∨ spot.span.isUnknown ∨ holder.file = function.owner.file) := by
  obtain ⟨function, hfunction, hreported⟩ := program.exists_function_of_reported options h
  obtain ⟨spot, hspot, habout, herror⟩ := ScannedFunction.exists_spot_of_mem_validate hreported
  have hnames : error.function = function.name ∧ error.owner = function.owner.name := by
    rw [herror]
    exact ⟨rfl, rfl⟩
  have hspan : error.location.span =
      if spot.span.isUnknown then function.method.span else spot.span := by
    rw [herror]
    rfl
  have hfile : error.location.file = function.owner.file := by
    rw [herror]
    rfl
  by_cases hmember : spot.isOnMember ∧ ¬ spot.span.isUnknown
  · obtain ⟨declaration, hdeclaration⟩ :=
      ScannedFunction.exists_returnDeclaration hspot hmember.1
    have hholder : function.holder? spot = some declaration := by
      rw [ScannedFunction.holder?, if_pos hmember, hdeclaration]
    refine ⟨function, hfunction, spot, hspot, declaration, hnames.1, hnames.2, habout, hholder,
      hspan, hfile, ?_⟩
    rw [hfile]
    simp [hmember, eq_comm]
  · have hholder : function.holder? spot = some function.owner := by
      rw [ScannedFunction.holder?, if_neg hmember]
    exact ⟨function, hfunction, spot, hspot, function.owner, hnames.1, hnames.2, habout, hholder,
      hspan, hfile, by simp [hfile]⟩

namespace SplitResult

/-- A method whose return type is declared in another file. -/
def method : Method :=
  ((Method.of "Run" (.named "Result" [])).annotated
    ((Attribute.named "Function").withArgument (.string "Copy"))).withSpan ⟨10, 40⟩

/-- The type that owns the method. -/
def owner : DeclaredType := ((DeclaredType.of "Orders").inFile "Orders.cs").withMethod method

/-- The second output of the member. -/
def attr : Attribute :=
  ((Attribute.named "BlobOutput").withArgument (.string "copies")).withSpan ⟨130, 150⟩

/-- A member with two outputs. -/
def member : Member :=
  ((Member.of "Copy" (.named "string" [])).annotated
    (((Attribute.named "QueueOutput").withArgument (.string "orders")).withSpan
      ⟨100, 120⟩)).annotated attr

/-- The return type. -/
def result : DeclaredType := ((DeclaredType.of "Result").inFile "Result.cs").withMember member

/-- The program of the two types. -/
def program : Program := ((Program.of "Shop").withType owner).withType result

/-- The function of the program. -/
def function : ScannedFunction := ⟨"Copy", "Shop.Orders.Run", owner, method, some result⟩

/-- The error at the second output. -/
def error : CheckError :=
  ⟨"Copy", "Orders", ⟨some "Orders.cs", ⟨130, 150⟩⟩, .multipleMemberOutputs "Copy"⟩

/-- The report has the error. -/
theorem errors_generate : (program.generate .standard).errors = [.check error] := by rfl

/-- The error is about an attribute in one file, has the span of that attribute, and names another
file. -/
theorem exists_location_in_other_file :
    .check error ∈ (program.generate .standard).errors ∧
    function ∈ functionsOf (program.scanOutcomes .standard) ∧
    ∃ spot ∈ function.spots .standard,
      error.cause.IsAbout (.forProgram program) spot ∧ spot.isOnMember ∧ ¬ spot.span.isUnknown ∧
      error.location.span = spot.span ∧ function.holder? spot = some result ∧
      error.location.file ≠ result.file := by
  have herror : .check error ∈ (program.generate .standard).errors := by
    rw [errors_generate]
    exact List.mem_singleton_self _
  have hfunction : function ∈ functionsOf (program.scanOutcomes .standard) := by
    have hfunctions : functionsOf (program.scanOutcomes .standard) = [function] := rfl
    rw [hfunctions]
    exact List.mem_singleton_self _
  have hspot : .onSite (.ofMember .standard member) attr ∈ function.spots .standard := by
    have hthird : (function.spots .standard)[2]? =
        some (.onSite (.ofMember .standard member) attr) := rfl
    exact List.mem_of_getElem? hthird
  have habout : error.cause.IsAbout (.forProgram program)
      (.onSite (.ofMember .standard member) attr) := ⟨_, rfl, rfl, rfl⟩
  exact ⟨herror, hfunction, _, hspot, habout, by decide, by decide, rfl, rfl, by decide⟩

/-- The error at the second output is in the file of the owner, although the return type is declared
in another one. -/
theorem location_of_reported_result :
    .check error ∈ (program.generate .standard).errors ∧
    ∃ function ∈ functionsOf (program.scanOutcomes .standard), ∃ spot ∈ function.spots .standard,
    ∃ holder, error.cause.IsAbout (.forProgram program) spot ∧
      function.holder? spot = some holder ∧
      (error.location.file = holder.file ↔
        ¬ spot.isOnMember ∨ spot.span.isUnknown ∨ holder.file = some "Orders.cs") := by
  have herror : .check error ∈ (program.generate .standard).errors := by
    rw [errors_generate]
    exact List.mem_singleton_self _
  refine ⟨herror, ?_⟩
  obtain ⟨function, hfunction, spot, hspot, holder, -, -, habout, hholder, -, hfile, hiff⟩ :=
    location_of_reported (.inl herror)
  have howner : some "Orders.cs" = function.owner.file := hfile
  exact ⟨function, hfunction, spot, hspot, holder, habout, hholder, howner ▸ hiff⟩

end SplitResult

end FunctionBindings
