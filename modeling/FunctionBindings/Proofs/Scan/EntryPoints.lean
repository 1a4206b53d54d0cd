import FunctionBindings.Proofs.Generation.Contributions
import FunctionBindings.Proofs.Scan.Naming
import FunctionBindings.Proofs.Text.Joined

/-!
# Entry points

An entry point names the assembly, the owner and the method of a function, joined by dots. The owner
goes by its simple name, so functions of equally named types in different namespaces may have the
same entry point; and as names may hold dots themselves, so may functions whose owner and method are
divided at different dots of the same text (`ScannedFunction.DividesBefore`). There is no other way.
Main statement: `entryPoints_of_scan`.
-/

namespace FunctionBindings

namespace ScannedFunction

/-- True of two functions with the same text of owner and method, in which the owner of the first
ends at an earlier dot than that of the second. -/
def DividesBefore (first second : ScannedFunction) : Prop :=
  ∃ middle, second.owner.name = first.owner.name ++ "." ++ middle ∧
    first.method.name = middle ++ "." ++ second.method.name

/-- The dot as a separator. -/
theorem toList_dot : ".".toList = ['.'] := rfl

/-- The entry point of a function of a program. -/
theorem IsFrom.entryPoint_eq {function : ScannedFunction} {program : Program}
    {conventions : Conventions} (h : function.IsFrom program conventions) :
    function.entryPoint =
      program.assembly ++ "." ++ (function.owner.name ++ "." ++ function.method.name) := by
  simp only [h.entryPoint, String.append_assoc]

variable {first second : ScannedFunction} {program : Program} {conventions : Conventions}

/-- Functions of a program have the same entry point if the texts of owner and method are the
same. -/
theorem entryPoint_eq_iff_joined (hfirst : first.IsFrom program conventions)
    (hsecond : second.IsFrom program conventions) :
    first.entryPoint = second.entryPoint ↔
      first.owner.name ++ "." ++ first.method.name =
        second.owner.name ++ "." ++ second.method.name := by
  rw [hfirst.entryPoint_eq, hsecond.entryPoint_eq, String.append_right_inj]

/-- Functions of a program have the same entry point if their owners and methods have the same
names, or if one divides before the other. -/
theorem entryPoint_eq_iff (hfirst : first.IsFrom program conventions)
    (hsecond : second.IsFrom program conventions) :
    first.entryPoint = second.entryPoint ↔
      (first.owner.name = second.owner.name ∧ first.method.name = second.method.name) ∨
      first.DividesBefore second ∨ second.DividesBefore first := by
  rw [entryPoint_eq_iff_joined hfirst hsecond, Text.joined_eq_joined_iff toList_dot]
  rfl

/-- Where no dot can stand between owner and method but one, an entry point gives both names. -/
theorem entryPoint_eq_iff_of_notMem (hfirst : first.IsFrom program conventions)
    (hsecond : second.IsFrom program conventions)
    (hdots : ('.' ∉ first.method.name.toList ∧ '.' ∉ second.method.name.toList) ∨
      ('.' ∉ first.owner.name.toList ∧ '.' ∉ second.owner.name.toList)) :
    first.entryPoint = second.entryPoint ↔
      first.owner.name = second.owner.name ∧ first.method.name = second.method.name := by
  rw [entryPoint_eq_iff_joined hfirst hsecond]
  obtain ⟨hone, hother⟩ | ⟨hone, hother⟩ := hdots
  · exact Text.joined_inj_of_notMem_back toList_dot hone hother
  · exact Text.joined_inj_of_notMem_front toList_dot hone hother

end ScannedFunction

/-- Types of the same simple name have different full names only in different namespaces. -/
theorem DeclaredType.namespaceName_ne_of_fullName_ne {first second : DeclaredType}
    (hfull : first.fullName ≠ second.fullName) (hname : first.name = second.name) :
    first.namespaceName ≠ second.namespaceName := by
  intro hnamespace
  exact hfull (by rw [fullName, fullName, hname, hnamespace])

/-- The functions of a successful scan are those of all candidates, each with the entry point that
its assembly, its owner's simple name and its method give, and so are the records of a success.
Functions whose types have different full names have the same entry point exactly if the types have
the same simple name, in different namespaces, and the methods have the same name, or if one
function divides before the other. The latter is impossible where no method name, or no name of an
owner, holds a dot. -/
theorem entryPoints_of_scan {program : Program} {options : GeneratorOptions}
    {functions : List ScannedFunction}
    (hscan : program.scan options.conventions = .ok functions) :
    (functions.map fun function ↦ ((function.owner, function.method), function.entryPoint)) =
      (program.candidates options.conventions).map (fun candidate ↦ (candidate,
        program.assembly ++ "." ++ candidate.1.name ++ "." ++ candidate.2.name)) ∧
    (∀ records, (program.generate options).result = .ok records →
      records.map (·.entryPoint) = functions.map (·.entryPoint)) ∧
    ∀ first ∈ functions, ∀ second ∈ functions,
      first.owner.fullName ≠ second.owner.fullName →
      (first.entryPoint = second.entryPoint ↔
        (first.owner.name = second.owner.name ∧
          first.owner.namespaceName ≠ second.owner.namespaceName ∧
          first.method.name = second.method.name) ∨
        first.DividesBefore second ∨ second.DividesBefore first) ∧
      ((('.' ∉ first.method.name.toList ∧ '.' ∉ second.method.name.toList) ∨
          ('.' ∉ first.owner.name.toList ∧ '.' ∉ second.owner.name.toList)) →
        (first.entryPoint = second.entryPoint ↔
          first.owner.name = second.owner.name ∧
          first.owner.namespaceName ≠ second.owner.namespaceName ∧
          first.method.name = second.method.name)) := by
  obtain ⟨-, hfunctions⟩ := Program.scan_eq_ok_iff.1 hscan
  have hfrom : ∀ function ∈ functions, function.IsFrom program options.conventions := by
    intro function hfunction
    rw [hfunctions] at hfunction
    exact isFrom_of_mem_functionsOf hfunction
  refine ⟨?_, ?_, ?_⟩
  · rw [← Program.map_candidate_of_scan_eq_ok hscan, List.map_map]
    refine List.map_congr_left fun function hfunction ↦ ?_
    simp [(hfrom function hfunction).entryPoint]
  · intro records hrecords
    obtain ⟨found, hfound, rfl⟩ := program.exists_functions_of_result_eq_ok options hrecords
    obtain rfl : functions = found := Except.ok.inj (hscan.symm.trans hfound)
    rw [List.map_map]
    rfl
  · intro first hfirst second hsecond hfull
    -- Types of one simple name with different full names stand in different namespaces.
    have hnamespace : (first.owner.name = second.owner.name ∧
        first.method.name = second.method.name) ↔
          first.owner.name = second.owner.name ∧
          first.owner.namespaceName ≠ second.owner.namespaceName ∧
          first.method.name = second.method.name :=
      ⟨fun ⟨hname, hmethod⟩ ↦
        ⟨hname, DeclaredType.namespaceName_ne_of_fullName_ne hfull hname, hmethod⟩,
        fun ⟨hname, _, hmethod⟩ ↦ ⟨hname, hmethod⟩⟩
    rw [← hnamespace]
    exact ⟨ScannedFunction.entryPoint_eq_iff (hfrom first hfirst) (hfrom second hsecond),
      ScannedFunction.entryPoint_eq_iff_of_notMem (hfrom first hfirst) (hfrom second hsecond)⟩

namespace TwoNamespaces

/-- A method that is the function of a name. -/
def method (functionName : String) : Method :=
  (Method.of "Run" .void).annotated
    ((Attribute.named "Function").withArgument (.string functionName))

/-- A type in a namespace with one function. -/
def owner (name namespaceName functionName : String) : DeclaredType :=
  ((DeclaredType.of name).inNamespace namespaceName).withMethod (method functionName)

/-- A program with one type in each of two namespaces; the simple name of the second is given. -/
def program (name : String) : Program :=
  ((Program.of "Shop").withType (owner "Functions" "Orders" "TakeOrder")).withType
    (owner name "Stock" "CountStock")

/-- The functions of the program. -/
def functions (name : String) : List ScannedFunction :=
  [⟨"TakeOrder", "Shop.Functions.Run", owner "Functions" "Orders" "TakeOrder",
      method "TakeOrder", none⟩,
   ⟨"CountStock", "Shop." ++ name ++ ".Run", owner name "Stock" "CountStock",
      method "CountStock", none⟩]

/-- Methods of two types with different full names have one entry point, also in the records. -/
theorem exists_entryPoint_eq :
    (program "Functions").scan .standard = .ok (functions "Functions") ∧
    ∃ first ∈ functions "Functions", ∃ second ∈ functions "Functions",
      first.owner.fullName = "Orders.Functions" ∧ second.owner.fullName = "Stock.Functions" ∧
      first.entryPoint = second.entryPoint ∧
      ∃ records, ((program "Functions").generate .standard).result = .ok records ∧
        records.map (·.entryPoint) = [first.entryPoint, second.entryPoint] := by
  exact ⟨rfl, _, .head _, _, .tail _ (.head _), rfl, rfl, rfl, _, rfl, rfl⟩

/-- Methods of two types with different simple names have different entry points. -/
theorem entryPoints_of_scan_stock :
    (program "Shelves").scan GeneratorOptions.standard.conventions = .ok (functions "Shelves") ∧
    ∃ first ∈ functions "Shelves", ∃ second ∈ functions "Shelves",
      first.owner.fullName ≠ second.owner.fullName ∧ first.entryPoint ≠ second.entryPoint := by
  have hscan : (program "Shelves").scan GeneratorOptions.standard.conventions =
      .ok (functions "Shelves") := rfl
  obtain ⟨-, -, hpairs⟩ := entryPoints_of_scan hscan
  have hfull : (owner "Functions" "Orders" "TakeOrder").fullName ≠
      (owner "Shelves" "Stock" "CountStock").fullName := by decide
  obtain ⟨-, hnodots⟩ := hpairs _ (.head _) _ (.tail _ (.head _)) hfull
  refine ⟨hscan, _, .head _, _, .tail _ (.head _), hfull, fun hsame ↦ ?_⟩
  obtain ⟨hname, -⟩ := (hnodots (.inl ⟨by decide, by decide⟩)).1 hsame
  exact absurd hname (by decide)

end TwoNamespaces

end FunctionBindings
