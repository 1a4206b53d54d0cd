import FunctionBindings.Proofs.Generation.Contributions
import FunctionBindings.Proofs.Scan.Naming
import FunctionBindings.Proofs.Text.Joined
import Mathlib.Data.List.Nodup
import Mathlib.Data.Set.Function

/-!
# Identifiers of functions

The identifier of a function is the digest of its name, a zero and its entry point. Names and entry
points may hold zeros themselves, and so two functions may share these bytes although their names
differ: the name of one of them goes on, behind a zero, with the start of the other's entry point
(`FunctionRecord.Overlaps`). There is no other way. Main statement: `identifiers_generate`.
-/

namespace FunctionBindings

/-- The loop over an array of bytes adds the bytes that are left. -/
theorem toList_loop_eq (bytes : ByteArray) (i : Nat) (reversed : List UInt8) :
    ByteArray.toList.loop bytes i reversed = reversed.reverse ++ bytes.data.toList.drop i := by
  fun_induction ByteArray.toList.loop bytes i reversed with
  | case1 i reversed hlt ih =>
      have hlength : i < bytes.data.toList.length := by simpa using hlt
      have hbyte : bytes.get! i = bytes.data.toList[i] := getElem!_pos bytes.data i hlt
      rw [ih, List.drop_eq_getElem_cons hlength, List.reverse_cons, List.append_assoc, hbyte]
      rfl
  | case2 i reversed hend =>
      have hlength : bytes.data.toList.length ≤ i := by simpa using hend
      rw [List.drop_eq_nil_of_le hlength, List.append_nil]

/-- The bytes of a text. -/
theorem utf8_eq (text : String) : text.toUTF8.toList = text.toByteArray.data.toList := by
  rw [ByteArray.toList, toList_loop_eq]
  rfl

/-- The bytes of texts in sequence. -/
theorem utf8_append (text more : String) :
    (text ++ more).toUTF8.toList = text.toUTF8.toList ++ more.toUTF8.toList := by
  simp only [utf8_eq, String.toByteArray_append, ByteArray.data_append, Array.toList_append]

/-- Texts with the same bytes are equal. -/
theorem utf8_injective : Function.Injective fun text : String ↦ text.toUTF8.toList := by
  intro text other h
  simp only [utf8_eq, Array.toList_inj] at h
  exact String.toByteArray_inj.1 (ByteArray.ext h)

/-- The bytes that identify a function are those of one text. -/
theorem functionIdBytes_eq (name entryPoint : String) :
    functionIdBytes name entryPoint = (name ++ "\x00" ++ entryPoint).toUTF8.toList := by
  have hzero : "\x00".toUTF8.toList = [0] := utf8_eq "\x00"
  rw [functionIdBytes, utf8_append, utf8_append, hzero, List.append_assoc]
  rfl

/-- Functions with the same bytes have the same name and entry point, or one of them goes on with
its name where the other's entry point starts. -/
theorem functionIdBytes_eq_iff {name name' entryPoint entryPoint' : String} :
    functionIdBytes name entryPoint = functionIdBytes name' entryPoint' ↔
      (name = name' ∧ entryPoint = entryPoint') ∨
      (∃ middle, name' = name ++ "\x00" ++ middle ∧
        entryPoint = middle ++ "\x00" ++ entryPoint') ∨
      (∃ middle, name = name' ++ "\x00" ++ middle ∧
        entryPoint' = middle ++ "\x00" ++ entryPoint) := by
  have hzero : "\x00".toList = ['\x00'] := rfl
  rw [functionIdBytes_eq, functionIdBytes_eq, utf8_injective.eq_iff,
    Text.joined_eq_joined_iff hzero]

namespace FunctionRecord

/-- The bytes that a record's identifier is a digest of. -/
def idBytes (record : FunctionRecord) : List UInt8 :=
  functionIdBytes record.name record.entryPoint

/-- True of two records if some text, between zeros, stands both behind the name of the first in the
name of the second, and before the entry point of the second in the entry point of the first. -/
def Overlaps (first second : FunctionRecord) : Prop :=
  ∃ middle, second.name = first.name ++ "\x00" ++ middle ∧
    first.entryPoint = middle ++ "\x00" ++ second.entryPoint

/-- Records with different names have the same bytes only where one overlaps the other. -/
theorem idBytes_eq_iff {first second : FunctionRecord} (h : first.name ≠ second.name) :
    first.idBytes = second.idBytes ↔ first.Overlaps second ∨ second.Overlaps first := by
  rw [idBytes, idBytes, functionIdBytes_eq_iff, or_iff_right fun hsame ↦ h hsame.1]
  rfl

/-- A record whose name has no zero overlaps no other. -/
theorem not_overlaps {first second : FunctionRecord} (h : '\x00' ∉ second.name.toList) :
    ¬ first.Overlaps second := by
  rintro ⟨middle, hname, -⟩
  refine h ?_
  rw [hname]
  simp [String.toList_append]

end FunctionRecord

/-- The names of the records of a success are all different. -/
theorem nodup_names_of_result_eq_ok {program : Program} {options : GeneratorOptions}
    {records : List FunctionRecord} (h : (program.generate options).result = .ok records) :
    (records.map (·.name)).Nodup := by
  obtain ⟨functions, hscan, rfl⟩ := program.exists_functions_of_result_eq_ok options h
  obtain ⟨-, rfl⟩ := Program.scan_eq_ok_iff.1 hscan
  rw [List.map_map]
  exact (program.scanRun_scanOutcomes options.conventions).nodup_names.1

/-- The identifiers of the records of a success are the digests of their bytes. The bytes of all
records differ exactly if none overlaps another, and so do their identifiers if the digest tells
these bytes apart. None overlaps another if no name has a zero. -/
theorem identifiers_generate {program : Program} {options : GeneratorOptions}
    {records : List FunctionRecord} (hrecords : (program.generate options).result = .ok records) :
    (∀ record ∈ records, record.functionId = Sha256.hex record.idBytes) ∧
    ((records.map (·.idBytes)).Nodup ↔
      records.Pairwise fun first second ↦ ¬ first.Overlaps second ∧ ¬ second.Overlaps first) ∧
    (Set.InjOn Sha256.hex {bytes | bytes ∈ records.map (·.idBytes)} →
      ((records.map (·.functionId)).Nodup ↔ (records.map (·.idBytes)).Nodup)) ∧
    ((∀ record ∈ records, '\x00' ∉ record.name.toList) → (records.map (·.idBytes)).Nodup) := by
  have hids : ∀ record ∈ records, record.functionId = Sha256.hex record.idBytes := by
    obtain ⟨functions, -, rfl⟩ := program.exists_functions_of_result_eq_ok options hrecords
    intro record hrecord
    obtain ⟨function, -, rfl⟩ := List.mem_map.1 hrecord
    rfl
  have hnames : records.Pairwise fun first second ↦ first.name ≠ second.name :=
    List.pairwise_map.1 (nodup_names_of_result_eq_ok hrecords)
  have hbytes : (records.map (·.idBytes)).Nodup ↔
      records.Pairwise fun first second ↦ ¬ first.Overlaps second ∧ ¬ second.Overlaps first := by
    rw [List.Nodup, List.pairwise_map]
    constructor
    · refine fun h ↦ (hnames.and h).imp ?_
      rintro first second ⟨hne, hdiffer⟩
      exact not_or.1 fun hover ↦ hdiffer ((FunctionRecord.idBytes_eq_iff hne).2 hover)
    · refine fun h ↦ (hnames.and h).imp ?_
      rintro first second ⟨hne, hnone⟩ hsame
      exact not_or.2 hnone ((FunctionRecord.idBytes_eq_iff hne).1 hsame)
  refine ⟨hids, hbytes, fun hdigest ↦ ?_, fun hzero ↦ ?_⟩
  · have hmap : records.map (·.functionId) = (records.map (·.idBytes)).map Sha256.hex := by
      rw [List.map_map]
      exact List.map_congr_left hids
    rw [hmap]
    exact ⟨fun h ↦ h.of_map, fun h ↦ h.map_on fun first hfirst second hsecond hsame ↦
      hdigest hfirst hsecond hsame⟩
  · refine hbytes.2 (List.pairwise_of_forall_mem_list fun first hfirst second hsecond ↦ ?_)
    exact ⟨FunctionRecord.not_overlaps (hzero second hsecond),
      FunctionRecord.not_overlaps (hzero first hfirst)⟩

namespace TwoFunctions

/-- A method that is the function of a name. -/
def method (functionName : String) : Method :=
  (Method.of "M" .void).annotated
    ((Attribute.named "Function").withArgument (.string functionName))

/-- A program with two functions; the name of the first is `f`, and the owner of the second `O`. -/
def program (firstOwner secondName : String) : Program :=
  ((Program.of "X").withType ((DeclaredType.of firstOwner).withMethod (method "f"))).withType
    ((DeclaredType.of "O").withMethod (method secondName))

/-- The record of a function of the program. -/
def record (name entryPoint : String) : FunctionRecord :=
  ⟨functionId name entryPoint, "dotnet-isolated", name, entryPoint, [], "X.dll"⟩

/-- Functions whose names have no zero get different identifiers. -/
theorem identifiers_generate_plain :
    ((program "P" "g").generate .standard).result =
      .ok [record "f" "X.P.M", record "g" "X.O.M"] ∧
    (record "f" "X.P.M").functionId ≠ (record "g" "X.O.M").functionId := by
  have hrecords : ((program "P" "g").generate .standard).result =
      .ok [record "f" "X.P.M", record "g" "X.O.M"] := rfl
  have hfirst : (record "f" "X.P.M").idBytes = [102, 0, 88, 46, 80, 46, 77] := by
    rw [FunctionRecord.idBytes, functionIdBytes_eq, utf8_eq]
    rfl
  have hsecond : (record "g" "X.O.M").idBytes = [103, 0, 88, 46, 79, 46, 77] := by
    rw [FunctionRecord.idBytes, functionIdBytes_eq, utf8_eq]
    rfl
  have hdigests : Sha256.hex [102, 0, 88, 46, 80, 46, 77] ≠
      Sha256.hex [103, 0, 88, 46, 79, 46, 77] := by decide +kernel
  have hbytes : {bytes | bytes ∈ [record "f" "X.P.M", record "g" "X.O.M"].map (·.idBytes)} =
      {[102, 0, 88, 46, 80, 46, 77], [103, 0, 88, 46, 79, 46, 77]} := by
    ext bytes
    simp [hfirst, hsecond]
  obtain ⟨-, -, hdigest, hzero⟩ := identifiers_generate hrecords
  have hnodup := (hdigest (hbytes ▸ Set.injOn_pair.2 fun hsame ↦ absurd hsame hdigests)).2
    (hzero (by decide))
  exact ⟨hrecords, by simpa using hnodup⟩

/-- A name with a zero may share its identifier with another one. -/
theorem exists_functionId_eq :
    ∃ records, ((program "a\x00X.O" "f\x00X.a").generate .standard).result = .ok records ∧
      ∃ first ∈ records, ∃ second ∈ records, first ≠ second ∧
        first.idBytes = second.idBytes ∧ first.functionId = second.functionId := by
  have hrecords : ((program "a\x00X.O" "f\x00X.a").generate .standard).result =
      .ok [record "f" "X.a\x00X.O.M", record "f\x00X.a" "X.O.M"] := rfl
  have hbytes : functionIdBytes "f" "X.a\x00X.O.M" = functionIdBytes "f\x00X.a" "X.O.M" :=
    functionIdBytes_eq_iff.2 (.inr (.inl ⟨"X.a", rfl, rfl⟩))
  refine ⟨_, hrecords, record "f" "X.a\x00X.O.M", by simp, record "f\x00X.a" "X.O.M", by simp,
    fun hsame ↦ ?_, hbytes, congrArg Sha256.hex hbytes⟩
  exact absurd (congrArg FunctionRecord.name hsame) (by decide)

end TwoFunctions

end FunctionBindings
