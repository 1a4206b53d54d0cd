import FunctionBindings.Proofs.Json.CutText
import FunctionBindings.Proofs.Provider.Artifact

/-!
# Artifacts that are cut off

A file is not written at once, so a host may find an artifact of which only the first part has been
written. It never takes that part for an artifact with fewer records: the text of an artifact ends
in the bracket of its list, and a text without that bracket is refused, wherever it ends and
whatever the records hold. Main statement: `records_of_cut`.
-/

namespace FunctionBindings

/-- The last character of an artifact is the bracket of its list. -/
theorem getLast?_artifactText (records : List FunctionRecord) (pretty : Bool) :
    (artifactText records pretty).toList.getLast? = some ']' := by
  cases pretty with
  | true => exact Json.getLast?_prettyText _
  | false => exact Json.getLast?_compactText _

/-- A text that an artifact begins with is refused unless it is the whole artifact. -/
theorem exists_fault_of_cut {records : List FunctionRecord} {pretty : Bool} {cut : String}
    (hcut : cut.toList <+: (artifactText records pretty).toList)
    (hne : cut ≠ artifactText records pretty) :
    ∃ fault, FunctionRecord.readAll.ofText cut = .error fault := by
  have htrailing : (Json.Document.ofText (artifactText records pretty)).trailing = false := by
    rw [document_artifactText]
  exact Json.exists_fault_of_prefix FunctionRecord.read htrailing
    (getLast?_artifactText records pretty) hcut hne

/-- Where the artifact has a text that does not read as records, its provider fails with the fault
of the text. -/
theorem MetadataProvider.records_artifact_of_fault {σ : Type} [Files (StateM σ)]
    {directory fileName text : String} {before after : σ} {fault : Json.Fault}
    (hfile : ((Files.readFile (m := StateM σ) (Path.join directory fileName)).run before).run =
      (.ok text, after))
    (hread : FunctionRecord.readAll.ofText text = .error fault) :
    (((MetadataProvider.artifact fileName).records (m := StateM σ) directory).run before).run =
      (.error (.artifact (Path.join directory fileName) fault), after) := by
  simp [MetadataProvider.records, readArtifact, hfile, hread]

/-- The provider of an artifact whose file holds only the first part of its text fails. The first
part does not read as records, wherever it ends, and the error has the fault of that reading. -/
theorem records_of_cut {σ : Type} [Files (StateM σ)] {records : List FunctionRecord}
    {pretty : Bool} {cut directory fileName : String} {before after : σ}
    (hcut : cut.toList <+: (artifactText records pretty).toList)
    (hne : cut ≠ artifactText records pretty)
    (hfile : ((Files.readFile (m := StateM σ) (Path.join directory fileName)).run before).run =
      (.ok cut, after)) :
    ∃ fault, FunctionRecord.readAll.ofText cut = .error fault ∧
      (((MetadataProvider.artifact fileName).records (m := StateM σ) directory).run before).run =
        (.error (.artifact (Path.join directory fileName) fault), after) := by
  obtain ⟨fault, hfault⟩ := exists_fault_of_cut hcut hne
  exact ⟨fault, hfault, MetadataProvider.records_artifact_of_fault hfile hfault⟩

namespace OrderArtifact

/-- The artifact without its last bracket. -/
def cutText : String := String.ofList (artifactText [record] true).toList.dropLast

/-- The disk after all but the last bracket of the artifact has been written. -/
def cutDisk : Disk := ⟨disk.nodes.insert ["app", artifactFileName] (.file cutText)⟩

/-- The provider fails on the artifact without its last bracket, although the record is there. -/
theorem records_of_cut_record :
    cutText.toList <+: (artifactText [record] true).toList ∧
    cutText ≠ artifactText [record] true ∧
    ((Files.readFile (m := StateM Disk) "app/functions.metadata.json").run cutDisk).run =
      (.ok cutText, cutDisk) ∧
    ∃ fault,
      (((MetadataProvider.artifact artifactFileName).records (m := StateM Disk)
        "app").run cutDisk).run =
      (.error (.artifact "app/functions.metadata.json" fault), cutDisk) := by
  have hcut : cutText.toList <+: (artifactText [record] true).toList := by
    rw [cutText, String.toList_ofList]
    exact List.dropLast_prefix _
  have hne : cutText ≠ artifactText [record] true := by
    intro heq
    have hbracket := getLast?_artifactText [record] true
    have hlength := congrArg (fun text : String ↦ text.toList.length) heq
    simp only [cutText, String.toList_ofList, List.length_dropLast] at hlength
    have hempty : (artifactText [record] true).toList = [] :=
      List.length_eq_zero_iff.1 (by omega)
    rw [hempty] at hbracket
    cases hbracket
  have hfile : ((Files.readFile (m := StateM Disk) "app/functions.metadata.json").run
      cutDisk).run = (.ok cutText, cutDisk) := by
    rfl
  obtain ⟨fault, -, hrecords⟩ : ∃ fault, _ ∧
      (((MetadataProvider.artifact artifactFileName).records (m := StateM Disk)
        "app").run cutDisk).run = _ := records_of_cut hcut hne hfile
  exact ⟨hcut, hne, hfile, fault, hrecords⟩

end OrderArtifact

end FunctionBindings
