import FunctionBindings.Proofs.Files.Writing
import FunctionBindings.Proofs.Json.PrettyText
import FunctionBindings.Proofs.Json.TypedReading
import FunctionBindings.Provider.Registry

/-!
# Reading the artifact back

Records survive the way through the artifact. Its text, compact or pretty, reads as the records that
were written and as no others, whatever characters they hold (`ofText_artifactText`). The text that
a file keeps is then all that matters: `Files.KeepWrites` says that files hold what was last written
to them, which is true of those on a disk. Main statement: `records_of_writeArtifact`.
-/

namespace FunctionBindings

namespace FunctionRecord

/-- A record is read back. -/
theorem readsBack (record : FunctionRecord) : Json.ReadsBack read record.toJson record :=
  .record (.cons (.string record.functionId) (.cons (.string record.language)
    (.cons (.string record.name) (.cons (.string record.entryPoint)
    (.cons (.strings record.rawBindings) (.cons (.string record.scriptFile) .nil)))))) (by decide)

/-- Records are read back. -/
theorem readsBack_list (records : List FunctionRecord) :
    Json.ReadsBack readAll (.array (records.map toJson)) records :=
  .list fun record _ ↦ record.readsBack

/-- The deepest part of a record are its descriptors. -/
theorem depth_toJson (record : FunctionRecord) : record.toJson.depth = 2 := by
  simp [toJson, Json.depth, Json.depthOfMembers, Json.depth_strings]

end FunctionRecord

/-- The text of an artifact has the document of its records, in either form. -/
theorem document_artifactText (records : List FunctionRecord) (pretty : Bool) :
    Json.Document.ofText (artifactText records pretty) =
      ⟨Json.toDoc (.array (records.map FunctionRecord.toJson)), false⟩ := by
  have hnumbers := (FunctionRecord.readsBack_list records).exact
  have hitems : Json.depthOfItems (records.map FunctionRecord.toJson) ≤ 2 := by
    refine Json.depthOfItems_le_iff.2 fun item hitem ↦ ?_
    obtain ⟨record, -, rfl⟩ := List.mem_map.1 hitem
    exact Nat.le_of_eq record.depth_toJson
  have hdepth : (Json.array (records.map FunctionRecord.toJson)).depth ≤ Json.depthLimit := by
    have hlimit : 3 ≤ Json.depthLimit := by decide
    show Json.depthOfItems (records.map FunctionRecord.toJson) + 1 ≤ Json.depthLimit
    omega
  cases pretty with
  | true => exact Json.document_prettyText hnumbers hdepth
  | false => exact Json.document_compactText hnumbers hdepth

/-- The text of an artifact reads as its records, in either form. -/
theorem ofText_artifactText (records : List FunctionRecord) (pretty : Bool) :
    FunctionRecord.readAll.ofText (artifactText records pretty) = .ok records := by
  rw [Json.Reader.ofText_of_document (document_artifactText records pretty)]
  exact (FunctionRecord.readsBack_list records).reads .text

section

variable {σ : Type} [Files (StateM σ)]

variable (σ) in
/-- True of files that hold what was last written to them. -/
def Files.KeepWrites : Prop :=
  ∀ (path text : String) (before after : σ),
    ((Files.writeFile (m := StateM σ) path text).run before).run = (.ok (), after) →
    ((Files.readFile (m := StateM σ) path).run after).run = (.ok text, after)

/-- The files of a disk hold what was last written to them. -/
theorem Disk.keepWrites : Files.KeepWrites Disk := by
  intro path text before after h
  cases hwrite : before.write path text with
  | error error => simp [Files.writeFile, hwrite] at h
  | ok disk =>
      obtain rfl : disk = after := by simpa [Files.writeFile, hwrite] using h
      simp [Files.readFile, Disk.read_of_write hwrite]

/-- Where the artifact has a text that reads as records, its provider gives these. -/
theorem MetadataProvider.records_artifact {directory fileName text : String} {state : σ}
    {records : List FunctionRecord}
    (hfile : ((Files.readFile (m := StateM σ) (Path.join directory fileName)).run state).run =
      (.ok text, state))
    (hread : FunctionRecord.readAll.ofText text = .ok records) :
    (((MetadataProvider.artifact fileName).records (m := StateM σ) directory).run state).run =
      (.ok records, state) := by
  simp [MetadataProvider.records, readArtifact, hfile, hread]

/-- An artifact is written as the text of its records, at the usual place. -/
theorem writeFile_of_writeArtifact {directory path : String} {records : List FunctionRecord}
    {pretty : Bool} {before after : σ}
    (h : ((writeArtifact (m := StateM σ) directory records pretty).run before).run =
      (.ok path, after)) :
    path = Path.join directory artifactFileName ∧
      ((Files.writeFile (m := StateM σ) path (artifactText records pretty)).run before).run =
        (.ok (), after) := by
  cases hwrite : ((Files.writeFile (m := StateM σ) (Path.join directory artifactFileName)
      (artifactText records pretty)).run before).run with
  | mk written next =>
      cases written with
      | error error => simp [writeArtifact, writeArtifactTo, hwrite] at h
      | ok written =>
          obtain ⟨rfl, rfl⟩ : Path.join directory artifactFileName = path ∧ next = after := by
            simpa [writeArtifact, writeArtifactTo, hwrite] using h
          exact ⟨rfl, hwrite⟩

/-- The text of an artifact reads as the records that were written, in either form and whatever they
hold. So once records have been written as the artifact of a directory, its provider gives just
these records, and so does every registry that has the provider in the slot of the host. -/
theorem records_of_writeArtifact (hfiles : Files.KeepWrites σ) (records : List FunctionRecord)
    (pretty : Bool) :
    FunctionRecord.readAll.ofText (artifactText records pretty) = .ok records ∧
    ∀ (directory path : String) (before after : σ),
      ((writeArtifact (m := StateM σ) directory records pretty).run before).run =
        (.ok path, after) →
      path = Path.join directory artifactFileName ∧
      (((MetadataProvider.artifact artifactFileName).records (m := StateM σ)
        directory).run after).run = (.ok records, after) ∧
      ∀ registry : ProviderRegistry MetadataProvider,
        registry.get? metadataProviderSlot = some (.artifact artifactFileName) →
        ((registry.functionMetadata (m := StateM σ) (·.records directory)).run after).run =
          (.ok records, after) := by
  have hread := ofText_artifactText records pretty
  refine ⟨hread, ?_⟩
  intro directory path before after h
  obtain ⟨rfl, hwritten⟩ := writeFile_of_writeArtifact h
  have hrecords := MetadataProvider.records_artifact (hfiles _ _ _ _ hwritten) hread
  refine ⟨rfl, hrecords, ?_⟩
  intro registry hslot
  simpa [ProviderRegistry.functionMetadata, ProviderRegistry.metadataProvider, hslot] using hrecords

end

namespace OrderArtifact

/-- A record with characters that are escaped and one beyond the basic plane. -/
def record : FunctionRecord where
  functionId := "00"
  language := "dotnet-isolated"
  name := "Take \"orders\" \\ \x01😀"
  entryPoint := "Shop.Orders.Run"
  rawBindings := ["\x7b\"name\":\"$return\"\x7d", ""]
  scriptFile := "Shop.dll"

/-- A disk with the directory of an app. -/
def disk : Disk := Disk.empty.makeDirectories "app"

/-- The disk after the record has been written. -/
def written : Disk :=
  ((writeArtifact (m := StateM Disk) "app" [record] true).run disk).run.2

/-- The registry of a host that reads the artifact. -/
def registry : ProviderRegistry MetadataProvider :=
  ⟨Table.empty.insert metadataProviderSlot (.artifact artifactFileName)⟩

/-- The host of the app gets the record from the artifact. -/
theorem records_of_writeArtifact_record :
    Files.KeepWrites Disk ∧
    ((writeArtifact (m := StateM Disk) "app" [record] true).run disk).run =
      (.ok "app/functions.metadata.json", written) ∧
    ProviderRegistry.empty.configure (.artifact artifactFileName) = .ok registry ∧
    FunctionRecord.readAll.ofText (artifactText [record] true) = .ok [record] ∧
    ((registry.functionMetadata (m := StateM Disk) (·.records "app")).run written).run =
      (.ok [record], written) := by
  have hwritten : ((writeArtifact (m := StateM Disk) "app" [record] true).run disk).run =
      (.ok "app/functions.metadata.json", written) := by
    rfl
  obtain ⟨hread, hfiles⟩ := records_of_writeArtifact Disk.keepWrites [record] true
  obtain ⟨-, -, hregistry⟩ := hfiles "app" _ disk written hwritten
  exact ⟨Disk.keepWrites, hwritten, rfl, hread, hregistry registry rfl⟩

end OrderArtifact

end FunctionBindings
