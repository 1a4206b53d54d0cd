import FunctionBindings.Command.Execution
import FunctionBindings.Proofs.Files.Writing

/-!
# Commands on a session

What the parts of the commands do on a session follows from what is on its disk. A model passes if
its file can be read, its text is a program, and the program is generated without errors
(`Disk.Passes`); the verdict of a check says so (`Session.passes_verdict_iff`), and a check of
several models writes their verdicts in order and counts the models that do not pass
(`Command.run_countFailures`). How the terminal draws diagnostics makes no difference to any of
this; it shows in what is reported (`Session.diagnosticsText`). The artifact stays in its file
unless the provider module is wanted in the same place (`Disk.read_artifactPath_of_apart`).
-/

namespace FunctionBindings

namespace Session

/-- A session in which more has been printed and reported. -/
def saying (session : Session) (printed reported : String) : Session :=
  { session with
    printed := session.printed ++ printed
    reported := session.reported ++ reported }

/-- Texts may be written in two parts. -/
theorem saying_saying (session : Session) (printed reported more moreReported : String) :
    (session.saying printed reported).saying more moreReported =
      session.saying (printed ++ more) (reported ++ moreReported) := by
  simp only [saying, String.append_assoc]

/-- Nothing changes if nothing is written. -/
theorem saying_empty (session : Session) : session.saying "" "" = session := by
  simp only [saying, String.append_empty]

/-- A file of a session is written on its disk. -/
theorem run_writeFile (session : Session) (path text : String) :
    ((Files.writeFile (m := StateM Session) path text).run session).run =
      match session.disk.write path text with
      | .ok disk => (.ok (), { session with disk })
      | .error error => (.error error, session) := by
  cases hwrite : session.disk.write path text with
  | error error => simp [Files.writeFile, hwrite]
  | ok disk => simp [Files.writeFile, hwrite]

end Session

@[simp] theorem mapError_ok {ε ε' α : Type} (f : ε → ε') (a : α) :
    (Except.ok a).mapError f = .ok a := rfl

@[simp] theorem mapError_error {ε ε' α : Type} (f : ε → ε') (error : ε) :
    (Except.error error : Except ε α).mapError f = .error (f error) := rfl

/-- A result stays as it is whatever is done to errors. -/
theorem mapError_eq_ok_iff {ε ε' α : Type} {result : Except ε α} {f : ε → ε'} {a : α} :
    result.mapError f = .ok a ↔ result = .ok a := by
  cases result <;> simp

/-- The line that the program reports a failure in. -/
def CommandError.line (error : CommandError) : String :=
  "Error: " ++ error.message ++ "\n"

namespace Disk

/-- The model in a file. -/
def model (disk : Disk) (path : String) : Except CommandError Program :=
  match disk.read path with
  | .error error => .error (.unreadableModel path error)
  | .ok text =>
      match Program.read.ofText text with
      | .error fault => .error (.invalidModel path text fault)
      | .ok program => .ok program

/-- True of the records that are generated from the model in a file: the file can be read, its text
is a program, and the program is generated without errors. -/
def Generates (disk : Disk) (options : GeneratorOptions) (path : String)
    (records : List FunctionRecord) : Prop :=
  ∃ text program, disk.read path = .ok text ∧ Program.read.ofText text = .ok program ∧
    (program.generate options).result = .ok records

/-- True of a model that records are generated from. -/
def Passes (disk : Disk) (options : GeneratorOptions) (path : String) : Prop :=
  ∃ records, disk.Generates options path records

/-- The source text that a diagnostic of a model points into, if its file can be read next to the
model and its place is known and lies in the text. -/
def source? (disk : Disk) (model : String) (diagnostic : Diagnostic) : Option String :=
  match diagnostic.location.file with
  | none => none
  | some file =>
      if diagnostic.location.span.isUnknown then none
      else
        match disk.read (Path.join (Path.parent model) file) with
        | .error _ => none
        | .ok source => if diagnostic.location.span.liesIn source then some source else none

/-- The path of the artifact, for the path that is given for it. -/
def artifactPath (disk : Disk) (output : String) : String :=
  if disk.isDirectory output then Path.join output artifactFileName else output

/-- The disk with the artifact, if a path is given for it. -/
def withArtifact (disk : Disk) (output : Option String) (records : List FunctionRecord)
    (pretty : Bool) : Except CommandError Disk :=
  match output with
  | none => .ok disk
  | some output =>
      let path := disk.artifactPath output
      (disk.write path (artifactText records pretty)).mapError fun error ↦
        .provider (.file path error)

/-- The disk with the provider module, if a path is given for it. -/
def withModule (disk : Disk) (provider : Option String) (records : List FunctionRecord) :
    Except CommandError Disk :=
  match provider with
  | none => .ok disk
  | some path => (disk.write path (providerModule records)).mapError (.unwritableModule path)

variable {disk : Disk} {options : GeneratorOptions} {path : String} {program : Program}
  {records : List FunctionRecord}

/-- A file holds a program if its text is one. -/
theorem model_eq_ok_iff :
    disk.model path = .ok program ↔
      ∃ text, disk.read path = .ok text ∧ Program.read.ofText text = .ok program := by
  unfold model
  cases disk.read path with
  | error error => simp
  | ok text => cases htext : Program.read.ofText text <;> simp [htext]

/-- Records are generated from the program in a file. -/
theorem generates_iff :
    disk.Generates options path records ↔
      ∃ program, disk.model path = .ok program ∧ (program.generate options).isSuccess ∧
        (program.generate options).records = records := by
  simp only [Generates, model_eq_ok_iff, GenerationReport.result_eq_ok_iff]
  constructor
  · rintro ⟨text, program, htext, hprogram, hresult⟩
    exact ⟨program, ⟨text, htext, hprogram⟩, hresult⟩
  · rintro ⟨program, ⟨text, htext, hprogram⟩, hresult⟩
    exact ⟨text, program, htext, hprogram, hresult⟩

/-- A model has one list of records. -/
theorem Generates.unique {others : List FunctionRecord}
    (h : disk.Generates options path records) (hothers : disk.Generates options path others) :
    records = others := by
  obtain ⟨program, hprogram, -, rfl⟩ := generates_iff.1 h
  obtain ⟨other, hother, -, rfl⟩ := generates_iff.1 hothers
  obtain rfl : program = other := Except.ok.inj (hprogram.symm.trans hother)
  rfl

/-- A model passes if its program is generated without errors. -/
theorem passes_iff :
    disk.Passes options path ↔
      ∃ program, disk.model path = .ok program ∧ (program.generate options).isSuccess := by
  simp only [Passes, generates_iff]
  constructor
  · rintro ⟨records, program, hprogram, hsuccess, -⟩
    exact ⟨program, hprogram, hsuccess⟩
  · rintro ⟨program, hprogram, hsuccess⟩
    exact ⟨_, program, hprogram, hsuccess, rfl⟩

/-- An artifact with a path is written there. -/
theorem withArtifact_some_eq_ok_iff {output : String} {pretty : Bool} {written : Disk} :
    disk.withArtifact (some output) records pretty = .ok written ↔
      disk.write (disk.artifactPath output) (artifactText records pretty) = .ok written :=
  mapError_eq_ok_iff

/-- A provider module with a path is written there. -/
theorem withModule_some_eq_ok_iff {last : Disk} :
    disk.withModule (some path) records = .ok last ↔
      disk.write path (providerModule records) = .ok last :=
  mapError_eq_ok_iff

section

variable {output : String} {pretty : Bool} {provider : Option String} {written last : Disk}

/-- The artifact stays where it was written unless the provider module is wanted there. -/
theorem read_artifactPath_of_apart
    (hartifact : disk.withArtifact (some output) records pretty = .ok written)
    (hmodule : written.withModule provider records = .ok last)
    (hapart : ∀ path, provider = some path → ¬ disk.SamePlace path (disk.artifactPath output)) :
    last.read (disk.artifactPath output) = .ok (artifactText records pretty) := by
  have hwrite := withArtifact_some_eq_ok_iff.1 hartifact
  cases provider with
  | none =>
      obtain rfl : written = last := Except.ok.inj hmodule
      exact read_of_write hwrite
  | some path =>
      have hother : ¬ written.SamePlace path (disk.artifactPath output) :=
        fun hsame ↦ hapart path rfl ((samePlace_iff_of_write hwrite _ _).1 hsame)
      rw [read_eq_ok_iff_of_write (withModule_some_eq_ok_iff.1 hmodule) hother]
      exact read_of_write hwrite

/-- A provider module that is wanted where the artifact is takes its place. -/
theorem read_artifactPath_of_samePlace
    (hartifact : disk.withArtifact (some output) records pretty = .ok written)
    (hmodule : written.withModule (some path) records = .ok last)
    (hsame : disk.SamePlace path (disk.artifactPath output)) :
    last.read (disk.artifactPath output) = .ok (providerModule records) := by
  have hwrite := withArtifact_some_eq_ok_iff.1 hartifact
  obtain ⟨-, -, -, hslash, -⟩ := write_eq_ok_iff.1 hwrite
  exact read_of_write_of_samePlace (withModule_some_eq_ok_iff.1 hmodule)
    ((samePlace_iff_of_write hwrite _ _).2 hsame) hslash

end

end Disk

namespace Session

/-- What is reported of a diagnostic of a model: the excerpt that the terminal shows of its source,
or else plain lines. -/
def diagnosticText (session : Session) (model : String) (diagnostic : Diagnostic) : String :=
  match session.disk.source? model diagnostic with
  | none => diagnostic.text
  | some source => (session.excerpt? diagnostic source).getD diagnostic.text

/-- What is reported of the diagnostics of a model. -/
def diagnosticsText (session : Session) (model : String) (report : GenerationReport) : String :=
  String.join (report.diagnostics.map (session.diagnosticText model))

/-- What a check says of a model. -/
structure Verdict where
  passes : Bool
  printed : String
  reported : String

/-- The verdict on a model. Whatever its diagnostics are, a model that passes gets a line on the
standard output, and every other one a line among the errors. -/
def verdict (session : Session) (options : GeneratorOptions) (path : String) : Verdict :=
  match session.disk.model path with
  | .error error => ⟨false, "", "✗ " ++ error.message ++ "\n"⟩
  | .ok program =>
      let report := program.generate options
      if report.isSuccess then
        ⟨true, Command.passedLine path report, session.diagnosticsText path report⟩
      else ⟨false, "", session.diagnosticsText path report ++ Command.failedLine path report⟩

/-- The verdict says whether a model passes. -/
theorem passes_verdict_iff {session : Session} {options : GeneratorOptions} {path : String} :
    (session.verdict options path).passes ↔ session.disk.Passes options path := by
  rw [Disk.passes_iff]
  unfold verdict
  cases session.disk.model path with
  | error error => simp
  | ok program => cases hsuccess : (program.generate options).isSuccess <;> simp [hsuccess]

end Session

namespace Command

variable {options : GeneratorOptions} {model : String} {session next : Session}

/-- What is printed of records: the artifact, unless there is a path for it. -/
def printedRecords (output : Option String) (records : List FunctionRecord) (pretty : Bool) :
    String :=
  match output with
  | none => artifactText records pretty ++ "\n"
  | some _ => ""

/-- Commands load the model that is on the disk. -/
theorem run_loadModel (path : String) (session : Session) :
    ((loadModel (m := StateM Session) path).run session).run =
      (session.disk.model path, session) := by
  have hread : ((Files.readFile (m := StateM Session) path).run session).run =
      (session.disk.read path, session) := rfl
  unfold Disk.model
  cases htext : session.disk.read path with
  | error error => simp [loadModel, hread, htext]
  | ok text =>
      cases hprogram : Program.read.ofText text <;> simp [loadModel, hread, htext, hprogram]

/-- Without a program nothing is generated. -/
theorem run_examine_of_error {error : CommandError}
    (hmodel : session.disk.model model = .error error) :
    ((examine (m := StateM Session) options model).run session).run = (.error error, session) := by
  simp [examine, run_loadModel, hmodel]

/-- The source of a diagnostic is the one that is on the disk. -/
theorem run_readSource (model : String) (diagnostic : Diagnostic) (session : Session) :
    ((readSource (m := StateM Session) model diagnostic).run session).run =
      (session.disk.source? model diagnostic, session) := by
  unfold readSource Disk.source?
  cases diagnostic.location.file with
  | none => rfl
  | some file =>
      cases hunknown : diagnostic.location.span.isUnknown with
      | true => simp
      | false =>
          have hread : ((Files.readFile (m := StateM Session)
              (Path.join (Path.parent model) file)).run session).run =
              (session.disk.read (Path.join (Path.parent model) file), session) := rfl
          cases hsource : session.disk.read (Path.join (Path.parent model) file) <;>
            simp [hread, hsource]

/-- A diagnostic is reported as the terminal shows it. -/
theorem run_reportDiagnostic (model : String) (diagnostic : Diagnostic) (session : Session) :
    ((reportDiagnostic (m := StateM Session) model diagnostic).run session).run =
      ((), session.saying "" (session.diagnosticText model diagnostic)) := by
  unfold Session.diagnosticText
  cases hsource : session.disk.source? model diagnostic with
  | none => simp [reportDiagnostic, run_readSource, hsource, Terminal.report, Session.saying]
  | some source =>
      cases hexcerpt : session.excerpt? diagnostic source <;>
        simp [reportDiagnostic, run_readSource, hsource, hexcerpt, Terminal.report,
          Terminal.reportExcerpt, Session.saying]

/-- Diagnostics are reported in order, and none of them changes what the next ones look like. -/
theorem run_reportDiagnostics (model : String) (diagnostics : List Diagnostic)
    (session : Session) :
    ((reportDiagnostics (m := StateM Session) model diagnostics).run session).run =
      ((), session.saying "" (String.join (diagnostics.map (session.diagnosticText model)))) := by
  induction diagnostics generalizing session with
  | nil => simp [reportDiagnostics, Session.saying]
  | cons diagnostic diagnostics ih =>
      have htext (reported : String) :
          (session.saying "" reported).diagnosticText = session.diagnosticText := rfl
      simp only [reportDiagnostics, StateT.run_bind, Id.run_bind, run_reportDiagnostic, ih, htext,
        Session.saying_saying, List.map_cons, String.join_cons, String.append_empty]

/-- A program is generated, and the diagnostics are reported. -/
theorem run_examine_of_ok {program : Program} (hmodel : session.disk.model model = .ok program) :
    ((examine (m := StateM Session) options model).run session).run =
      (.ok (program, program.generate options),
        session.saying "" (session.diagnosticsText model (program.generate options))) := by
  simp [examine, run_loadModel, hmodel, run_reportDiagnostics, Session.diagnosticsText]

/-- A model is checked with the verdict on it. -/
theorem run_checkModel (options : GeneratorOptions) (model : String) (session : Session) :
    ((checkModel (m := StateM Session) options model).run session).run =
      let verdict := session.verdict options model
      (verdict.passes, session.saying verdict.printed verdict.reported) := by
  unfold Session.verdict
  cases hmodel : session.disk.model model with
  | error error =>
      simp [checkModel, run_examine_of_error hmodel, Terminal.report, Session.saying]
  | ok program =>
      cases hsuccess : (program.generate options).isSuccess with
      | false =>
          simp [checkModel, run_examine_of_ok hmodel, hsuccess, Terminal.report, Session.saying,
            String.append_assoc]
      | true =>
          simp [checkModel, run_examine_of_ok hmodel, hsuccess, Terminal.print, Session.saying]

/-- Models are checked in order, each with its verdict, and those that do not pass are counted. -/
theorem run_countFailures (options : GeneratorOptions) (models : List String) (session : Session) :
    ((countFailures (m := StateM Session) options models).run session).run =
      let verdicts := models.map (session.verdict options)
      (verdicts.countP (!·.passes),
        session.saying (String.join (verdicts.map (·.printed)))
          (String.join (verdicts.map (·.reported)))) := by
  induction models generalizing session with
  | nil => simp [countFailures, Session.saying]
  | cons model models ih =>
      have hverdict (printed reported : String) :
          (session.saying printed reported).verdict options = session.verdict options := rfl
      simp only [countFailures, StateT.run_bind, Id.run_bind, run_checkModel, ih, hverdict,
        Session.saying_saying, List.map_cons, List.countP_cons, String.join_cons]
      cases (session.verdict options model).passes <;> simp

/-- Models are checked with success if all of them pass, and otherwise the failure tells how many do
not. -/
theorem run_checkModels (options : GeneratorOptions) (models : List String) (session : Session) :
    ((checkModels (m := StateM Session) options models).run session).run =
      let verdicts := models.map (session.verdict options)
      let failures := verdicts.countP (!·.passes)
      (if failures = 0 then .ok () else .error (.modelsFailed failures),
        session.saying (String.join (verdicts.map (·.printed)))
          (String.join (verdicts.map (·.reported)))) := by
  simp only [checkModels, StateT.run_bind, Id.run_bind, run_countFailures]
  cases (models.map (session.verdict options)).countP (!·.passes) <;> simp

/-- Records are written to the file that is given for them, or else printed. -/
theorem run_writeRecords (output : Option String) (records : List FunctionRecord) (pretty : Bool)
    (session : Session) :
    ((writeRecords (m := StateM Session) output records pretty).run session).run =
      match session.disk.withArtifact output records pretty with
      | .ok disk => (.ok (), { session with disk }.saying (printedRecords output records pretty) "")
      | .error error => (.error error, session) := by
  cases output with
  | none =>
      simp [writeRecords, Disk.withArtifact, printedRecords, Terminal.print, Session.saying]
  | some output =>
      have hdirectory : ((Files.isDirectory (m := StateM Session) output).run session).run =
          (session.disk.isDirectory output, session) := rfl
      rw [printedRecords]
      simp only [Session.saying_empty, Disk.withArtifact, Disk.artifactPath]
      cases hkind : session.disk.isDirectory output with
      | false =>
          cases hwrite : session.disk.write output (artifactText records pretty) <;>
            simp [writeRecords, writeArtifactTo, hdirectory, hkind, Session.run_writeFile, hwrite]
      | true =>
          cases hwrite : session.disk.write (Path.join output artifactFileName)
              (artifactText records pretty) <;>
            simp [writeRecords, writeArtifact, writeArtifactTo, hdirectory, hkind,
              Session.run_writeFile, hwrite, Except.map]

/-- The provider module is written to the file that is given for it, if any. -/
theorem run_writeModule (provider : Option String) (records : List FunctionRecord)
    (session : Session) :
    ((writeModule (m := StateM Session) provider records).run session).run =
      match session.disk.withModule provider records with
      | .ok disk => (.ok (), { session with disk })
      | .error error => (.error error, session) := by
  cases provider with
  | none => simp [writeModule, Disk.withModule]
  | some path =>
      cases hwrite : session.disk.write path (providerModule records) <;>
        simp [writeModule, Disk.withModule, Session.run_writeFile, hwrite]

end Command

end FunctionBindings
