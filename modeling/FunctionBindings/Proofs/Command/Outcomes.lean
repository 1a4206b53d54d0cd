import FunctionBindings.Proofs.Command.Runs
import FunctionBindings.Proofs.Model.ProgramText

/-!
# How commands end

The commands agree on their models: `generate` to the standard output, `check` and `list` succeed on
a model exactly if it passes. A `generate` of a model that does not pass has touched no file and
printed nothing, and one that succeeds leaves the artifact where it was wanted, unless the provider
module was wanted in the same file. A check goes through all its models and tells how many do not
pass. Loading the settings leaves everything as it is (`Settings.keeps_load`), so this is how the
program ends (`Invocation.run_eq_outcome`). Main statement: `outcomes_of_commands`.
-/

namespace FunctionBindings

namespace Command

variable {options : GeneratorOptions} {model : String} {session next : Session}

/-- How a command ends, as the program does after it has loaded the settings. -/
def outcome (options : GeneratorOptions) (command : Command) (session : Session) :
    ExitStatus × Session :=
  match ((command.execute (m := StateM Session) options).run session).run with
  | (.ok (), next) => (.success, next)
  | (.error error, next) => (.failure, next.saying "" error.line)

/-- A command ends with success if its execution does not fail. -/
theorem outcome_fst_eq_success_iff {command : Command} :
    (command.outcome options session).1 = .success ↔
      ((command.execute (m := StateM Session) options).run session).run.1 = .ok () := by
  unfold outcome
  split
  · rename_i h
    simp [h]
  · rename_i h
    simp [h]

section

variable (output : Option String) (pretty : Bool) (provider : Option String)

/-- If a model does not pass, `generate` fails, touches no file and prints nothing. -/
theorem outcome_generate_of_not_passes (hfails : ¬ session.disk.Passes options model) :
    ∃ reported, (generate model output pretty provider).outcome options session =
      (.failure, session.saying "" reported) := by
  rw [Disk.passes_iff] at hfails
  cases hmodel : session.disk.model model with
  | error error =>
      refine ⟨error.line, ?_⟩
      simp [outcome, execute, generateArtifact, run_examine_of_error hmodel]
  | ok program =>
      have hfailure : (program.generate options).isSuccess = false :=
        eq_false_of_ne_true fun hsuccess ↦ hfails ⟨program, hmodel, hsuccess⟩
      have hresult : (program.generate options).result =
          .error (program.generate options).errors := by
        simp [GenerationReport.result, hfailure]
      refine ⟨session.diagnosticsText model (program.generate options) ++
        (CommandError.generationFailed (program.generate options).errors.length).line, ?_⟩
      simp [outcome, execute, generateArtifact, run_examine_of_ok hmodel, hresult,
        Session.saying_saying]

/-- If a model passes, `generate` writes the artifact and the provider module in this order, as far
as they are wanted, and stops at the first that cannot be written. -/
theorem outcome_generate_of_generates {records : List FunctionRecord}
    (hrecords : session.disk.Generates options model records) :
    ∃ reported, (generate model output pretty provider).outcome options session =
      match session.disk.withArtifact output records pretty with
      | .error error => (.failure, session.saying "" (reported ++ error.line))
      | .ok written =>
          match written.withModule provider records with
          | .error error =>
              (.failure, { session with disk := written }.saying
                (printedRecords output records pretty) (reported ++ error.line))
          | .ok last =>
              (.success, { session with disk := last }.saying
                (printedRecords output records pretty) reported) := by
  obtain ⟨program, hmodel, hsuccess, hrecords⟩ := Disk.generates_iff.1 hrecords
  have hresult := GenerationReport.result_eq_ok_iff.2 ⟨hsuccess, hrecords⟩
  refine ⟨session.diagnosticsText model (program.generate options), ?_⟩
  cases hartifact : session.disk.withArtifact output records pretty with
  | error error =>
      simp [outcome, execute, generateArtifact, run_examine_of_ok hmodel, hresult,
        run_writeRecords, Session.saying, hartifact, String.append_assoc]
  | ok written =>
      cases hmodule : written.withModule provider records <;>
        simp [outcome, execute, generateArtifact, run_examine_of_ok hmodel, hresult,
          run_writeRecords, run_writeModule, Session.saying, hartifact, hmodule,
          String.append_assoc]

/-- A success of `generate` has written the artifact and the provider module, as far as they are
wanted, for the records of the model. -/
theorem exists_of_outcome_generate
    (h : (generate model output pretty provider).outcome options session = (.success, next)) :
    ∃ records written, session.disk.Generates options model records ∧
      session.disk.withArtifact output records pretty = .ok written ∧
      written.withModule provider records = .ok next.disk := by
  by_cases hpasses : session.disk.Passes options model
  · obtain ⟨records, hrecords⟩ := hpasses
    obtain ⟨reported, houtcome⟩ :=
      outcome_generate_of_generates output pretty provider hrecords
    rw [h] at houtcome
    cases hartifact : session.disk.withArtifact output records pretty with
    | error error => simp [hartifact] at houtcome
    | ok written =>
        cases hmodule : written.withModule provider records with
        | error error => simp [hartifact, hmodule] at houtcome
        | ok last =>
            obtain rfl : next = _ := by simpa [hartifact, hmodule] using houtcome
            exact ⟨records, written, hrecords, hartifact, hmodule⟩
  · obtain ⟨reported, houtcome⟩ := outcome_generate_of_not_passes output pretty provider hpasses
    rw [h] at houtcome
    cases houtcome

/-- `generate` succeeds if the model passes and all that is wanted can be written. -/
theorem outcome_generate_fst_eq_success_iff :
    ((generate model output pretty provider).outcome options session).1 = .success ↔
      ∃ records written last, session.disk.Generates options model records ∧
        session.disk.withArtifact output records pretty = .ok written ∧
        written.withModule provider records = .ok last := by
  constructor
  · intro hsuccess
    obtain ⟨records, written, h⟩ := exists_of_outcome_generate output pretty provider
      (Prod.ext hsuccess rfl : (generate model output pretty provider).outcome options session =
        (.success, _))
    exact ⟨records, written, _, h⟩
  · rintro ⟨records, written, last, hrecords, hartifact, hmodule⟩
    obtain ⟨reported, houtcome⟩ :=
      outcome_generate_of_generates output pretty provider hrecords
    simp [houtcome, hartifact, hmodule]

end

/-- With both paths left out, `generate` succeeds on the models that pass. -/
theorem outcome_generate_print (pretty : Bool) :
    ((generate model none pretty none).outcome options session).1 = .success ↔
      session.disk.Passes options model := by
  rw [outcome_generate_fst_eq_success_iff]
  simp [Disk.withArtifact, Disk.withModule, Disk.Passes]

/-- `list` succeeds on the models that pass. -/
theorem outcome_list :
    ((list model).outcome options session).1 = .success ↔ session.disk.Passes options model := by
  rw [outcome_fst_eq_success_iff, Disk.passes_iff, execute, listFunctions]
  cases hmodel : session.disk.model model with
  | error error => simp [run_examine_of_error hmodel]
  | ok program =>
      cases hsuccess : (program.generate options).isSuccess <;>
        simp [run_examine_of_ok hmodel, hsuccess, GenerationReport.result]

/-- `check` writes the verdicts on its models in order and fails with the number of those that do
not pass, if there are any. -/
theorem outcome_check (options : GeneratorOptions) (models : List String) (session : Session) :
    (check models).outcome options session =
      let verdicts := models.map (session.verdict options)
      let failures := verdicts.countP (!·.passes)
      let said := session.saying (String.join (verdicts.map (·.printed)))
        (String.join (verdicts.map (·.reported)))
      if failures = 0 then (.success, said)
      else (.failure, said.saying "" (CommandError.modelsFailed failures).line) := by
  cases hfailures : (models.map (session.verdict options)).countP (!·.passes) with
  | zero => simp [outcome, execute, run_checkModels, hfailures]
  | succ failures => simp [outcome, execute, run_checkModels, hfailures]

/-- `check` on one model succeeds if it passes. -/
theorem outcome_check_singleton :
    ((check [model]).outcome options session).1 = .success ↔
      session.disk.Passes options model := by
  rw [outcome_check, ← Session.passes_verdict_iff]
  cases hpasses : (session.verdict options model).passes <;> simp [hpasses]

end Command

namespace Session

/-- True of a computation that leaves every session as it is. -/
def Keeps {α : Type} (computation : StateM Session α) : Prop :=
  ∀ session, ((computation.run session).run).2 = session

/-- A value leaves the session as it is. -/
theorem Keeps.pure {α : Type} (a : α) : Keeps (Pure.pure a) := fun _ ↦ rfl

/-- Computations that leave the session as it is do so in sequence. -/
theorem Keeps.bind {α β : Type} {computation : StateM Session α} {next : α → StateM Session β}
    (hfirst : Keeps computation) (hnext : ∀ a, Keeps (next a)) : Keeps (computation >>= next) := by
  intro session
  rw [StateT.run_bind, Id.run_bind, hnext, hfirst]

/-- Reading a file leaves the session as it is. -/
theorem keeps_readFile (path : String) : Keeps (Files.readFile path) := fun _ ↦ rfl

/-- Looking for a file leaves the session as it is. -/
theorem keeps_isFile (path : String) : Keeps (Files.isFile path) := fun _ ↦ rfl

end Session

namespace Settings

open Session

/-- The search for the settings file leaves the session as it is. -/
theorem keeps_findFile (name : String) : Keeps (findFile name) := by
  refine (keeps_isFile name).bind fun isFile ↦ ?_
  split
  · exact .pure _
  · refine (keeps_isFile _).bind fun isFile ↦ ?_
    split
    · exact .pure _
    · exact .pure _

/-- Reading the settings file leaves the session as it is. -/
theorem keeps_readFile (name : String) : Keeps (readFile name) := by
  refine (keeps_findFile name).bind fun found ↦ ?_
  cases found with
  | error error => exact .pure _
  | ok path =>
      refine (Session.keeps_readFile path).bind fun text ↦ ?_
      cases text with
      | error error => exact .pure _
      | ok text => exact .pure _

/-- Loading the settings leaves the session as it is. -/
theorem keeps_load (named : Option String) (environment : List (String × String)) :
    Keeps (load named environment) := by
  refine Keeps.bind ?_ fun layer ↦ ?_
  · refine (keeps_readFile _).bind fun file ↦ ?_
    split
    · exact .pure _
    · exact .pure _
    · exact .pure _
  · cases layer with
    | error error => exact .pure _
    | ok file => exact .pure _

end Settings

/-- Once the settings are loaded, the program ends as its command does, on the session that it was
started on. -/
theorem Invocation.run_eq_outcome {environment : List (String × String)} {arguments : List String}
    {invocation : Invocation} {settings : Settings} {session next : Session}
    (harguments : Invocation.ofArguments arguments = .ok invocation)
    (hload : ((Settings.load (m := StateM Session) invocation.config environment).run session).run =
      (.ok settings, next)) :
    ((Invocation.run (m := StateM Session) environment arguments).run session).run =
      invocation.command.outcome (invocation.adjust settings).generator session := by
  obtain rfl : session = next := by
    rw [← Settings.keeps_load invocation.config environment session, hload]
  unfold Command.outcome
  cases hexecute : ((invocation.command.execute (m := StateM Session)
      (invocation.adjust settings).generator).run session).run with
  | mk result next =>
      cases result with
      | ok => simp [run, execute, harguments, hload, hexecute]
      | error error =>
          simp [run, execute, harguments, hload, hexecute, Terminal.report, Session.saying,
            CommandError.line]

/-- Once the settings are loaded, the program ends as its command does. For all settings, `generate`
without paths, `check` on one model and `list` succeed exactly if the model passes. If it does not
pass, `generate` fails, and the files and the standard output stay as they are; if it passes,
`generate` succeeds exactly if the artifact and the provider module can be written where they are
wanted. After a success with a path for the artifact, its file holds the text of the records, or the
provider module if this was wanted in the same file. `check` writes the verdict on each of its
models, in order, and fails if there are models that do not pass, with their number. -/
theorem outcomes_of_commands (session : Session) :
    (∀ environment arguments invocation settings next,
      Invocation.ofArguments arguments = .ok invocation →
      ((Settings.load (m := StateM Session) invocation.config environment).run session).run =
        (.ok settings, next) →
      ((Invocation.run (m := StateM Session) environment arguments).run session).run =
        invocation.command.outcome (invocation.adjust settings).generator session) ∧
    ∀ options : GeneratorOptions,
      (∀ model pretty,
        (((Command.generate model none pretty none).outcome options session).1 = .success ↔
          session.disk.Passes options model) ∧
        (((Command.check [model]).outcome options session).1 = .success ↔
          session.disk.Passes options model) ∧
        (((Command.list model).outcome options session).1 = .success ↔
          session.disk.Passes options model)) ∧
      (∀ model output pretty provider,
        (¬ session.disk.Passes options model →
          ∃ reported, (Command.generate model output pretty provider).outcome options session =
            (.failure, session.saying "" reported)) ∧
        (((Command.generate model output pretty provider).outcome options session).1 = .success ↔
          ∃ records written last, session.disk.Generates options model records ∧
            session.disk.withArtifact output records pretty = .ok written ∧
            written.withModule provider records = .ok last)) ∧
      (∀ model output pretty provider next,
        (Command.generate model (some output) pretty provider).outcome options session =
          (.success, next) →
        ∃ records, session.disk.Generates options model records ∧
          let target := session.disk.artifactPath output
          ((∀ path, provider = some path → ¬ session.disk.SamePlace path target) →
            next.disk.read target = .ok (artifactText records pretty)) ∧
          ∀ path, provider = some path → session.disk.SamePlace path target →
            next.disk.read target = .ok (providerModule records)) ∧
      (∀ model, (session.verdict options model).passes ↔ session.disk.Passes options model) ∧
      ∀ models, (Command.check models).outcome options session =
        let verdicts := models.map (session.verdict options)
        let failures := verdicts.countP (!·.passes)
        let said := session.saying (String.join (verdicts.map (·.printed)))
          (String.join (verdicts.map (·.reported)))
        if failures = 0 then (.success, said)
        else (.failure, said.saying "" (CommandError.modelsFailed failures).line) := by
  refine ⟨fun _ _ _ _ _ ↦ Invocation.run_eq_outcome, fun options ↦ ⟨?_, ?_, ?_, ?_, ?_⟩⟩
  · intro model pretty
    exact ⟨Command.outcome_generate_print pretty, Command.outcome_check_singleton,
      Command.outcome_list⟩
  · intro model output pretty provider
    exact ⟨Command.outcome_generate_of_not_passes output pretty provider,
      Command.outcome_generate_fst_eq_success_iff output pretty provider⟩
  · intro model output pretty provider next hsuccess
    obtain ⟨records, written, hrecords, hartifact, hmodule⟩ :=
      Command.exists_of_outcome_generate (some output) pretty provider hsuccess
    refine ⟨records, hrecords, Disk.read_artifactPath_of_apart hartifact hmodule, ?_⟩
    rintro path rfl hsame
    exact Disk.read_artifactPath_of_samePlace hartifact hmodule hsame
  · exact fun model ↦ Session.passes_verdict_iff
  · exact fun models ↦ Command.outcome_check options models session

namespace ShopDirectory

/-- The text of a model without types. -/
def modelText : String := "\x7b\"assembly_name\":\"Shop\"\x7d"

/-- The program of a method that takes an order from a queue; its entry-point attribute has these
arguments. -/
def program (arguments : List Constant) : Program :=
  let attr : Attribute := { Attribute.named "Function" with arguments }
  let param : Parameter := (Parameter.of "order" (.named "string" [])).annotated
    ((Attribute.named "QueueTrigger").withArgument (.string "orders"))
  (Program.of "Shop").withType ((DeclaredType.of "Orders").withMethod
    (((Method.of "Take" .void).annotated attr).withParam param))

/-- The program of one function. -/
def orders : Program := program [.string "TakeOrder"]

/-- The program of a candidate that has no name, so that nothing is generated from it. -/
def unnamed : Program := program []

/-- A session in a directory with three models, a file that is no model, and the directory of an
app. -/
def session : Session :=
  .start ⟨((((Table.empty.insert ["model.json"] (.file modelText)).insert ["orders.json"]
    (.file orders.text)).insert ["unnamed.json"] (.file unnamed.text)).insert ["notes.txt"]
    (.file "no model")).insert ["app"] .directory⟩

/-- The arguments that ask for an artifact and a provider module of a model. -/
def arguments (model output provider : String) : List String :=
  ["generate", model, "-o", output, "--emit-provider", provider]

/-- The invocation that these arguments are. -/
def invocation (model output provider : String) : Invocation where
  config := none
  logLevel := none
  serial := false
  command := .generate model (some output) false (some provider)

/-- Nothing goes wrong in the generation of the model without types. -/
theorem generates_model : session.disk.Generates .standard "model.json" [] :=
  ⟨modelText, .of "Shop", rfl, by cbv, rfl⟩

/-- Nothing goes wrong in the generation of the one function. -/
theorem generates_orders :
    session.disk.Generates .standard "orders.json" (orders.generate .standard).records := by
  have hscalars : orders.scalars = [.string "TakeOrder", .string "orders"] := rfl
  have htext : Program.read.ofText orders.text = .ok orders :=
    (Program.readsBack (by simp [hscalars])).ofText (by decide)
  exact ⟨orders.text, orders, rfl, htext,
    GenerationReport.result_eq_ok_iff.2 ⟨by decide +kernel, rfl⟩⟩

/-- The model of the candidate without a name does not pass. -/
theorem not_passes_unnamed : ¬ session.disk.Passes .standard "unnamed.json" := by
  have hscalars : unnamed.scalars = [.string "orders"] := rfl
  have htext : Program.read.ofText unnamed.text = .ok unnamed :=
    (Program.readsBack (by simp [hscalars])).ofText (by decide)
  have hmodel : session.disk.model "unnamed.json" = .ok unnamed :=
    Disk.model_eq_ok_iff.2 ⟨unnamed.text, rfl, htext⟩
  rw [Disk.passes_iff]
  rintro ⟨program, hprogram, hsuccess⟩
  obtain rfl := Except.ok.inj (hmodel.symm.trans hprogram)
  exact absurd hsuccess (by decide +kernel)

/-- The settings are the usual ones. -/
theorem load_settings :
    ((Settings.load (m := StateM Session) none []).run session).run = (.ok .standard, session) :=
  rfl

/-- A success does not leave the artifact in its file if the provider module is wanted there. -/
theorem exists_artifact_replaced :
    session.disk.Generates .standard "model.json" [] ∧
    ∃ next, ((Invocation.run (m := StateM Session) []
        (arguments "model.json" "out.json" "out.json")).run session).run = (.success, next) ∧
      session.disk.artifactPath "out.json" = "out.json" ∧
      next.disk.read "out.json" = .ok (providerModule []) ∧
      next.disk.read "out.json" ≠ .ok (artifactText [] false) := by
  have harguments : Invocation.ofArguments (arguments "model.json" "out.json" "out.json") =
      .ok (invocation "model.json" "out.json" "out.json") := rfl
  have hrun := Invocation.run_eq_outcome harguments load_settings
  obtain ⟨reported, houtcome⟩ := Command.outcome_generate_of_generates (some "out.json") false
    (some "out.json") generates_model
  refine ⟨generates_model, _, hrun.trans houtcome, rfl, rfl, ?_⟩
  intro hread
  exact absurd (Except.ok.inj hread) (by decide)

/-- The artifact of the one function is left in the directory of the app, nothing is left of the
model that does not pass, and a check of both and of the other file fails with two models. -/
theorem outcomes_of_commands_app :
    Invocation.ofArguments (arguments "orders.json" "app" "provider.rs") =
      .ok (invocation "orders.json" "app" "provider.rs") ∧
    (∃ next records, ((Invocation.run (m := StateM Session) []
        (arguments "orders.json" "app" "provider.rs")).run session).run = (.success, next) ∧
      records.map (·.name) = ["TakeOrder"] ∧
      next.disk.read "app/functions.metadata.json" = .ok (artifactText records false)) ∧
    (∃ reported, ((Invocation.run (m := StateM Session) []
        (arguments "unnamed.json" "app" "provider.rs")).run session).run =
      (.failure, session.saying "" reported)) ∧
    session.disk.Passes .standard "orders.json" ∧
    ¬ session.disk.Passes .standard "unnamed.json" ∧
    ¬ session.disk.Passes .standard "notes.txt" ∧
    ∃ said : Session,
      (Command.check ["orders.json", "unnamed.json", "notes.txt"]).outcome .standard session =
        (.failure, said.saying "" (CommandError.modelsFailed 2).line) := by
  have harguments (model : String) (hmodel : model ∈ ["orders.json", "unnamed.json"]) :
      Invocation.ofArguments (arguments model "app" "provider.rs") =
        .ok (invocation model "app" "provider.rs") := by
    simp only [List.mem_cons, List.not_mem_nil, or_false] at hmodel
    obtain rfl | rfl := hmodel <;> rfl
  obtain ⟨hinvocation, hcommands⟩ := outcomes_of_commands session
  obtain ⟨-, hgenerate, hsuccess, hverdict, hcheck⟩ := hcommands .standard
  have hrun (model : String) (hmodel : model ∈ ["orders.json", "unnamed.json"]) :=
    hinvocation [] _ _ .standard session (harguments model hmodel) load_settings
  have hpasses : session.disk.Passes .standard "orders.json" := ⟨_, generates_orders⟩
  have hnotes : ¬ session.disk.Passes .standard "notes.txt" := by
    rw [← hverdict]
    decide +kernel
  refine ⟨harguments _ (by decide), ?_, ?_, hpasses, not_passes_unnamed, hnotes, ?_⟩
  · obtain ⟨-, hwritable⟩ := hgenerate "orders.json" (some "app") false (some "provider.rs")
    have hended := hwritable.2 ⟨_, _, _, generates_orders, rfl, rfl⟩
    obtain ⟨records, hrecords, hapart, -⟩ :=
      hsuccess "orders.json" "app" false (some "provider.rs") _ (Prod.ext hended rfl)
    obtain rfl := hrecords.unique generates_orders
    have hnames : (orders.generate .standard).records.map (·.name) = ["TakeOrder"] := by
      decide +kernel
    refine ⟨_, _, (hrun "orders.json" (by decide)).trans (Prod.ext hended rfl), hnames, hapart ?_⟩
    rintro path ⟨⟩ ⟨place, hprovider, hartifact⟩
    have hplace : ["provider.rs"] = place := Except.ok.inj hprovider
    have hother : ["app", "functions.metadata.json"] = place := Except.ok.inj hartifact
    exact absurd (hplace.trans hother.symm) (by decide)
  · obtain ⟨hrefused, -⟩ := hgenerate "unnamed.json" (some "app") false (some "provider.rs")
    obtain ⟨reported, houtcome⟩ := hrefused not_passes_unnamed
    exact ⟨reported, (hrun "unnamed.json" (by decide)).trans houtcome⟩
  · have horders : (session.verdict .standard "orders.json").passes = true :=
      (hverdict "orders.json").2 hpasses
    have hunnamed : (session.verdict .standard "unnamed.json").passes = false :=
      Bool.eq_false_iff.2 (mt (hverdict "unnamed.json").1 not_passes_unnamed)
    have hother : (session.verdict .standard "notes.txt").passes = false :=
      Bool.eq_false_iff.2 (mt (hverdict "notes.txt").1 hnotes)
    have hfailures : (["orders.json", "unnamed.json", "notes.txt"].map
        (session.verdict .standard)).countP (!·.passes) = 2 := by
      simp [horders, hunnamed, hother]
    have hended := hcheck ["orders.json", "unnamed.json", "notes.txt"]
    rw [if_neg (by rw [hfailures]; decide), hfailures] at hended
    exact ⟨_, hended⟩

end ShopDirectory

end FunctionBindings
