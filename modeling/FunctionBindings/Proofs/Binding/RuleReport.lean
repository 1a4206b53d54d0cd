import FunctionBindings.Proofs.Binding.Occurrences

/-!
# What a check reports

A check accepts a function exactly if its bindings keep all rules (`Classification.KeepsRules`), and
otherwise reports, rule by rule, every violation once (`RuleReport.IsAbout`). Main statement:
`checkFunction_dichotomy`. The rule of unique names is silent while another rule is broken; this
never lets a function through, because the other rule has reported it.
-/

namespace FunctionBindings

namespace Classification

/-- The rules for the bindings of a function. -/
structure KeepsRules (found : Classification) : Prop where
  /-- At most one output stands on the method. -/
  methodOutputs : found.bindings.countP (·.source = .method) ≤ 1
  /-- At most one binding stands on each member of the return type. -/
  memberOutputs : ∀ name, found.bindings.countP (fun b ↦ b.source = .member ∧ b.name = name) ≤ 1
  /-- There is at most one HTTP response. -/
  httpResponses : found.bindings.countP (·.isHttpResponse) ≤ 1
  /-- Every attribute has a constructor for its arguments. -/
  constructors : ∀ binding ∈ found.bindings, ∀ attr spec, binding.origin = .declared attr spec →
    (spec.constructorFor? attr.arguments.length).isSome
  /-- All names differ, that of the return value apart. -/
  distinctNames : ((found.bindings.filter (·.name ≠ returnBindingName)).map (·.name)).Nodup

end Classification

/-- What the rules report about a function, rule by rule. -/
structure RuleReport where
  methodOutputs : List CheckError
  memberOutputs : List CheckError
  httpResponses : List CheckError
  constructors : List CheckError
  names : List CheckError
  warnings : List CheckError

namespace RuleReport

/-- The report on the rules that do not depend on others. -/
def shape (report : RuleReport) : List CheckError :=
  report.methodOutputs ++ report.memberOutputs ++ report.httpResponses ++ report.constructors

/-- The whole report, in order. -/
def all (report : RuleReport) : List CheckError :=
  report.shape ++ report.names ++ report.warnings

/-- A report is about a function if it has every violation once and nothing else. -/
structure IsAbout (report : RuleReport) (function : ScannedFunction) (found : Classification) :
    Prop where
  /-- One error at the second output on the method, if there is one, that names all of them. -/
  methodOutputs : report.methodOutputs =
    ((found.bindings.filter (·.source = .method))[1]?).toList.map fun second ↦
      function.error second.span (.multipleMethodOutputs
        ((found.bindings.filter (·.source = .method)).filterMap fun b ↦ b.attribute?.map (·.name)))
  /-- Errors at the second binding of a member. -/
  memberOutputs : report.memberOutputs =
    (selectAfter isSecond [] (found.bindings.filter (·.source = .member))).map fun second ↦
      function.error second.span (.multipleMemberOutputs second.name)
  /-- The members that these errors name are those with two or more bindings, each once. -/
  memberNames : ∃ names : List String, names.Nodup ∧
    (∀ name, name ∈ names ↔
      2 ≤ found.bindings.countP fun b ↦ b.source = .member ∧ b.name = name) ∧
    report.memberOutputs.map (·.cause) = names.map .multipleMemberOutputs
  /-- One error at the second HTTP response, if there is one, that names all of them. -/
  httpResponses : report.httpResponses =
    ((found.bindings.filter (·.isHttpResponse))[1]?).toList.map fun second ↦
      function.error second.span (.multipleHttpResponses
        ((found.bindings.filter (·.isHttpResponse)).map (·.name)))
  /-- One error for every binding whose attribute has no constructor for its arguments. -/
  constructors : report.constructors = found.bindings.filterMap fun binding ↦
    match binding.origin with
    | .httpResponse => none
    | .declared attr spec =>
        if (spec.constructorFor? attr.arguments.length).isSome then none
        else some (function.error attr.span (.malformedAttribute attr.name binding.name
          attr.arguments.length (spec.constructors.map List.length)))
  /-- One error for every binding whose name came before, if no other rule is broken. -/
  names : report.names =
    if report.shape = [] then
      (selectAfter isRepeat [] (found.bindings.filter (·.name ≠ returnBindingName))).map
        fun later ↦ function.error later.span (.duplicateBindingName later.name)
    else []
  /-- The codes of the report, in order. -/
  codes : report.all.map (·.code) =
    List.replicate report.methodOutputs.length "E-BIND-001" ++
    List.replicate report.memberOutputs.length "E-BIND-004" ++
    List.replicate report.httpResponses.length "E-BIND-002" ++
    List.replicate report.constructors.length "E-BIND-003" ++
    List.replicate report.names.length "E-BIND-005" ++
    List.replicate report.warnings.length "W-BIND-001"
  /-- One warning for every in-process attribute. -/
  warnings : report.warnings = found.legacy.map fun entry ↦
    function.error entry.1.span (.legacyBinding entry.1.name entry.2)

end RuleReport

namespace ScannedFunction

variable (function : ScannedFunction) (found : Classification)

/-- The report of the checks of a classification. -/
def ruleReport : RuleReport where
  methodOutputs := function.checkMethodOutputs found
  memberOutputs := function.checkMemberOutputs found
  httpResponses := function.checkHttpResponses found
  constructors := function.checkConstructors found
  names := if (function.checkShape found).isEmpty then function.checkUniqueNames found else []
  warnings := function.checkLegacy found

/-- The checks report rule by rule. -/
theorem validate_eq_all : function.validate found = (function.ruleReport found).all := rfl

/-- The rules on the shape are those that do not depend on others. -/
theorem ruleReport_shape : (function.ruleReport found).shape = function.checkShape found := rfl

/-- The second output on the method is reported with the attributes of all. -/
theorem checkMethodOutputs_eq :
    function.checkMethodOutputs found =
      (found.methodOutputs[1]?).toList.map fun second ↦
        function.error second.span (.multipleMethodOutputs
          (found.methodOutputs.filterMap fun b ↦ b.attribute?.map (·.name))) := by
  unfold checkMethodOutputs
  rcases found.methodOutputs with _ | ⟨first, _ | ⟨second, rest⟩⟩ <;> rfl

/-- The second HTTP response is reported with the names of all. -/
theorem checkHttpResponses_eq :
    function.checkHttpResponses found =
      (found.httpResponses[1]?).toList.map fun second ↦
        function.error second.span (.multipleHttpResponses
          (found.httpResponses.map (·.name))) := by
  unfold checkHttpResponses
  rcases found.httpResponses with _ | ⟨first, _ | ⟨second, rest⟩⟩ <;> rfl

/-- The second binding of every member is reported. -/
theorem checkMemberOutputs_eq :
    function.checkMemberOutputs found =
      (selectAfter isSecond [] (found.bindings.filter (·.source = .member))).map fun second ↦
        function.error second.span (.multipleMemberOutputs second.name) := by
  rw [checkMemberOutputs, atOccurrence_two]

/-- Every repetition of a name is reported, that of the return value apart. -/
theorem checkUniqueNames_eq :
    function.checkUniqueNames found =
      (selectAfter isRepeat [] (found.bindings.filter (·.name ≠ returnBindingName))).map
        fun later ↦ function.error later.span (.duplicateBindingName later.name) := by
  rw [checkUniqueNames, repeated_eq_selectAfter]

theorem checkMethodOutputs_eq_nil_iff :
    function.checkMethodOutputs found = [] ↔
      found.bindings.countP (·.source = .method) ≤ 1 := by
  rw [checkMethodOutputs_eq, List.countP_eq_length_filter]
  simp [Classification.methodOutputs]

theorem checkHttpResponses_eq_nil_iff :
    function.checkHttpResponses found = [] ↔
      found.bindings.countP (·.isHttpResponse) ≤ 1 := by
  rw [checkHttpResponses_eq, List.countP_eq_length_filter]
  simp [Classification.httpResponses]

theorem checkMemberOutputs_eq_nil_iff :
    function.checkMemberOutputs found = [] ↔
      ∀ name, found.bindings.countP (fun b ↦ b.source = .member ∧ b.name = name) ≤ 1 := by
  rw [checkMemberOutputs_eq, List.map_eq_nil_iff, selectAfter_isSecond_eq_nil_iff]
  simp only [countP_name_of_members]

theorem checkUniqueNames_eq_nil_iff :
    function.checkUniqueNames found = [] ↔
      ((found.bindings.filter (·.name ≠ returnBindingName)).map (·.name)).Nodup := by
  rw [checkUniqueNames_eq, List.map_eq_nil_iff, selectAfter_isRepeat_eq_nil_iff]
  simp

/-- A declared binding is reported if its attribute has no constructor for its arguments. -/
theorem checkConstructor_eq (binding : Binding) :
    function.checkConstructor binding =
      match binding.origin with
      | .httpResponse => none
      | .declared attr spec =>
          if (spec.constructorFor? attr.arguments.length).isSome then none
          else some (function.error attr.span (.malformedAttribute attr.name binding.name
            attr.arguments.length (spec.constructors.map List.length))) := by
  unfold checkConstructor
  cases binding.origin with
  | httpResponse => rfl
  | declared attr spec =>
      dsimp only
      cases spec.constructorFor? attr.arguments.length <;> rfl

theorem checkConstructor_eq_none_iff (binding : Binding) :
    function.checkConstructor binding = none ↔
      ∀ attr spec, binding.origin = .declared attr spec →
        (spec.constructorFor? attr.arguments.length).isSome := by
  rw [checkConstructor_eq]
  cases binding.origin with
  | httpResponse => simp
  | declared attr spec => simp [Option.isSome_iff_ne_none]

theorem checkConstructors_eq_nil_iff :
    function.checkConstructors found = [] ↔
      ∀ binding ∈ found.bindings, ∀ attr spec, binding.origin = .declared attr spec →
        (spec.constructorFor? attr.arguments.length).isSome := by
  simp only [checkConstructors, List.filterMap_eq_nil_iff, checkConstructor_eq_none_iff]

/-- The rules that do not depend on others are kept if they report nothing; then that of unique
names speaks up for itself. -/
theorem keepsRules_iff :
    found.KeepsRules ↔ function.checkShape found = [] ∧ function.checkUniqueNames found = [] := by
  simp only [checkShape, List.append_eq_nil_iff, checkMethodOutputs_eq_nil_iff,
    checkMemberOutputs_eq_nil_iff, checkHttpResponses_eq_nil_iff, checkConstructors_eq_nil_iff,
    checkUniqueNames_eq_nil_iff]
  constructor
  · rintro ⟨hmethod, hmember, hresponse, hconstructor, hnames⟩
    exact ⟨⟨⟨⟨hmethod, hmember⟩, hresponse⟩, hconstructor⟩, hnames⟩
  · rintro ⟨⟨⟨⟨hmethod, hmember⟩, hresponse⟩, hconstructor⟩, hnames⟩
    exact ⟨hmethod, hmember, hresponse, hconstructor, hnames⟩

theorem code_of_mem_checkMethodOutputs {error : CheckError}
    (h : error ∈ function.checkMethodOutputs found) : error.code = "E-BIND-001" := by
  rw [checkMethodOutputs_eq] at h
  obtain ⟨second, -, rfl⟩ := List.mem_map.1 h
  rfl

theorem code_of_mem_checkMemberOutputs {error : CheckError}
    (h : error ∈ function.checkMemberOutputs found) : error.code = "E-BIND-004" := by
  obtain ⟨second, -, rfl⟩ := List.mem_map.1 h
  rfl

theorem code_of_mem_checkHttpResponses {error : CheckError}
    (h : error ∈ function.checkHttpResponses found) : error.code = "E-BIND-002" := by
  rw [checkHttpResponses_eq] at h
  obtain ⟨second, -, rfl⟩ := List.mem_map.1 h
  rfl

theorem code_of_mem_checkConstructors {error : CheckError}
    (h : error ∈ function.checkConstructors found) : error.code = "E-BIND-003" := by
  obtain ⟨binding, -, hbinding⟩ := List.mem_filterMap.1 h
  rw [checkConstructor_eq] at hbinding
  split at hbinding
  · cases hbinding
  · split at hbinding
    · cases hbinding
    · cases hbinding
      rfl

theorem code_of_mem_checkUniqueNames {error : CheckError}
    (h : error ∈ function.checkUniqueNames found) : error.code = "E-BIND-005" := by
  obtain ⟨later, -, rfl⟩ := List.mem_map.1 h
  rfl

theorem code_of_mem_checkLegacy {error : CheckError}
    (h : error ∈ function.checkLegacy found) : error.code = "W-BIND-001" := by
  obtain ⟨entry, -, rfl⟩ := List.mem_map.1 h
  rfl

end ScannedFunction

/-- An error blocks its function unless it has the code of the warning. -/
theorem CheckError.isHard_iff (error : CheckError) :
    error.isHard ↔ error.code ≠ "W-BIND-001" := by
  unfold isHard code
  cases error.cause <;> simp

/-- Errors of one code, code by code. -/
theorem map_code_eq_replicate {errors : List CheckError} {code : String}
    (h : ∀ error ∈ errors, error.code = code) :
    errors.map (·.code) = List.replicate errors.length code :=
  List.map_eq_replicate_iff.2 h

namespace ScannedFunction

variable (function : ScannedFunction) (found : Classification)

theorem code_of_mem_names {error : CheckError} (h : error ∈ (function.ruleReport found).names) :
    error.code = "E-BIND-005" := by
  simp only [ruleReport] at h
  split at h
  · exact function.code_of_mem_checkUniqueNames found h
  · cases h

/-- The checks report every violation once and nothing else. -/
theorem ruleReport_isAbout : (function.ruleReport found).IsAbout function found where
  methodOutputs := function.checkMethodOutputs_eq found
  memberOutputs := function.checkMemberOutputs_eq found
  memberNames := by
    refine ⟨_, nodup_names_seconds [] (found.bindings.filter (·.source = .member)), ?_, ?_⟩
    · intro name
      rw [mem_names_seconds, List.nil_append, countP_name_of_members]
      simp
    · simp only [ruleReport, checkMemberOutputs_eq, List.map_map]
      rfl
  httpResponses := function.checkHttpResponses_eq found
  constructors := by
    simp only [ruleReport, checkConstructors]
    congr
    funext binding
    exact function.checkConstructor_eq binding
  names := by
    rw [ruleReport_shape, ← checkUniqueNames_eq]
    simp [ruleReport]
  codes := by
    let report := function.ruleReport found
    have hmethod : ∀ error ∈ report.methodOutputs, error.code = "E-BIND-001" :=
      fun _ ↦ function.code_of_mem_checkMethodOutputs found
    have hmember : ∀ error ∈ report.memberOutputs, error.code = "E-BIND-004" :=
      fun _ ↦ function.code_of_mem_checkMemberOutputs found
    have hresponse : ∀ error ∈ report.httpResponses, error.code = "E-BIND-002" :=
      fun _ ↦ function.code_of_mem_checkHttpResponses found
    have hconstructor : ∀ error ∈ report.constructors, error.code = "E-BIND-003" :=
      fun _ ↦ function.code_of_mem_checkConstructors found
    have hname : ∀ error ∈ report.names, error.code = "E-BIND-005" :=
      fun _ ↦ function.code_of_mem_names found
    have hwarning : ∀ error ∈ report.warnings, error.code = "W-BIND-001" :=
      fun _ ↦ function.code_of_mem_checkLegacy found
    simp only [RuleReport.all, RuleReport.shape, List.map_append]
    rw [map_code_eq_replicate hmethod, map_code_eq_replicate hmember,
      map_code_eq_replicate hresponse, map_code_eq_replicate hconstructor,
      map_code_eq_replicate hname, map_code_eq_replicate hwarning]
  warnings := rfl

/-- What a rule reports blocks the function. -/
theorem isHard_of_mem_checkShape {error : CheckError} (h : error ∈ function.checkShape found) :
    error.isHard := by
  rw [CheckError.isHard_iff]
  simp only [checkShape, List.mem_append] at h
  obtain ((h | h) | h) | h := h
  · rw [function.code_of_mem_checkMethodOutputs found h]; decide
  · rw [function.code_of_mem_checkMemberOutputs found h]; decide
  · rw [function.code_of_mem_checkHttpResponses found h]; decide
  · rw [function.code_of_mem_checkConstructors found h]; decide

/-- What the rule of unique names reports blocks the function. -/
theorem isHard_of_mem_checkUniqueNames {error : CheckError}
    (h : error ∈ function.checkUniqueNames found) : error.isHard := by
  rw [CheckError.isHard_iff, function.code_of_mem_checkUniqueNames found h]
  decide

/-- A warning does not block the function. -/
theorem not_isHard_of_mem_checkLegacy {error : CheckError}
    (h : error ∈ function.checkLegacy found) : ¬ error.isHard := by
  rw [CheckError.isHard_iff, function.code_of_mem_checkLegacy found h]
  decide

/-- Checks block a function exactly if a rule is broken. -/
theorem any_isHard_validate_iff :
    (function.validate found).any (·.isHard) ↔ ¬ found.KeepsRules := by
  have hsoft : (function.checkLegacy found).any (·.isHard) = false := by
    rw [List.any_eq_false]
    exact fun _ ↦ function.not_isHard_of_mem_checkLegacy found
  rw [function.keepsRules_iff found, not_and]
  -- If the shape is right, then the names decide; otherwise they are not looked at, and the first
  -- error about the shape blocks the function whatever they are.
  cases hshape : function.checkShape found with
  | nil =>
      cases hnames : function.checkUniqueNames found with
      | nil => simp [validate, hshape, hnames, hsoft]
      | cons error errors =>
          have hhard : error.isHard :=
            function.isHard_of_mem_checkUniqueNames found (by simp [hnames])
          simp [validate, hshape, hnames, hhard]
  | cons error errors =>
      have hhard : error.isHard := function.isHard_of_mem_checkShape found (by simp [hshape])
      simp [validate, hshape, hhard]

/-- The checks of a classification that keeps all rules report its in-process attributes only. -/
theorem validate_of_keepsRules (h : found.KeepsRules) :
    function.validate found = function.checkLegacy found := by
  obtain ⟨hshape, hnames⟩ := (function.keepsRules_iff found).1 h
  simp [validate, hshape, hnames]

end ScannedFunction

section

variable {function : ScannedFunction} {catalog : Catalog} {conventions : Conventions}

/-- A function whose bindings keep all rules is accepted with all of its bindings. -/
theorem checkFunction_of_keepsRules (h : (function.classify catalog conventions).KeepsRules) :
    checkFunction function catalog conventions =
      .ok ⟨function, (function.classify catalog conventions).bindings,
        function.checkLegacy (function.classify catalog conventions)⟩ := by
  have hpasses :
      (function.validate (function.classify catalog conventions)).any (·.isHard) = false := by
    rw [Bool.eq_false_iff, Ne, function.any_isHard_validate_iff]
    exact not_not_intro h
  rw [checkFunction, hpasses, if_neg Bool.false_ne_true, function.validate_of_keepsRules _ h]

/-- A function of which a rule is broken is refused with the report of the checks. -/
theorem checkFunction_of_not_keepsRules
    (h : ¬ (function.classify catalog conventions).KeepsRules) :
    checkFunction function catalog conventions =
      .error (function.validate (function.classify catalog conventions)) := by
  have hfails := (function.any_isHard_validate_iff _).2 h
  rw [checkFunction, hfails, if_pos rfl]

/-- An accepted function keeps all rules. -/
theorem checkFunction_eq_ok_iff {checked : CheckedFunction} :
    checkFunction function catalog conventions = .ok checked ↔
      (function.classify catalog conventions).KeepsRules ∧
      checked = ⟨function, (function.classify catalog conventions).bindings,
        function.checkLegacy (function.classify catalog conventions)⟩ := by
  by_cases hrules : (function.classify catalog conventions).KeepsRules
  · simp [checkFunction_of_keepsRules hrules, hrules, eq_comm]
  · simp [checkFunction_of_not_keepsRules hrules, hrules]

/-- A refused function comes with the report of the checks. -/
theorem checkFunction_eq_error_iff {errors : List CheckError} :
    checkFunction function catalog conventions = .error errors ↔
      ¬ (function.classify catalog conventions).KeepsRules ∧
      errors = function.validate (function.classify catalog conventions) := by
  by_cases hrules : (function.classify catalog conventions).KeepsRules
  · simp [checkFunction_of_keepsRules hrules, hrules]
  · simp [checkFunction_of_not_keepsRules hrules, hrules, eq_comm]

end

/-- A check accepts a function if the bindings that its classification finds keep all rules, with
these bindings and one warning for every in-process attribute; it refuses any other function with a
report on what is wrong. -/
theorem checkFunction_dichotomy (function : ScannedFunction) (catalog : Catalog)
    (conventions : Conventions) :
    let found := function.classify catalog conventions
    ((∃ checked, checkFunction function catalog conventions = .ok checked) ↔ found.KeepsRules) ∧
    (∀ checked, checkFunction function catalog conventions = .ok checked →
      checked.function = function ∧ checked.bindings = found.bindings ∧
      checked.warnings = found.legacy.map fun entry ↦
        function.error entry.1.span (.legacyBinding entry.1.name entry.2)) ∧
    (∀ errors, checkFunction function catalog conventions = .error errors →
      ∃ report : RuleReport, report.IsAbout function found ∧ errors = report.all) := by
  intro found
  refine ⟨?_, ?_, ?_⟩
  · simp only [checkFunction_eq_ok_iff, exists_and_left, exists_eq, and_true]
    rfl
  · intro checked h
    obtain ⟨-, rfl⟩ := checkFunction_eq_ok_iff.1 h
    exact ⟨rfl, rfl, rfl⟩
  · intro errors h
    obtain ⟨-, rfl⟩ := checkFunction_eq_error_iff.1 h
    exact ⟨function.ruleReport found, function.ruleReport_isAbout found, rfl⟩

end FunctionBindings
