import FunctionBindings.Generation.ProviderModule
import FunctionBindings.Proofs.Source.Tokens

/-!
# Records embedded in a provider module

The text of a provider module is read as a compiler reads it, by its tokens. Behind a fixed head and
in front of a fixed tail, each text of each record is one string literal that decodes to it, and all
other tokens are the same for all records: no text ends its literal early. Reading the entries of
the module therefore gives back the records, and different records have different modules. Main
statement: `providerModule_embeds`.
-/

namespace FunctionBindings

namespace Source

/-- The word that begins an entry. -/
def entryName : String := "FunctionMetadata"

/-- True of tokens at which an entry begins. -/
def startsEntry : List Token → Bool
  | .word name :: .mark c :: _ => name == entryName && c == '\x7b'
  | _ => false

/-- What follows the given tokens. -/
def expect? (expected tokens : List Token) : Option (List Token) :=
  if expected <+: tokens then some (tokens.drop expected.length) else none

/-- What turns a literal into an owned string, with a comma behind it. -/
def ownedEnd : List Token :=
  [.mark '.', .word "to_string", .mark '(', .mark ')', .mark ',']

/-- An owned string with a comma behind it. -/
def readOwned? : List Token → Option (String × List Token)
  | .literal text :: rest => (expect? ownedEnd rest).map (text, ·)
  | _ => none

/-- A field of a name with an owned string. -/
def readField? (name : String) (tokens : List Token) : Option (String × List Token) :=
  (expect? [.word name, .mark ':'] tokens).bind readOwned?

/-- What follows is no longer than the tokens. -/
theorem length_le_of_expect? {expected tokens rest : List Token}
    (h : expect? expected tokens = some rest) : rest.length ≤ tokens.length := by
  unfold expect? at h
  split at h
  · rw [Option.some.injEq] at h
    rw [← h, List.length_drop]
    exact Nat.sub_le _ _
  · cases h

/-- An owned string takes up tokens. -/
theorem length_lt_of_readOwned? {tokens rest : List Token} {text : String}
    (h : readOwned? tokens = some (text, rest)) : rest.length < tokens.length := by
  unfold readOwned? at h
  split at h
  · simp only [Option.map_eq_some_iff, Prod.mk.injEq] at h
    obtain ⟨after, hafter, -, rfl⟩ := h
    exact Nat.lt_succ_of_le (length_le_of_expect? hafter)
  · cases h

/-- Owned strings up to the end of a list, with a comma behind it. -/
def readItems? (tokens : List Token) : Option (List String × List Token) :=
  match _h : readOwned? tokens with
  | some (text, rest) => (readItems? rest).map fun (items, rest) ↦ (text :: items, rest)
  | none => (expect? [.mark ']', .mark ','] tokens).map ([], ·)
termination_by tokens.length
decreasing_by exact length_lt_of_readOwned? _h

/-- An entry with a comma behind it. -/
def readRecord? (tokens : List Token) : Option (FunctionRecord × List Token) := do
  let tokens ← expect? [.word entryName, .mark '\x7b'] tokens
  let (functionId, tokens) ← readField? "function_id" tokens
  let (language, tokens) ← readField? "language" tokens
  let (name, tokens) ← readField? "name" tokens
  let (entryPoint, tokens) ← readField? "entry_point" tokens
  let tokens ← expect? [.word "raw_bindings", .mark ':', .word "vec", .mark '!', .mark '['] tokens
  let (rawBindings, tokens) ← readItems? tokens
  let (scriptFile, tokens) ← readField? "script_file" tokens
  let tokens ← expect? [.mark '\x7d', .mark ','] tokens
  return ({ functionId, language, name, entryPoint, rawBindings, scriptFile }, tokens)

/-- The entries among tokens, each read where it begins. -/
def readEntries? : List Token → Option (List FunctionRecord)
  | [] => some []
  | token :: rest =>
      if startsEntry (token :: rest) then do
        let (record, _) ← readRecord? (token :: rest)
        let later ← readEntries? rest
        return record :: later
      else readEntries? rest

/-- True of tokens in which no entry begins, whatever follows them. -/
def noEntry : List Token → Bool
  | [] => true
  | [token] => token != .word entryName
  | token :: next :: rest => !startsEntry [token, next] && noEntry (next :: rest)

/-- The entries of a text, if all of it is tokens. -/
def readRecords? (text : String) : Option (List FunctionRecord) :=
  (tokens? text).bind readEntries?

/-- The tokens of an owned string. -/
def ownedTokens (text : String) : List Token := .literal text :: ownedEnd

/-- The tokens of a field. -/
def fieldTokens (field text : String) : List Token :=
  [.word field, .mark ':'] ++ ownedTokens text

end Source

open Source

/-- The tokens of a record behind the brace that opens its entry. -/
def FunctionRecord.bodyTokens (record : FunctionRecord) : List Token :=
  fieldTokens "function_id" record.functionId ++
  fieldTokens "language" record.language ++
  fieldTokens "name" record.name ++
  fieldTokens "entry_point" record.entryPoint ++
  [.word "raw_bindings", .mark ':', .word "vec", .mark '!', .mark '['] ++
  record.rawBindings.flatMap ownedTokens ++
  [.mark ']', .mark ','] ++
  fieldTokens "script_file" record.scriptFile ++
  [.mark '\x7d', .mark ',']

/-- The tokens of a record. -/
def FunctionRecord.tokens (record : FunctionRecord) : List Token :=
  [.word entryName, .mark '\x7b'] ++ record.bodyTokens

/-- The tokens of the list of records that a module holds. -/
def listTokens (records : List FunctionRecord) : List Token :=
  if records.isEmpty then
    [.word "Ok", .mark '(', .word "Vec", .mark ':', .mark ':', .word "new", .mark '(', .mark ')',
      .mark ')']
  else
    [.word "Ok", .mark '(', .word "vec", .mark '!', .mark '['] ++ records.flatMap (·.tokens) ++
      [.mark ']', .mark ')']

section Scanning

/-- The end of an owned string is scanned as such. -/
theorem run_ownedEnd : run .closed ".to_string(),\n".toList = some (ownedEnd, .code) := by
  decide +kernel

/-- A line with an owned string as an item is scanned as such. -/
theorem run_itemLine (text : String) :
    run .code (itemLine text).toList = some (ownedTokens text, .code) := by
  have hindent : run .code "                    ".toList = some ([], .code) := by decide +kernel
  have hline := run_append (run_append hindent (run_literal text)) run_ownedEnd
  unfold itemLine
  rw [String.toList_append, String.toList_append]
  exact hline

/-- A line that sets a field is scanned as such, if its name is. -/
theorem run_fieldLine (field text : String)
    (hfield : run .code ("                " ++ field ++ ": ").toList =
      some ([.word field, .mark ':'], .code)) :
    run .code (fieldLine field text).toList = some (fieldTokens field text, .code) := by
  have hline := run_append (run_append hfield (run_literal text)) run_ownedEnd
  unfold fieldLine
  rw [String.toList_append, String.toList_append]
  exact hline

/-- Pieces of text that are scanned one by one are scanned together. -/
theorem run_join {α : Type} {text : α → String} {tokens : α → List Token}
    (hpiece : ∀ x, run .code (text x).toList = some (tokens x, .code)) (xs : List α) :
    run .code (String.join (xs.map text)).toList = some (xs.flatMap tokens, .code) := by
  rw [String.toList_join, List.flatMap_map]
  induction xs with
  | nil => rfl
  | cons x xs ih => exact run_append (hpiece x) ih

/-- The text of a record is scanned as its tokens. -/
theorem run_moduleText (record : FunctionRecord) :
    run .code record.moduleText.toList = some (record.tokens, .code) := by
  have hopen : run .code "            FunctionMetadata \x7b\n".toList =
      some ([.word entryName, .mark '\x7b'], .code) := by
    decide +kernel
  have hfunctionId := run_fieldLine "function_id" record.functionId (by decide +kernel)
  have hlanguage := run_fieldLine "language" record.language (by decide +kernel)
  have hname := run_fieldLine "name" record.name (by decide +kernel)
  have hentryPoint := run_fieldLine "entry_point" record.entryPoint (by decide +kernel)
  have hbindings : run .code "                raw_bindings: vec![\n".toList =
      some ([.word "raw_bindings", .mark ':', .word "vec", .mark '!', .mark '['], .code) := by
    decide +kernel
  have hitems := run_join run_itemLine record.rawBindings
  have hbindingsEnd : run .code "                ],\n".toList =
      some ([.mark ']', .mark ','], .code) := by
    decide +kernel
  have hscriptFile := run_fieldLine "script_file" record.scriptFile (by decide +kernel)
  have hclose : run .code "            \x7d,\n".toList =
      some ([.mark '\x7d', .mark ','], .code) := by
    decide +kernel
  have hfields := run_append (run_append (run_append hfunctionId hlanguage) hname) hentryPoint
  have hlist := run_append (run_append hbindings hitems) hbindingsEnd
  have hrecord := run_append (run_append (run_append (run_append hopen hfields) hlist) hscriptFile)
    hclose
  unfold FunctionRecord.moduleText
  simp only [String.toList_append, FunctionRecord.tokens, FunctionRecord.bodyTokens,
    List.append_assoc] at hrecord ⊢
  exact hrecord

/-- The list of records that a module holds is scanned as its tokens. -/
theorem run_moduleRecords (records : List FunctionRecord) :
    run .code (moduleRecords records).toList = some (listTokens records, .code) := by
  cases records with
  | nil => decide +kernel
  | cons record records =>
      have hopen : run .code "        Ok(vec![\n".toList =
          some ([.word "Ok", .mark '(', .word "vec", .mark '!', .mark '['], .code) := by
        decide +kernel
      have hclose : run .code "        ])\n".toList = some ([.mark ']', .mark ')'], .code) := by
        decide +kernel
      have hlist := run_append (run_append hopen (run_join run_moduleText (record :: records)))
        hclose
      unfold moduleRecords
      rw [if_neg (by simp), String.toList_append, String.toList_append]
      exact hlist

/-- A text that can be scanned on its own, without an entry in it. -/
theorem exists_run_of_any {text : String}
    (h : (run .code text.toList).any (fun found ↦ found.2 == .code && noEntry found.1) = true) :
    ∃ tokens, run .code text.toList = some (tokens, .code) ∧ noEntry tokens = true := by
  cases hrun : run .code text.toList with
  | none => simp [hrun] at h
  | some found =>
      obtain ⟨tokens, mode⟩ := found
      rw [hrun, Option.any_some, Bool.and_eq_true, beq_iff_eq] at h
      obtain ⟨rfl, hskip⟩ := h
      exact ⟨tokens, rfl, hskip⟩

/-- The head of a module can be scanned on its own, without an entry in it. -/
theorem exists_run_moduleHead :
    ∃ tokens, run .code moduleHead.toList = some (tokens, .code) ∧ noEntry tokens = true := by
  refine exists_run_of_any ?_
  -- The characters are evaluated piece by piece; all of the text at once takes much longer.
  unfold moduleHead
  simp only [String.toList_append]
  decide +kernel

/-- The tail of a module can be scanned on its own, without an entry in it. -/
theorem exists_run_moduleTail :
    ∃ tokens, run .code moduleTail.toList = some (tokens, .code) ∧ noEntry tokens = true := by
  refine exists_run_of_any ?_
  unfold moduleTail
  simp only [String.toList_append]
  decide +kernel

end Scanning

section Reading

/-- Expected tokens are passed over. -/
theorem expect?_append (expected rest : List Token) :
    expect? expected (expected ++ rest) = some rest := by
  rw [expect?, if_pos (List.prefix_append expected rest), List.drop_left]

/-- An owned string is read. -/
theorem readOwned?_append (text : String) (rest : List Token) :
    readOwned? (ownedTokens text ++ rest) = some (text, rest) := by
  rw [ownedTokens, List.cons_append, readOwned?, expect?_append, Option.map_some]

/-- A field is read. -/
theorem readField?_append (field text : String) (rest : List Token) :
    readField? field (fieldTokens field text ++ rest) = some (text, rest) := by
  rw [readField?, fieldTokens, List.append_assoc, expect?_append, Option.bind_some,
    readOwned?_append]

/-- The items of a list are read. -/
theorem readItems?_append (items : List String) (rest : List Token) :
    readItems? (items.flatMap ownedTokens ++ ([.mark ']', .mark ','] ++ rest)) =
      some (items, rest) := by
  induction items with
  | nil =>
      have hnone : readOwned? ([.mark ']', .mark ','] ++ rest) = none := rfl
      rw [List.flatMap_nil, List.nil_append, readItems?]
      split
      · rename_i heq
        rw [hnone] at heq
        cases heq
      · rw [expect?_append, Option.map_some]
  | cons item items ih =>
      have hitem := readOwned?_append item
        (items.flatMap ownedTokens ++ ([.mark ']', .mark ','] ++ rest))
      rw [List.flatMap_cons, List.append_assoc, readItems?]
      split
      · rename_i heq
        rw [hitem, Option.some.injEq, Prod.mk.injEq] at heq
        obtain ⟨rfl, rfl⟩ := heq
        rw [ih, Option.map_some]
      · rename_i heq
        rw [hitem] at heq
        cases heq

/-- An entry is read. -/
theorem readRecord?_append (record : FunctionRecord) (rest : List Token) :
    readRecord? (record.tokens ++ rest) = some (record, rest) := by
  simp only [readRecord?, FunctionRecord.tokens, FunctionRecord.bodyTokens, List.append_assoc,
    expect?_append, readField?_append, readItems?_append, Option.bind_eq_bind, Option.bind_some,
    Option.pure_def]

/-- Whether an entry begins shows in two tokens. -/
theorem startsEntry_cons_cons (token next : Token) (rest : List Token) :
    startsEntry (token :: next :: rest) = startsEntry [token, next] := by
  cases token <;> cases next <;> rfl

/-- No entry begins at a token that is not its word. -/
theorem startsEntry_of_ne {token : Token} (h : token ≠ .word entryName) (rest : List Token) :
    startsEntry (token :: rest) = false := by
  unfold startsEntry
  split
  · rename_i name c _ heq
    rw [List.cons.injEq] at heq
    obtain ⟨rfl, -⟩ := heq
    have hname : name ≠ entryName := fun hname ↦ h (hname ▸ rfl)
    simp [hname]
  · rfl

/-- No entry begins in tokens without its word. -/
theorem noEntry_of_notMem {tokens : List Token} (h : .word entryName ∉ tokens) :
    noEntry tokens = true := by
  fun_induction noEntry tokens with
  | case1 => rfl
  | case2 token =>
      rw [bne_iff_ne]
      exact fun htoken ↦ h (List.mem_singleton.2 htoken.symm)
  | case3 token next rest ih =>
      rw [List.mem_cons, not_or] at h
      rw [ih h.2, startsEntry_of_ne (Ne.symm h.1)]
      rfl

/-- Tokens in which no entry begins are passed over. -/
theorem readEntries?_append {skipped : List Token} (h : noEntry skipped = true)
    (rest : List Token) : readEntries? (skipped ++ rest) = readEntries? rest := by
  fun_induction noEntry skipped with
  | case1 => rfl
  | case2 token =>
      have hstart := startsEntry_of_ne (by simpa using h) rest
      rw [List.singleton_append, readEntries?, hstart, if_neg Bool.false_ne_true]
  | case3 token next skipped ih =>
      rw [Bool.and_eq_true, Bool.not_eq_true'] at h
      have hstart : startsEntry (token :: next :: (skipped ++ rest)) = false := by
        rw [startsEntry_cons_cons, h.1]
      rw [List.cons_append, List.cons_append, readEntries?, hstart, if_neg Bool.false_ne_true]
      exact ih h.2

/-- An entry is read, and what follows it. -/
theorem readEntries?_record (record : FunctionRecord) (rest : List Token) :
    readEntries? (record.tokens ++ rest) = (readEntries? rest).map (record :: ·) := by
  have hentry := readRecord?_append record rest
  -- Reading goes on behind the first token, so the rest of the record has to be passed over.
  have hbody : noEntry (.mark '\x7b' :: record.bodyTokens) = true := by
    refine noEntry_of_notMem ?_
    simp [FunctionRecord.bodyTokens, fieldTokens, ownedTokens, ownedEnd, entryName]
  have htokens : record.tokens ++ rest =
      .word entryName :: ((.mark '\x7b' :: record.bodyTokens) ++ rest) := rfl
  rw [htokens] at hentry ⊢
  rw [readEntries?, if_pos (by rfl), hentry, readEntries?_append hbody]
  cases readEntries? rest <;> rfl

/-- The entries of records are read, one by one. -/
theorem readEntries?_records (records : List FunctionRecord) (rest : List Token) :
    readEntries? (records.flatMap (·.tokens) ++ rest) = (readEntries? rest).map (records ++ ·) := by
  induction records with
  | nil => simp
  | cons record records ih =>
      rw [List.flatMap_cons, List.append_assoc, readEntries?_record, ih, Option.map_map]
      rfl

/-- The entries of the list that a module holds are its records. -/
theorem readEntries?_listTokens (records : List FunctionRecord) (rest : List Token) :
    readEntries? (listTokens records ++ rest) = (readEntries? rest).map (records ++ ·) := by
  cases records with
  | nil =>
      rw [listTokens, if_pos List.isEmpty_nil, readEntries?_append (by decide)]
      simp
  | cons record records =>
      rw [listTokens, if_neg (by simp), List.append_assoc, List.append_assoc,
        readEntries?_append (by decide), readEntries?_records, readEntries?_append (by decide)]

end Reading

/-- A module is read as its records. Its tokens are those of a fixed head and a fixed tail with
those of the records between them, where each text is one literal that decodes to it; its entries
give back the records, in order, with every field and every raw binding; and no other records have
the same module. -/
theorem providerModule_embeds (records : List FunctionRecord) :
    (∃ head tail, tokens? moduleHead = some head ∧ tokens? moduleTail = some tail ∧
      tokens? (providerModule records) = some (head ++ listTokens records ++ tail)) ∧
    readRecords? (providerModule records) = some records ∧
    ∀ others, providerModule records = providerModule others ↔ records = others := by
  obtain ⟨head, hhead, hskipHead⟩ := exists_run_moduleHead
  obtain ⟨tail, htail, hskipTail⟩ := exists_run_moduleTail
  -- Head and tail hold nothing of the records, so what they are scanned as is the same for all.
  have htokens (records : List FunctionRecord) :
      tokens? (providerModule records) = some (head ++ listTokens records ++ tail) := by
    refine tokens?_of_run ?_
    unfold providerModule
    rw [String.toList_append, String.toList_append]
    exact run_append (run_append hhead (run_moduleRecords records)) htail
  have hread (records : List FunctionRecord) :
      readRecords? (providerModule records) = some records := by
    have hend : readEntries? tail = some [] := by
      rw [← List.append_nil tail, readEntries?_append hskipTail, readEntries?]
    rw [readRecords?, htokens, Option.bind_some, List.append_assoc, readEntries?_append hskipHead,
      readEntries?_listTokens, hend, Option.map_some, List.append_nil]
  refine ⟨⟨head, tail, tokens?_of_run hhead, tokens?_of_run htail, htokens records⟩,
    hread records, fun others ↦ ⟨fun hsame ↦ ?_, fun hsame ↦ hsame ▸ rfl⟩⟩
  have hothers := hread others
  rw [← hsame, hread records, Option.some.injEq] at hothers
  exact hothers

end FunctionBindings
