import FunctionBindings.Json.Reader
import FunctionBindings.Proofs.Json.Continuation

/-!
# Texts that are cut off

A text that ends in the bracket of an array cannot be shortened to the text of another list. If what
is left read as a list, its document would be an array that is closed, and its last token would be
punctuation. Then all that was cut away would follow that array, where only blanks may stand, but
the bracket was cut away too. Main statement: `exists_fault_of_prefix`.
-/

namespace FunctionBindings.Json

/-- True of the end of an array or object whose text goes up to its closing delimiter. -/
def Ending.IsClosed : Ending → Prop
  | .closed => True
  | _ => False

/-- True of a document that its text does not break off. -/
def Doc.IsClosed : Doc → Prop
  | .broken _ _ | .brokenScalar _ _ => False
  | .array _ _ ending | .object _ _ ending => ending.IsClosed
  | _ => True

/-- What is open around a document that breaks off breaks off too. -/
theorem not_isClosed_enclose {doc : Doc} (h : ¬ doc.IsClosed) (outer : List Frame) :
    ¬ (enclose doc outer).IsClosed := by
  induction outer generalizing doc with
  | nil => exact h
  | cons frame outer ih =>
      cases frame with
      | array items => exact ih id
      | member members key => exact ih id

/-- True of a state in which a text that has stopped being JSON has a document that breaks off. -/
def State.IsSound : State → Prop
  | .stopped doc => ¬ doc.IsClosed
  | _ => True

/-- The state after a complete value is sound. -/
theorem isSound_put (doc : Doc) (outer : List Frame) : (State.put doc outer).IsSound := by
  cases outer with
  | nil => trivial
  | cons frame outer => cases frame <;> trivial

/-- The state after a token where a value is due is sound. -/
theorem isSound_ofValue (outer : List Frame) (token : Token) :
    (State.ofValue outer token).IsSound := by
  cases token with
  | openArray | openObject => trivial
  | text key => exact isSound_put _ _
  | scalar doc => exact isSound_put _ _
  | _ => exact not_isClosed_enclose id outer

/-- The state after a token where a key is due is sound. -/
theorem isSound_ofKey (members : List (Key × Doc)) (outer : List Frame) (token : Token) :
    (State.ofKey members outer token).IsSound := by
  cases token with
  | text key => trivial
  | _ => exact not_isClosed_enclose id outer

/-- A sound state is followed by a sound state. -/
theorem isSound_step {state : State} (h : state.IsSound) (token : Token) :
    (state.step token).IsSound := by
  unfold State.step
  split
  all_goals first
    | exact isSound_put _ _
    | exact isSound_ofValue _ _
    | exact isSound_ofKey _ _ _
    | exact not_isClosed_enclose id _
    | trivial

/-- The state after any tokens is sound. -/
theorem isSound_foldl_step {state : State} (h : state.IsSound) (later : List Token) :
    (later.foldl State.step state).IsSound := by
  induction later generalizing state with
  | nil => exact h
  | cons token later ih => exact ih (isSound_step h token)

/-- A text that does not break off ends in the state of its complete value. -/
theorem eq_complete_of_finish {state : State} {doc : Doc} (hsound : state.IsSound)
    (hfinish : state.finish = ⟨doc, false⟩) (hclosed : doc.IsClosed) : state = .complete doc := by
  cases state with
  | complete found =>
      cases hfinish
      rfl
  | trailing found => cases hfinish
  | stopped found =>
      cases hfinish
      exact absurd hclosed hsound
  | _ =>
      cases hfinish
      exact absurd hclosed (not_isClosed_enclose id _)

/-- True of a token that is no whole array. -/
def Token.IsFlat : Token → Prop
  | .scalar (.array _ _ _) => False
  | _ => True

/-- No token of a text is a whole array. -/
theorem isFlat_of_mem_tokens {text : List Char} : ∀ token ∈ tokens text, token.IsFlat := by
  intro token htoken
  cases token with
  | scalar doc =>
      obtain rfl | ⟨value, rfl⟩ | rfl | ⟨numeral, value, -, rfl⟩ := scalar_of_mem_tokens htoken <;>
        trivial
  | _ => trivial

/-- No token of a text completes an array where a value is due. -/
theorem ofValue_ne_complete_array {outer : List Frame} {token : Token} {deep : Bool}
    {items : List Doc} {ending : Ending} (hflat : token.IsFlat) :
    State.ofValue outer token ≠ .complete (.array deep items ending) := by
  intro h
  cases token with
  | text key =>
      cases outer with
      | nil => cases key <;> cases h
      | cons frame outer => cases frame <;> cases h
  | scalar doc =>
      cases outer with
      | nil =>
          cases h
          exact hflat
      | cons frame outer => cases frame <;> cases h
  | _ => cases h

/-- No token completes anything where a key is due. -/
theorem ofKey_ne_complete {members : List (Key × Doc)} {outer : List Frame} {token : Token}
    {doc : Doc} : State.ofKey members outer token ≠ .complete doc := by
  cases token <;> nofun

/-- A token of a text that completes an array is punctuation. -/
theorem isPunctuation_of_step {state : State} {token : Token} {deep : Bool} {items : List Doc}
    {ending : Ending} (hflat : token.IsFlat)
    (h : state.step token = .complete (.array deep items ending)) : token.IsPunctuation := by
  unfold State.step at h
  split at h
  all_goals first
    | trivial
    | exact absurd h (ofValue_ne_complete_array hflat)
    | exact absurd h ofKey_ne_complete

/-- Tokens behind a complete value do not change it, but are noticed. -/
theorem foldl_step_complete (doc : Doc) (later : List Token) :
    (later.foldl State.step (.complete doc)).finish = ⟨doc, !later.isEmpty⟩ := by
  have htrailing : ∀ more : List Token,
      more.foldl State.step (.trailing doc) = .trailing doc := by
    intro more
    induction more with
    | nil => rfl
    | cons token more ih => exact ih
  cases later with
  | nil => rfl
  | cons token more =>
      rw [List.foldl_cons, State.step, htrailing]
      rfl

/-- The tokens of a text with a closed array as its document take the reader to the complete array,
and the last of them is punctuation. -/
theorem complete_of_ofText {text : String} {deep : Bool} {items : List Doc}
    (h : Document.ofText text = ⟨.array deep items .closed, false⟩) :
    (tokens text.toList).foldl State.step (.value []) = .complete (.array deep items .closed) ∧
      EndsInPunctuation (tokens text.toList) := by
  have hstart : (State.value []).IsSound := trivial
  have hsound := isSound_foldl_step hstart (tokens text.toList)
  have hcomplete := eq_complete_of_finish hsound h trivial
  refine ⟨hcomplete, ?_⟩
  intro last hlast
  obtain ⟨before, htokens⟩ := List.getLast?_eq_some_iff.1 (Option.mem_def.1 hlast)
  have hflat := isFlat_of_mem_tokens last (by rw [htokens]; simp)
  rw [htokens, List.foldl_append] at hcomplete
  exact isPunctuation_of_step hflat hcomplete

/-- What stands behind a closed array is noticed, unless there are no tokens in it. -/
theorem ofText_append {text : String} {deep : Bool} {items : List Doc}
    (h : Document.ofText text = ⟨.array deep items .closed, false⟩) (more : List Char) :
    Document.ofText (String.ofList (text.toList ++ more)) =
      ⟨.array deep items .closed, !(tokens more).isEmpty⟩ := by
  obtain ⟨hcomplete, hends⟩ := complete_of_ofText h
  rw [Document.ofText, Document.ofTokens, String.toList_ofList, tokens_append hends,
    List.foldl_append, hcomplete, foldl_step_complete]

/-- A text without tokens is blank. -/
theorem isSpace_of_tokens_eq_nil {text : List Char} (h : tokens text = []) :
    ∀ c ∈ text, isSpace c = true := by
  fun_induction tokens text with
  | case1 => exact List.forall_mem_nil _
  | case2 c rest hspace ih => exact List.forall_mem_cons.2 ⟨hspace, ih h⟩
  | _ => cases h

/-- A reading that goes on with another one succeeds only if both do. -/
theorem exists_of_bind_eq_ok {ε α β : Type} {first : Except ε α} {next : α → Except ε β} {value : β}
    (h : first >>= next = .ok value) : ∃ found, first = .ok found ∧ next found = .ok value := by
  cases first with
  | error fault => cases h
  | ok found => exact ⟨found, rfl, h⟩

/-- A whole text is read if its document is, and nothing follows its value. -/
theorem Document.readWith_eq_ok_iff {α : Type} {read : Doc → Except Fault α} {document : Document}
    {value : α} :
    document.readWith read = .ok value ↔
      read document.doc = .ok value ∧ document.trailing = false := by
  cases document with
  | mk doc trailing =>
      show (read doc >>= _) = .ok value ↔ read doc = .ok value ∧ trailing = false
      cases read doc <;> cases trailing <;> simp [bind, Except.bind, pure, Except.pure, refuse]

/-- A document that is not of the kind that is wanted is refused. -/
theorem mismatch_ne_ok {α : Type} (doc : Doc) (expected : String) (value : α) :
    doc.mismatch expected ≠ .ok value := by
  intro h
  obtain ⟨found, -, hrefused⟩ := exists_of_bind_eq_ok h
  cases hrefused

/-- A document that is read as a list is a closed array. -/
theorem eq_array_of_readList {α : Type} {read : Reader α} {source : Source} {doc : Doc}
    {values : List α} (h : readList read source doc = .ok values) :
    ∃ deep items, doc = .array deep items .closed := by
  cases doc with
  | array deep items ending =>
      obtain ⟨_, -, h⟩ := exists_of_bind_eq_ok h
      obtain ⟨found, -, h⟩ := exists_of_bind_eq_ok h
      obtain ⟨_, hending, -⟩ := exists_of_bind_eq_ok h
      cases ending with
      | closed => exact ⟨deep, items, rfl⟩
      | _ => cases hending
  | _ => exact absurd h (mismatch_ne_ok _ _ _)

/-- A text that is read as a list is a closed array with nothing behind it. -/
theorem ofText_eq_array_of_readList {α : Type} {read : Reader α} {text : String} {values : List α}
    (h : (readList read).ofText text = .ok values) :
    ∃ deep items, Document.ofText text = ⟨.array deep items .closed, false⟩ := by
  obtain ⟨hread, htrailing⟩ := Document.readWith_eq_ok_iff.1 h
  obtain ⟨deep, items, hdoc⟩ := eq_array_of_readList hread
  refine ⟨deep, items, ?_⟩
  rw [← hdoc, ← htrailing]

/-- A text that ends in the bracket of an array, with nothing behind its value, is refused as a list
once it is cut off before that bracket. -/
theorem exists_fault_of_prefix {α : Type} (read : Reader α) {cut text : String}
    (htext : (Document.ofText text).trailing = false) (hlast : text.toList.getLast? = some ']')
    (hcut : cut.toList <+: text.toList) (hne : cut ≠ text) :
    ∃ fault, (readList read).ofText cut = .error fault := by
  cases hread : (readList read).ofText cut with
  | error fault => exact ⟨fault, rfl⟩
  | ok values =>
      exfalso
      obtain ⟨more, hmore⟩ := hcut
      -- The bracket at the end of the text is cut away.
      have hbracket : ']' ∈ more := by
        cases hend : more.getLast? with
        | none =>
            rw [List.getLast?_eq_none_iff.1 hend, List.append_nil] at hmore
            exact absurd (String.toList_inj.1 hmore) hne
        | some last =>
            rw [← hmore, List.getLast?_append, hend, Option.some_or] at hlast
            rw [← Option.some.inj hlast]
            exact List.mem_of_getLast? hend
      -- The text up to the cut is a closed array, so what is cut away stands behind it.
      obtain ⟨deep, items, hdocument⟩ := ofText_eq_array_of_readList hread
      have hall := ofText_append hdocument more
      rw [hmore, String.ofList_toList] at hall
      rw [hall] at htext
      have hblank := isSpace_of_tokens_eq_nil (by simpa using htext) ']' hbracket
      cases hblank

/-- The last character behind the items of an array is its bracket. -/
theorem getLast?_compactItems (items : List Json) :
    (compactItems items).getLast? = some ']' := by
  induction items with
  | nil => rfl
  | cons item items ih => simp [compactItems, List.getLast?_cons, List.getLast?_append, ih]

/-- The last character behind the items of an array in pretty form is its bracket. -/
theorem getLast?_prettyItems (items : List Json) (level : Nat) :
    (prettyItems items level).getLast? = some ']' := by
  induction items with
  | nil => simp [prettyItems, List.getLast?_append]
  | cons item items ih => simp [prettyItems, List.getLast?_cons, List.getLast?_append, ih]

/-- The last character of the text of an array is its bracket. -/
theorem getLast?_compactText (items : List Json) :
    (Json.array items).compactText.toList.getLast? = some ']' := by
  rw [compactText, String.toList_ofList]
  cases items with
  | nil => rfl
  | cons item items =>
      simp [compact, List.getLast?_cons, List.getLast?_append, getLast?_compactItems]

/-- The last character of the pretty text of an array is its bracket. -/
theorem getLast?_prettyText (items : List Json) :
    (Json.array items).prettyText.toList.getLast? = some ']' := by
  rw [prettyText, String.toList_ofList]
  cases items with
  | nil => rfl
  | cons item items =>
      simp [prettyAt, newline, List.getLast?_cons, List.getLast?_append, getLast?_prettyItems]

end FunctionBindings.Json
