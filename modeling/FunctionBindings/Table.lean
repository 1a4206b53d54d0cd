/-!
# Insertion-ordered tables

A table maps each key to one value and keeps its keys in the order in which they were first entered.
Entering a key again replaces the value and keeps the place. The operations are defined on lists of
entries, where `Entries.keys_set` says what entering does to the keys and `Entries.get?_set` what it
does to a lookup; `Table` packs such a list with the fact that no key repeats.
-/

namespace FunctionBindings

namespace Entries

variable {κ α : Type} [DecidableEq κ]

/-- The keys of a list of entries, in order. -/
def keys (entries : List (κ × α)) : List κ :=
  entries.map Prod.fst

/-- The value entered for a key. -/
def get? (key : κ) : List (κ × α) → Option α
  | [] => none
  | (k, a) :: rest => if k = key then some a else get? key rest

/-- Enter a value for a key: in the key's place if it has one, at the end otherwise. -/
def set (key : κ) (value : α) : List (κ × α) → List (κ × α)
  | [] => [(key, value)]
  | (k, a) :: rest => if k = key then (key, value) :: rest else (k, a) :: set key value rest

/-- Enter all entries of a list in order. -/
def ofList (entries : List (κ × α)) : List (κ × α) :=
  entries.foldl (fun acc e ↦ set e.1 e.2 acc) []

/-- A key is found exactly when it is among the keys. -/
theorem get?_eq_none_iff (key : κ) (entries : List (κ × α)) :
    get? key entries = none ↔ key ∉ keys entries := by
  induction entries with
  | nil => simp [get?, keys]
  | cons e rest ih =>
      obtain ⟨k, a⟩ := e
      by_cases h : k = key
      · simp [get?, keys, h]
      · simpa [get?, keys, h, Ne.symm h, eq_comm] using ih

/-- Entering a key adds it at the end of the keys unless it is already there. -/
theorem keys_set (key : κ) (value : α) (entries : List (κ × α)) :
    keys (set key value entries) =
      if key ∈ keys entries then keys entries else keys entries ++ [key] := by
  induction entries with
  | nil => simp [set, keys]
  | cons e rest ih =>
      obtain ⟨k, a⟩ := e
      by_cases h : k = key
      · simp [set, keys, h]
      · simp only [keys] at ih
        simp only [set, keys, h, if_false, List.map_cons, ih, List.mem_cons, Ne.symm h, false_or]
        by_cases hm : key ∈ rest.map Prod.fst <;> simp [hm]

/-- A lookup after entering a key finds the new value at that key and the old ones elsewhere. -/
theorem get?_set (key other : κ) (value : α) (entries : List (κ × α)) :
    get? other (set key value entries) =
      if key = other then some value else get? other entries := by
  induction entries with
  | nil => simp [set, get?]
  | cons e rest ih =>
      obtain ⟨k, a⟩ := e
      by_cases h : k = key
      · subst h
        by_cases ho : k = other <;> simp [set, get?, ho]
      · by_cases ho : k = other
        · subst ho
          simp [set, get?, h, Ne.symm h]
        · simp [set, get?, h, ho, ih]

/-- Entering a key keeps the keys free of repetition. -/
theorem nodup_keys_set (key : κ) (value : α) {entries : List (κ × α)}
    (h : (keys entries).Nodup) : (keys (set key value entries)).Nodup := by
  rw [keys_set]
  split
  · exact h
  · rename_i hmem
    rw [List.nodup_append]
    refine ⟨h, by simp, ?_⟩
    intro a ha b hb
    have hb' : b = key := by simpa using hb
    rintro rfl
    exact hmem (hb' ▸ ha)

/-- After entering a key, an entry is the new one or was there before. -/
theorem mem_of_mem_set {key : κ} {value : α} {entries : List (κ × α)} {e : κ × α}
    (h : e ∈ set key value entries) : e = (key, value) ∨ e ∈ entries := by
  induction entries with
  | nil => exact .inl (List.mem_singleton.1 h)
  | cons first rest ih =>
      unfold set at h
      split at h
      · rcases List.mem_cons.1 h with hnew | hrest
        · exact .inl hnew
        · exact .inr (List.mem_cons_of_mem first hrest)
      · rcases List.mem_cons.1 h with hfirst | hrest
        · exact .inr (hfirst ▸ List.mem_cons_self)
        · exact (ih hrest).imp_right (List.mem_cons_of_mem first)

/-- If no key repeats, a lookup finds every entry. -/
theorem get?_of_mem {key : κ} {value : α} {entries : List (κ × α)} (hkeys : (keys entries).Nodup)
    (h : (key, value) ∈ entries) : get? key entries = some value := by
  induction entries with
  | nil => cases h
  | cons first rest ih =>
      obtain ⟨k, a⟩ := first
      obtain ⟨hfirst, hrest⟩ := List.nodup_cons.1 hkeys
      rcases List.mem_cons.1 h with hnew | hlater
      · cases hnew
        simp [get?]
      · have hne : k ≠ key := by
          rintro rfl
          exact hfirst (List.mem_map.2 ⟨(k, value), hlater, rfl⟩)
        simp [get?, hne, ih hrest hlater]

/-- A key that is not there yet is entered at the end. -/
theorem set_of_notMem (key : κ) (value : α) {entries : List (κ × α)} (h : key ∉ keys entries) :
    set key value entries = entries ++ [(key, value)] := by
  induction entries with
  | nil => rfl
  | cons e rest ih =>
      obtain ⟨k, a⟩ := e
      simp only [keys, List.map_cons, List.mem_cons, not_or] at h
      simp [set, Ne.symm h.1, ih h.2]

/-- Entering further entries with new keys appends them. -/
theorem foldl_set_of_nodup {entries done : List (κ × α)} (h : (keys (done ++ entries)).Nodup) :
    entries.foldl (fun acc e ↦ set e.1 e.2 acc) done = done ++ entries := by
  induction entries generalizing done with
  | nil => simp
  | cons e rest ih =>
      have hnew : e.1 ∉ keys done := by
        simp only [keys, List.map_append, List.map_cons, List.nodup_append] at h
        intro hmem
        exact h.2.2 e.1 hmem e.1 (by simp) rfl
      have happend : done ++ e :: rest = (done ++ [e]) ++ rest := by simp
      rw [happend] at h
      rw [List.foldl_cons, set_of_notMem e.1 e.2 hnew, ih h, happend]

/-- Entries without a repeated key are kept as they are. -/
theorem ofList_of_nodup {entries : List (κ × α)} (h : (keys entries).Nodup) :
    ofList entries = entries := by
  have hkeys : (keys ([] ++ entries)).Nodup := h
  exact foldl_set_of_nodup hkeys

end Entries

/-- Entries in the order in which their keys were first entered, no key twice. -/
structure Table (κ α : Type) [DecidableEq κ] where
  entries : List (κ × α)
  nodup_keys : (Entries.keys entries).Nodup

namespace Table

variable {κ α : Type} [DecidableEq κ]

/-- The table without entries. -/
def empty : Table κ α := ⟨[], List.nodup_nil⟩

instance : EmptyCollection (Table κ α) := ⟨empty⟩

instance : Inhabited (Table κ α) := ⟨empty⟩

instance [DecidableEq α] : DecidableEq (Table κ α) := fun s t ↦
  decidable_of_iff (s.entries = t.entries) (by cases s; cases t; simp)

/-- The keys, in the order in which they were first entered. -/
def keys (t : Table κ α) : List κ := Entries.keys t.entries

/-- The number of keys. -/
def size (t : Table κ α) : Nat := t.entries.length

/-- True of the table without entries. -/
def isEmpty (t : Table κ α) : Bool := t.entries.isEmpty

/-- The value entered for a key. -/
def get? (t : Table κ α) (key : κ) : Option α := Entries.get? key t.entries

/-- True of a key that has been entered. -/
def contains (t : Table κ α) (key : κ) : Bool := (t.get? key).isSome

/-- Enter a value for a key; a key that is already there keeps its place. -/
def insert (t : Table κ α) (key : κ) (value : α) : Table κ α :=
  ⟨Entries.set key value t.entries, Entries.nodup_keys_set key value t.nodup_keys⟩

/-- The table of a list of entries, entered in order. -/
def ofList (entries : List (κ × α)) : Table κ α :=
  entries.foldl (fun t e ↦ t.insert e.1 e.2) empty

/-- A lookup after entering a key finds the new value at that key and the old ones elsewhere. -/
theorem get?_insert (t : Table κ α) (key other : κ) (value : α) :
    (t.insert key value).get? other = if key = other then some value else t.get? other :=
  Entries.get?_set key other value t.entries

/-- A table has no entries but those of the list that it was made of. -/
theorem mem_of_mem_entries_ofList {entries : List (κ × α)} {e : κ × α}
    (h : e ∈ (ofList entries).entries) : e ∈ entries := by
  have hfold : ∀ (later : List (κ × α)) (t : Table κ α),
      e ∈ (later.foldl (fun t e ↦ t.insert e.1 e.2) t).entries → e ∈ t.entries ∨ e ∈ later := by
    intro later
    induction later with
    | nil => exact fun t hmem ↦ .inl hmem
    | cons next later ih =>
        intro t hmem
        rcases ih (t.insert next.1 next.2) hmem with hinserted | hlater
        · rcases Entries.mem_of_mem_set hinserted with hnext | hold
          · exact .inr (hnext ▸ List.mem_cons_self)
          · exact .inl hold
        · exact .inr (List.mem_cons_of_mem next hlater)
  rcases hfold entries empty h with hnone | hmem
  · cases hnone
  · exact hmem

end Table

end FunctionBindings
