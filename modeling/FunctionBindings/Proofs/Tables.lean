import FunctionBindings.Table
import Mathlib.Data.List.Induction

/-!
# Tables made of lists

What entering the entries of a list one after the other comes to: the keys are those of the list,
each once, in the order in which they come first (`Table.keys_ofList`), and a key has the value with
which it comes last (`Table.get?_ofList_eq_some_iff`, `Entries.mem_ofList_iff`).
-/

namespace FunctionBindings

variable {κ α : Type} [DecidableEq κ]

/-- The entries of a table that is made of a list are those that entering leaves. -/
theorem Table.entries_ofList (entries : List (κ × α)) :
    (ofList entries).entries = Entries.ofList entries := by
  induction entries using List.reverseRecOn with
  | nil => rfl
  | append_singleton entries e ih =>
      rw [ofList, Entries.ofList, List.foldl_append, List.foldl_append, ← ofList,
        ← Entries.ofList, ← ih]
      rfl

namespace Entries

/-- No key repeats after entries have been entered. -/
theorem nodup_keys_ofList (entries : List (κ × α)) : (keys (ofList entries)).Nodup := by
  rw [← Table.entries_ofList]
  exact (Table.ofList entries).nodup_keys

/-- What has been entered are entries of the list. -/
theorem mem_of_mem_ofList {entries : List (κ × α)} {e : κ × α} (h : e ∈ ofList entries) :
    e ∈ entries := by
  rw [← Table.entries_ofList] at h
  exact Table.mem_of_mem_entries_ofList h

end Entries

namespace Table

/-- One more entry at the end of the list is entered last. -/
theorem ofList_append_singleton (entries : List (κ × α)) (e : κ × α) :
    ofList (entries ++ [e]) = (ofList entries).insert e.1 e.2 := by
  rw [ofList, List.foldl_append]
  rfl

/-- A lookup finds the last entry of a key. -/
theorem get?_ofList (entries : List (κ × α)) (key : κ) :
    (ofList entries).get? key = (entries.reverse.find? (·.1 = key)).map Prod.snd := by
  induction entries using List.reverseRecOn with
  | nil => rfl
  | append_singleton entries e ih =>
      rw [ofList_append_singleton, get?_insert, ih, List.reverse_append, List.reverse_singleton,
        List.singleton_append, List.find?_cons]
      by_cases hkey : e.1 = key <;> simp [hkey]

/-- A key has the value with which it comes last. -/
theorem get?_ofList_eq_some_iff {entries : List (κ × α)} {key : κ} {value : α} :
    (ofList entries).get? key = some value ↔
      ∃ earlier later, entries = earlier ++ (key, value) :: later ∧ key ∉ Entries.keys later := by
  rw [get?_ofList, Option.map_eq_some_iff]
  simp only [List.find?_eq_some_iff_append, List.reverse_eq_iff, Entries.keys, List.mem_map]
  constructor
  · rintro ⟨⟨k, a⟩, ⟨hkey, later, earlier, rfl, hlater⟩, rfl⟩
    obtain rfl : k = key := by simpa using hkey
    refine ⟨earlier.reverse, later.reverse, by simp, ?_⟩
    rintro ⟨e, he, rfl⟩
    simpa using hlater e (List.mem_reverse.1 he)
  · rintro ⟨earlier, later, rfl, hlater⟩
    refine ⟨(key, value), ⟨by simp, later.reverse, earlier.reverse, by simp, ?_⟩, rfl⟩
    intro e he
    simpa using fun hkey ↦ hlater ⟨e, List.mem_reverse.1 he, hkey⟩

end Table

namespace Entries

/-- What a lookup finds is an entry. -/
theorem mem_of_get?_eq_some {entries : List (κ × α)} {key : κ} {value : α}
    (h : get? key entries = some value) : (key, value) ∈ entries := by
  induction entries with
  | nil => cases h
  | cons first rest ih =>
      unfold get? at h
      split at h
      · rename_i hkey
        cases h
        exact hkey ▸ List.mem_cons_self
      · exact List.mem_cons_of_mem first (ih h)

/-- What has been entered are the last entries of their keys. -/
theorem mem_ofList_iff {entries : List (κ × α)} {key : κ} {value : α} :
    (key, value) ∈ ofList entries ↔
      ∃ earlier later, entries = earlier ++ (key, value) :: later ∧ key ∉ keys later := by
  rw [← Table.get?_ofList_eq_some_iff, Table.get?, Table.entries_ofList]
  exact ⟨get?_of_mem (nodup_keys_ofList entries), mem_of_get?_eq_some⟩

/-- An entry whose key comes once among its own and is not entered again is kept. -/
theorem mem_ofList_append {entries later : List (κ × α)} {key : κ} {value : α}
    (earlier : List (κ × α)) (hkeys : (keys entries).Nodup) (h : (key, value) ∈ entries)
    (hlater : key ∉ keys later) : (key, value) ∈ ofList (earlier ++ entries ++ later) := by
  obtain ⟨before, after, rfl⟩ := List.append_of_mem h
  rw [keys, List.map_append, List.map_cons, List.nodup_append, List.nodup_cons] at hkeys
  refine mem_ofList_iff.2 ⟨earlier ++ before, after ++ later, by simp, ?_⟩
  rw [keys, List.map_append, List.mem_append]
  exact fun hmem ↦ hmem.elim hkeys.2.1.1 hlater

end Entries

end FunctionBindings
