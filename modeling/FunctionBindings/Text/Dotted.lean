/-!
# Dotted names

Names of types and attributes are paths of segments separated by dots. This module takes the last
segment of a path and cuts known endings off it.
-/

namespace FunctionBindings.Text

/-- The characters after the last dot, or all of them. -/
def lastSegmentChars (cs : List Char) : List Char :=
  (cs.reverse.takeWhile (· ≠ '.')).reverse

/-- The part of a name after its last dot, or the whole name. -/
def lastSegment (name : String) : String :=
  String.ofList (lastSegmentChars name.toList)

/-- A name without an ending that it has; `none` if it has not, or if nothing would be left. -/
def dropEnding? (ending name : String) : Option String :=
  if ending.toList.isSuffixOf name.toList ∧ ending.toList.length < name.toList.length then
    some (String.ofList (name.toList.take (name.toList.length - ending.toList.length)))
  else none

/-- True of a name with more than one segment. -/
def isDotted (name : String) : Bool :=
  name.toList.contains '.'

/-- A name without an ending is what stands before the ending, if anything does. -/
theorem dropEnding?_eq_some_iff {ending name rest : String} :
    dropEnding? ending name = some rest ↔ rest ≠ "" ∧ name = rest ++ ending := by
  rw [dropEnding?, Option.ite_none_right_eq_some, Option.some_inj, List.isSuffixOf_iff_suffix]
  constructor
  · rintro ⟨⟨⟨before, hsplit⟩, hlonger⟩, rfl⟩
    have hbefore : name.toList.take (name.toList.length - ending.toList.length) = before := by
      rw [← hsplit, List.length_append, Nat.add_sub_cancel, List.take_left]
    rw [hbefore]
    refine ⟨fun hempty ↦ ?_, ?_⟩
    · rw [String.ofList_eq_empty_iff] at hempty
      simp [← hsplit, hempty] at hlonger
    · rw [← String.toList_inj, String.toList_append, String.toList_ofList, hsplit]
  · rintro ⟨hne, rfl⟩
    have hrest : rest.toList ≠ [] := by simpa using hne
    have hpositive := List.length_pos_iff.2 hrest
    refine ⟨⟨⟨rest.toList, (String.toList_append).symm⟩, ?_⟩, ?_⟩
    · rw [String.toList_append, List.length_append]
      omega
    · rw [String.toList_append, List.length_append, Nat.add_sub_cancel, List.take_left,
        String.ofList_toList]

/-- A name from which no ending is dropped is nothing with the ending behind it. -/
theorem ne_append_of_dropEnding?_eq_none {ending name before : String}
    (h : dropEnding? ending name = none) (hne : before ≠ "") : name ≠ before ++ ending := by
  intro hname
  rw [dropEnding?_eq_some_iff.2 ⟨hne, hname⟩] at h
  cases h

/-- A last segment has no dot. -/
theorem dot_notMem_lastSegmentChars (cs : List Char) : '.' ∉ lastSegmentChars cs := by
  intro h
  have hall := List.all_takeWhile (p := fun c ↦ decide (c ≠ '.')) (l := cs.reverse)
  have hmem : '.' ∈ cs.reverse.takeWhile (· ≠ '.') := by simpa [lastSegmentChars] using h
  have := (List.all_eq_true.1 hall) '.' hmem
  simp at this

/-- A name without a dot is its own last segment. -/
theorem lastSegmentChars_of_notMem {cs : List Char} (h : '.' ∉ cs) : lastSegmentChars cs = cs := by
  have htake : ∀ l : List Char, '.' ∉ l → l.takeWhile (· ≠ '.') = l := by
    intro l
    induction l with
    | nil => simp
    | cons c rest ih =>
        intro hl
        have hc : c ≠ '.' := fun hc ↦ hl (by simp [hc])
        have hrest : '.' ∉ rest := fun hr ↦ hl (by simp [hr])
        simpa [hc] using ih hrest
  rw [lastSegmentChars, htake cs.reverse (by simpa using h), List.reverse_reverse]

end FunctionBindings.Text
