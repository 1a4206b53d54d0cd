import FunctionBindings.Files.Disk

/-!
# Writing to a disk

A text is written to the place that its path leads to, and nothing else changes: every other file
keeps its text (`Disk.read_eq_ok_iff_of_write`). Where paths lead depends on the directories alone
(`Disk.follow_of_directories`), and as a write makes and removes no directory, all paths lead where
they led before (`Disk.resolve_eq_ok_iff_of_write`).
-/

namespace FunctionBindings

namespace Disk

variable {disk next other : Disk} {path text content : String} {place : List String}

/-- True of two paths that name the same place. -/
def SamePlace (disk : Disk) (path named : String) : Prop :=
  ∃ place, disk.resolve path = .ok place ∧ disk.resolve named = .ok place

/-- Paths pass through directories alone, so they lead to the same places on a disk that has these
directories too. -/
theorem follow_of_directories
    (hdirectories : ∀ place, disk.node? place = some .directory →
      other.node? place = some .directory) :
    ∀ (segments start : List String), disk.follow start segments = .ok place →
      other.follow start segments = .ok place
  | [], _, h => h
  | segment :: rest, start, h => by
      cases hstart : disk.node? start with
      | none => simp [follow, hstart] at h
      | some node =>
          cases node with
          | file content => simp [follow, hstart] at h
          | directory =>
              simp only [follow, hstart] at h
              simp only [follow, hdirectories start hstart]
              split
              · rename_i hdot
                rw [if_pos hdot] at h
                exact follow_of_directories hdirectories rest start h
              · rename_i hdot
                rw [if_neg hdot] at h
                split
                · rename_i hup
                  rw [if_pos hup] at h
                  exact follow_of_directories hdirectories rest start.dropLast h
                · rename_i hup
                  rw [if_neg hup] at h
                  exact follow_of_directories hdirectories rest (start ++ [segment]) h

/-- Paths name the same places on a disk that has the same directories and perhaps more. -/
theorem resolve_of_directories
    (hdirectories : ∀ place, disk.node? place = some .directory →
      other.node? place = some .directory)
    (h : disk.resolve path = .ok place) : other.resolve path = .ok place := by
  unfold resolve at h ⊢
  split
  · rename_i hempty
    rw [if_pos hempty] at h
    cases h
  · rename_i hempty
    rw [if_neg hempty] at h
    exact follow_of_directories hdirectories _ _ h

/-- A file has a text if its path leads to it and does not end like that of a directory. -/
theorem read_eq_ok_iff :
    disk.read path = .ok text ↔
      ∃ place, disk.resolve path = .ok place ∧ disk.node? place = some (.file text) ∧
        Path.endsWithSlash path = false := by
  unfold read find
  cases disk.resolve path with
  | error error => simp
  | ok place =>
      cases hnode : disk.node? place with
      | none => simp [hnode]
      | some node =>
          cases node with
          | directory => simp [hnode]
          | file content => cases hslash : Path.endsWithSlash path <;> simp [hnode]

/-- A text can be written to a place without a directory, by a path that does not end like that of
one. -/
theorem write_eq_ok_iff :
    disk.write path text = .ok next ↔
      ∃ place, disk.resolve path = .ok place ∧ disk.node? place ≠ some .directory ∧
        Path.endsWithSlash path = false ∧ ⟨disk.nodes.insert place (.file text)⟩ = next := by
  unfold write
  cases disk.resolve path with
  | error error => simp
  | ok place =>
      simp only [Except.ok.injEq, exists_eq_left']
      split
      · rename_i hrefused
        obtain hdirectory | hslash := hrefused
        · simp [hdirectory]
        · simp [hslash]
      · rename_i haccepted
        obtain ⟨hfree, hslash⟩ := not_or.1 haccepted
        simp [hfree, hslash]

/-- What stands where after a text has been put at a place. -/
theorem node?_insert (hplace : disk.node? place ≠ some .directory) (found : List String) :
    node? ⟨disk.nodes.insert place (.file text)⟩ found =
      if place = found then some (.file text) else disk.node? found := by
  split
  · rename_i heq
    subst heq
    have hsome : place.isEmpty = false := by
      cases hempty : place.isEmpty with
      | false => rfl
      | true => exact absurd (by simp [node?, hempty]) hplace
    simp [node?, hsome, Table.get?_insert]
  · rename_i hne
    simp [node?, Table.get?_insert, hne]

/-- A text put at a place makes and removes no directory. -/
theorem node?_insert_eq_directory_iff (text : String)
    (hplace : disk.node? place ≠ some .directory) (found : List String) :
    node? ⟨disk.nodes.insert place (.file text)⟩ found = some .directory ↔
      disk.node? found = some .directory := by
  rw [node?_insert hplace]
  split
  · rename_i heq
    subst heq
    simp [hplace]
  · exact Iff.rfl

/-- After a write, all paths lead where they led before. -/
theorem resolve_eq_ok_iff_of_write (h : disk.write path text = .ok next) (named : String)
    (place : List String) :
    next.resolve named = .ok place ↔ disk.resolve named = .ok place := by
  obtain ⟨written, -, hfree, -, rfl⟩ := write_eq_ok_iff.1 h
  have hdirectories := node?_insert_eq_directory_iff text hfree
  exact ⟨resolve_of_directories fun found ↦ (hdirectories found).1,
    resolve_of_directories fun found ↦ (hdirectories found).2⟩

/-- Two paths name one place after a write if they did so before. -/
theorem samePlace_iff_of_write (h : disk.write path text = .ok next) (one another : String) :
    next.SamePlace one another ↔ disk.SamePlace one another := by
  simp only [SamePlace, resolve_eq_ok_iff_of_write h]

/-- A file that has been written holds what was written, by whichever path it is read. -/
theorem read_of_write_of_samePlace {named : String} (h : disk.write path text = .ok next)
    (hsame : disk.SamePlace path named) (hslash : Path.endsWithSlash named = false) :
    next.read named = .ok text := by
  have hresolve := resolve_eq_ok_iff_of_write h named
  obtain ⟨place, hplace, hnamed⟩ := hsame
  obtain ⟨written, hwritten, hfree, -, rfl⟩ := write_eq_ok_iff.1 h
  obtain rfl : place = written := Except.ok.inj (hplace.symm.trans hwritten)
  refine read_eq_ok_iff.2 ⟨place, (hresolve place).2 hnamed, ?_, hslash⟩
  rw [node?_insert hfree, if_pos rfl]

/-- A file that has been written holds what was written. -/
theorem read_of_write (h : disk.write path text = .ok next) : next.read path = .ok text := by
  obtain ⟨place, hplace, -, hslash, -⟩ := write_eq_ok_iff.1 h
  exact read_of_write_of_samePlace h ⟨place, hplace, hplace⟩ hslash

/-- A file that a write is not to keeps its text. -/
theorem read_eq_ok_iff_of_write {named : String} (h : disk.write path text = .ok next)
    (hother : ¬ disk.SamePlace path named) :
    next.read named = .ok content ↔ disk.read named = .ok content := by
  have hresolve := resolve_eq_ok_iff_of_write h named
  obtain ⟨written, hwritten, hfree, -, rfl⟩ := write_eq_ok_iff.1 h
  simp only [read_eq_ok_iff, hresolve]
  refine exists_congr fun place ↦ and_congr_right fun hplace ↦ ?_
  have hne : written ≠ place := by
    rintro rfl
    exact hother ⟨written, hwritten, hplace⟩
  rw [node?_insert hfree, if_neg hne]

end Disk

end FunctionBindings
