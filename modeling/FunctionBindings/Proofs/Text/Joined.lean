import Mathlib.Logic.Function.Basic

/-!
# Joined texts

Two texts with a separator between them can be told apart again only if it is known at which
separator one ends and the other begins. `joined_eq_joined_iff` says which pairs of texts give the
same joined text; `joined_inj_of_notMem_back` and `joined_inj_of_notMem_front` say when a pair is
the only one.
-/

namespace FunctionBindings

/-- Two pairs of lists, joined by an element, give the same list if they are the same, or if the
first list of one pair goes on, behind the element, with the start of the second list of the
other. -/
theorem append_cons_eq_append_cons_iff {α : Type} {a : α} {front front' back back' : List α} :
    front ++ a :: back = front' ++ a :: back' ↔
      (front = front' ∧ back = back') ∨
      (∃ middle, front' = front ++ a :: middle ∧ back = middle ++ a :: back') ∨
      (∃ middle, front = front' ++ a :: middle ∧ back' = middle ++ a :: back) := by
  constructor
  · intro h
    rcases List.append_eq_append_iff.1 h with ⟨more, hfront, hback⟩ | ⟨more, hfront, hback⟩
    · cases more with
      | nil => exact .inl ⟨by rw [hfront, List.append_nil], (List.cons.inj hback).2⟩
      | cons b middle =>
          obtain ⟨rfl, hmiddle⟩ := List.cons.inj hback
          exact .inr (.inl ⟨middle, hfront, hmiddle⟩)
    · cases more with
      | nil => exact .inl ⟨by rw [hfront, List.append_nil], (List.cons.inj hback).2.symm⟩
      | cons b middle =>
          obtain ⟨rfl, hmiddle⟩ := List.cons.inj hback
          exact .inr (.inr ⟨middle, hfront, hmiddle⟩)
  · rintro (⟨rfl, rfl⟩ | ⟨middle, rfl, rfl⟩ | ⟨middle, rfl, rfl⟩)
    · rfl
    · simp
    · simp

namespace Text

variable {separator front front' back back' : String} {c : Char}

/-- The characters of two texts with a separator of one character between them. -/
theorem toList_joined (hseparator : separator.toList = [c]) (front back : String) :
    (front ++ separator ++ back).toList = front.toList ++ c :: back.toList := by
  simp [String.toList_append, hseparator]

/-- Two pairs of texts, joined by a separator, give the same text if they are the same, or if the
first text of one pair goes on, behind the separator, with the start of the second text of the
other. -/
theorem joined_eq_joined_iff (hseparator : separator.toList = [c]) :
    front ++ separator ++ back = front' ++ separator ++ back' ↔
      (front = front' ∧ back = back') ∨
      (∃ middle, front' = front ++ separator ++ middle ∧
        back = middle ++ separator ++ back') ∨
      (∃ middle, front = front' ++ separator ++ middle ∧
        back' = middle ++ separator ++ back) := by
  have hsurjective : Function.Surjective String.toList := fun chars ↦
    ⟨.ofList chars, String.toList_ofList⟩
  rw [← String.toList_inj, toList_joined hseparator, toList_joined hseparator,
    append_cons_eq_append_cons_iff]
  simp only [hsurjective.exists, ← toList_joined hseparator, String.toList_inj]

/-- A joined text holds its separator. -/
theorem mem_joined (hseparator : separator.toList = [c]) (front back : String) :
    c ∈ (front ++ separator ++ back).toList := by
  simp [toList_joined hseparator]

/-- Texts are told apart if neither second text holds the separator. -/
theorem joined_inj_of_notMem_back (hseparator : separator.toList = [c]) (hback : c ∉ back.toList)
    (hback' : c ∉ back'.toList) :
    front ++ separator ++ back = front' ++ separator ++ back' ↔ front = front' ∧ back = back' := by
  rw [joined_eq_joined_iff hseparator]
  refine or_iff_left ?_
  rintro (⟨middle, -, rfl⟩ | ⟨middle, -, rfl⟩)
  · exact hback (mem_joined hseparator middle back')
  · exact hback' (mem_joined hseparator middle back)

/-- Texts are told apart if neither first text holds the separator. -/
theorem joined_inj_of_notMem_front (hseparator : separator.toList = [c])
    (hfront : c ∉ front.toList) (hfront' : c ∉ front'.toList) :
    front ++ separator ++ back = front' ++ separator ++ back' ↔ front = front' ∧ back = back' := by
  rw [joined_eq_joined_iff hseparator]
  refine or_iff_left ?_
  rintro (⟨middle, rfl, -⟩ | ⟨middle, rfl, -⟩)
  · exact hfront' (mem_joined hseparator front middle)
  · exact hfront (mem_joined hseparator front' middle)

end Text

end FunctionBindings
