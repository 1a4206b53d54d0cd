import FunctionBindings.Binding.Rules

/-!
# Occurrences of names

Two rules go through the bindings one after the other and look back at the names met so far. Here
both are described without such a walk: `selectAfter` picks bindings by their position alone. A name
is reported as the second of its kind once if it comes twice or more (`mem_names_seconds`,
`nodup_names_seconds`), and nothing is a repetition if no name comes twice
(`selectAfter_isRepeat_eq_nil_iff`).
-/

namespace FunctionBindings

/-- The bindings, in order, that stand in a relation to all bindings before them: those of `earlier`
and those in front of them in the list. -/
def selectAfter (relation : List Binding → Binding → Bool) (earlier bindings : List Binding) :
    List Binding :=
  ((bindings.zipIdx earlier.length).filter fun entry ↦
    relation ((earlier ++ bindings).take entry.2) entry.1).map Prod.fst

/-- True of a binding with just one earlier binding of its name. -/
def isSecond (earlier : List Binding) (binding : Binding) : Bool :=
  earlier.countP (·.name = binding.name) == 1

/-- True of a binding with an earlier binding of its name. -/
def isRepeat (earlier : List Binding) (binding : Binding) : Bool :=
  earlier.any (·.name = binding.name)

@[simp] theorem selectAfter_nil (relation : List Binding → Binding → Bool)
    (earlier : List Binding) : selectAfter relation earlier [] = [] := rfl

/-- The first binding is judged by the earlier ones and is itself an earlier one for the rest. -/
theorem selectAfter_cons (relation : List Binding → Binding → Bool) (earlier : List Binding)
    (binding : Binding) (rest : List Binding) :
    selectAfter relation earlier (binding :: rest) =
      if relation earlier binding then binding :: selectAfter relation (earlier ++ [binding]) rest
      else selectAfter relation (earlier ++ [binding]) rest := by
  have hall : earlier ++ binding :: rest = (earlier ++ [binding]) ++ rest := by simp
  have hlength : (earlier ++ [binding]).length = earlier.length + 1 := by simp
  unfold selectAfter
  rw [List.zipIdx_cons, List.filter_cons, List.take_left, ← hlength, hall]
  split <;> rfl

/-- What is picked from bindings is among them. -/
theorem mem_of_mem_selectAfter {relation : List Binding → Binding → Bool}
    {earlier bindings : List Binding} {binding : Binding}
    (h : binding ∈ selectAfter relation earlier bindings) : binding ∈ bindings := by
  obtain ⟨entry, hentry, rfl⟩ := List.mem_map.1 h
  exact List.fst_mem_of_mem_zipIdx (List.mem_filter.1 hentry).1

/-- The bindings at which a name comes for the second time. -/
theorem atOccurrence_two (earlier bindings : List Binding) :
    atOccurrence 2 earlier bindings = selectAfter isSecond earlier bindings := by
  induction bindings generalizing earlier with
  | nil => rfl
  | cons binding rest ih =>
      rw [atOccurrence, selectAfter_cons, ih]
      simp [isSecond, List.countP_eq_length_filter]

/-- The bindings whose name came before. -/
theorem repeated_eq_selectAfter (earlier bindings : List Binding) :
    repeated earlier bindings = selectAfter isRepeat earlier bindings := by
  induction bindings generalizing earlier with
  | nil => rfl
  | cons binding rest ih =>
      rw [repeated, selectAfter_cons, ih]
      rfl

/-- A name comes for the second time among bindings if it comes at least twice in all, and not twice
before them. -/
theorem mem_names_seconds (name : String) (earlier bindings : List Binding) :
    name ∈ (selectAfter isSecond earlier bindings).map (·.name) ↔
      earlier.countP (·.name = name) ≤ 1 ∧ 2 ≤ (earlier ++ bindings).countP (·.name = name) := by
  induction bindings generalizing earlier with
  | nil =>
      rw [List.append_nil]
      constructor
      · intro h
        cases h
      · rintro ⟨hone, htwo⟩
        omega
  | cons binding rest ih =>
      have hcount : (earlier ++ [binding]).countP (·.name = name) =
          earlier.countP (·.name = name) + if binding.name = name then 1 else 0 := by
        simp [List.countP_append, List.countP_singleton]
      have hall : earlier ++ binding :: rest = (earlier ++ [binding]) ++ rest := by simp
      have htotal : (earlier ++ [binding]).countP (·.name = name) ≤
          ((earlier ++ [binding]) ++ rest).countP (·.name = name) :=
        (List.sublist_append_left _ _).countP_le
      have hrest := ih (earlier ++ [binding])
      rw [selectAfter_cons, hall]
      -- Only a binding of this name changes the count; it is the second one if the count is one.
      by_cases hname : binding.name = name
      · simp only [hname, if_true] at hcount
        by_cases hsecond : isSecond earlier binding
        · have hone : earlier.countP (·.name = name) = 1 := by
            simpa [isSecond, hname] using hsecond
          simp only [hsecond, if_true, List.map_cons, List.mem_cons, hname, true_or, true_iff]
          omega
        · have hone : earlier.countP (·.name = name) ≠ 1 := by
            simpa [isSecond, hname] using hsecond
          simp only [hsecond, Bool.false_eq_true, if_false]
          rw [hrest]
          omega
      · simp only [hname, if_false] at hcount
        have hmem : name ∈ ((if isSecond earlier binding then
              binding :: selectAfter isSecond (earlier ++ [binding]) rest
            else selectAfter isSecond (earlier ++ [binding]) rest).map (·.name)) ↔
            name ∈ (selectAfter isSecond (earlier ++ [binding]) rest).map (·.name) := by
          split <;> simp [Ne.symm hname]
        rw [hmem, hrest]
        omega

/-- No name comes for the second time twice. -/
theorem nodup_names_seconds (earlier bindings : List Binding) :
    ((selectAfter isSecond earlier bindings).map (·.name)).Nodup := by
  induction bindings generalizing earlier with
  | nil => simp
  | cons binding rest ih =>
      rw [selectAfter_cons]
      split
      · rename_i hsecond
        have hone : earlier.countP (·.name = binding.name) = 1 := by
          simpa [isSecond] using hsecond
        -- The name has come twice now, which is once too often for the rest.
        have hgone : binding.name ∉
            (selectAfter isSecond (earlier ++ [binding]) rest).map (·.name) := by
          rw [mem_names_seconds]
          simp [List.countP_append, hone]
        exact List.nodup_cons.2 ⟨hgone, ih _⟩
      · exact ih _

/-- No name comes for the second time if none comes twice. -/
theorem selectAfter_isSecond_eq_nil_iff (bindings : List Binding) :
    selectAfter isSecond [] bindings = [] ↔
      ∀ name, bindings.countP (·.name = name) ≤ 1 := by
  rw [← List.map_eq_nil_iff (f := (·.name)), List.eq_nil_iff_forall_not_mem]
  simp only [mem_names_seconds, List.countP_nil, List.nil_append]
  constructor
  · intro h name
    have hname := h name
    omega
  · intro h name
    have hname := h name
    omega

/-- No binding is a repetition if all names differ from one another and from the earlier ones. -/
theorem selectAfter_isRepeat_eq_nil_iff (earlier bindings : List Binding) :
    selectAfter isRepeat earlier bindings = [] ↔
      (bindings.map (·.name)).Nodup ∧
        ∀ binding ∈ bindings, ∀ other ∈ earlier, other.name ≠ binding.name := by
  induction bindings generalizing earlier with
  | nil => simp
  | cons binding rest ih =>
      rw [selectAfter_cons]
      by_cases hrepeat : isRepeat earlier binding
      · obtain ⟨other, hother, hname⟩ : ∃ other ∈ earlier, other.name = binding.name := by
          simpa [isRepeat] using hrepeat
        simp only [hrepeat, if_true, List.cons_ne_nil, false_iff]
        intro h
        exact h.2 binding (by simp) other hother hname
      · have hnew : ∀ other ∈ earlier, other.name ≠ binding.name := by
          simpa [isRepeat] using hrepeat
        simp only [hrepeat, Bool.false_eq_true, if_false, ih, List.map_cons, List.nodup_cons,
          List.mem_map, not_exists, not_and, List.mem_append, List.mem_cons,
          List.not_mem_nil, or_false]
        constructor
        · rintro ⟨hnodup, hrest⟩
          refine ⟨⟨fun later hlater hname ↦ ?_, hnodup⟩, ?_⟩
          · exact hrest later hlater binding (.inr rfl) hname.symm
          · rintro later (rfl | hlater) other hother
            · exact hnew other hother
            · exact hrest later hlater other (.inl hother)
        · rintro ⟨⟨hfresh, hnodup⟩, hall⟩
          refine ⟨hnodup, fun later hlater other hother ↦ ?_⟩
          obtain hother | rfl := hother
          · exact hall later (.inr hlater) other hother
          · exact fun hname ↦ hfresh later hlater hname.symm

/-- The bindings of a name among those of members are the members' bindings of that name. -/
theorem countP_name_of_members (bindings : List Binding) (name : String) :
    (bindings.filter (·.source = .member)).countP (·.name = name) =
      bindings.countP fun b ↦ b.source = .member ∧ b.name = name := by
  rw [List.countP_filter]
  simp only [Bool.decide_and, Bool.and_comm]

end FunctionBindings
