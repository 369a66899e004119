import Mathlib.Data.List.Forall2

/-! # Results of steps that can fail

What a chain of steps gives is told by the steps: a failure is the one of the first step that fails,
and a step for every item succeeds exactly if it does for each.
-/

namespace SetupForge

variable {ε α β : Type}

theorem error_of_bind {failure : ε} {first : Except ε α} {next : α → Except ε β}
    (h : (first >>= next) = .error failure) :
    first = .error failure ∨ ∃ value, first = .ok value ∧ next value = .error failure := by
  cases first with
  | error other =>
      cases h
      exact Or.inl rfl
  | ok value => exact Or.inr ⟨value, rfl, h⟩

theorem exists_of_bind {result : β} {first : Except ε α} {next : α → Except ε β}
    (h : (first >>= next) = .ok result) : ∃ value, first = .ok value ∧ next value = .ok result := by
  cases first with
  | error other => cases h
  | ok value => exact ⟨value, rfl, h⟩

theorem exists_of_map {result : β} {first : Except ε α} {change : α → β}
    (h : first.map change = .ok result) : ∃ value, first = .ok value ∧ change value = result := by
  cases first with
  | error other => cases h
  | ok value =>
      cases h
      exact ⟨value, rfl, rfl⟩

theorem error_of_map {failure : ε} {first : Except ε α} {change : α → β}
    (h : first.map change = .error failure) : first = .error failure := by
  cases first with
  | error other =>
      cases h
      rfl
  | ok value => cases h

variable {step : α → Except ε β} {items : List α}

theorem mapM_eq_ok_iff {results : List β} :
    items.mapM step = .ok results ↔
      List.Forall₂ (fun item result => step item = .ok result) items results := by
  induction items generalizing results with
  | nil => simp [pure, Except.pure, eq_comm]
  | cons item items ih =>
      rw [List.mapM_cons]
      constructor
      · intro h
        obtain ⟨result, hitem, h⟩ := exists_of_bind h
        obtain ⟨rest, hrest, h⟩ := exists_of_bind h
        cases h
        exact .cons hitem (ih.1 hrest)
      · rintro (_ | ⟨hitem, hrest⟩)
        rw [hitem, ih.2 hrest]
        rfl

theorem exists_of_mem_mapM {results : List β} (h : items.mapM step = .ok results) :
    ∀ result ∈ results, ∃ item ∈ items, step item = .ok result := by
  have hpairs := mapM_eq_ok_iff.1 h
  clear h
  induction hpairs with
  | nil => simp
  | cons hitem _ ih =>
      refine List.forall_mem_cons.2 ⟨⟨_, List.mem_cons_self, hitem⟩, fun other hmem => ?_⟩
      obtain ⟨later, hmem, hlater⟩ := ih other hmem
      exact ⟨later, List.mem_cons_of_mem _ hmem, hlater⟩

/-- Steps for all items fail with the first one that fails. -/
theorem exists_first_of_mapM {failure : ε} (h : items.mapM step = .error failure) :
    ∃ done item rest, items = done ++ item :: rest ∧
      (∀ earlier ∈ done, ∃ result, step earlier = .ok result) ∧ step item = .error failure := by
  induction items with
  | nil => cases h
  | cons item items ih =>
      rw [List.mapM_cons] at h
      rcases error_of_bind h with hfirst | ⟨result, hfirst, hlater⟩
      · exact ⟨[], item, items, rfl, by simp, hfirst⟩
      · rcases error_of_bind hlater with hrest | ⟨results, -, hend⟩
        · obtain ⟨done, broken, rest, rfl, hdone, hbroken⟩ := ih hrest
          refine ⟨item :: done, broken, rest, rfl, ?_, hbroken⟩
          intro earlier hearlier
          rcases List.mem_cons.1 hearlier with rfl | hmem
          · exact ⟨result, hfirst⟩
          · exact hdone earlier hmem
        · cases hend

theorem exists_of_mapM {failure : ε} (h : items.mapM step = .error failure) :
    ∃ item ∈ items, step item = .error failure := by
  obtain ⟨done, item, rest, rfl, -, hitem⟩ := exists_first_of_mapM h
  exact ⟨item, by simp, hitem⟩

end SetupForge
