import SetupForge.Script.Cleanup
import SetupForge.Proofs.Pascal.BlockShape
import SetupForge.Proofs.Script.GeneratedBlock

/-! # The search for generated copies

The search always comes to an end, so a sweep is finished by its steps alone and the bound
on their number can be forgotten. A step either takes a block out of the lines or passes
over a marker whose block does not end.
-/

namespace SetupForge.Sweep

open Text Routine

variable {name signature : String}

/-! ## The next copy -/

theorem opensCopy_drop (signature : String) (lines : List String) (i : Nat) :
    opensCopy signature (lines.drop i) = ((lines.zip lines.tail)[i]?).any
      fun pair => Marker.isMarker pair.1 && carries signature pair.2 := by
  induction i generalizing lines with
  | zero =>
      cases lines with
      | nil => rfl
      | cons a lines =>
          cases lines with
          | nil => rfl
          | cons b lines => rfl
  | succ i ih =>
      cases lines with
      | nil => rfl
      | cons a lines =>
          cases lines with
          | nil => simp [opensCopy]
          | cons b lines => simpa using ih (b :: lines)

theorem opensCopy_drop_iff {lines : List String} {i : Nat} :
    opensCopy signature (lines.drop i) = true ↔ ∃ marker line, lines[i]? = some marker ∧
      lines[i + 1]? = some line ∧ Marker.isMarker marker = true ∧
        carries signature line = true := by
  have hfirst : lines[i]? = (lines.drop i)[0]? := by rw [List.getElem?_drop, Nat.add_zero]
  have hsecond : lines[i + 1]? = (lines.drop i)[1]? := by rw [List.getElem?_drop]
  rw [hfirst, hsecond]
  match lines.drop i with
  | [] => simp [opensCopy]
  | [marker] => simp [opensCopy]
  | marker :: line :: rest => simp [opensCopy]

theorem marker?_eq_some_iff {cursor marker : Nat} {lines : List String} :
    marker? signature cursor lines = some marker ↔
      cursor - 1 ≤ marker ∧ opensCopy signature (lines.drop marker) = true ∧
        ∀ i, cursor - 1 ≤ i → i < marker → opensCopy signature (lines.drop i) = false := by
  simp only [marker?, Option.map_eq_some_iff, List.findIdx?_eq_some_iff_getElem,
    opensCopy_drop]
  constructor
  · rintro ⟨j, ⟨hj, htest, hbefore⟩, rfl⟩
    simp only [List.length_drop] at hj
    refine ⟨by omega, ?_, ?_⟩
    · rw [Nat.add_comm, List.getElem?_eq_getElem (by omega)]
      simpa using htest
    · intro i hi hij
      have hlt := hbefore (i - (cursor - 1)) (by omega)
      simp only [List.getElem_drop, show cursor - 1 + (i - (cursor - 1)) = i by omega] at hlt
      rw [List.getElem?_eq_getElem (by omega)]
      simpa using hlt
  · rintro ⟨hle, htest, hbefore⟩
    have hlt : marker < (lines.zip lines.tail).length := by
      by_contra hge
      rw [List.getElem?_eq_none (by omega)] at htest
      simp at htest
    rw [List.getElem?_eq_getElem hlt] at htest
    refine ⟨marker - (cursor - 1), ⟨by rw [List.length_drop]; omega, ?_, ?_⟩, by omega⟩
    · simpa [show cursor - 1 + (marker - (cursor - 1)) = marker by omega] using htest
    · intro j hj
      have hprev := hbefore (cursor - 1 + j) (by omega) (by omega)
      rw [List.getElem?_eq_getElem (by omega)] at hprev
      simpa using hprev

/-! ## Single steps -/

/-- A step takes out the next block, or passes over a marker whose block does not end. -/
theorem step_cases {before after : Sweep} (h : step name signature before = some after) :
    ∃ marker, marker? signature before.cursor before.lines = some marker ∧
      ((Pascal.blockEnd? before.lines marker = none ∧
          after = { before with
            cursor := marker + 2
            notes := before.notes ++ [unterminated name marker] }) ∨
        ∃ last, Pascal.blockEnd? before.lines marker = some last ∧
          after = {
            lines := dropBlock marker last before.lines
            cursor := marker
            removed := before.removed + 1
            notes := before.notes ++
              [.debug "CODE" s!"Removed generated module: {name}"] }) := by
  unfold step at h
  split at h
  · simp at h
  · rename_i marker hm
    refine ⟨marker, hm, ?_⟩
    split at h
    · rename_i hb
      exact Or.inl ⟨hb, (Option.some.inj h).symm⟩
    · rename_i last hb
      exact Or.inr ⟨last, hb, (Option.some.inj h).symm⟩

theorem work_pos_of_step {before after : Sweep} (h : step name signature before = some after) :
    0 < before.work := by
  obtain ⟨marker, hm, -⟩ := step_cases h
  have hb := marker?_bounds hm
  simp only [work]
  omega

/-! ## Whole sweeps -/

def finish (name signature : String) (sweep : Sweep) : Sweep :=
  runFuel name signature sweep.work.toNat sweep

theorem runFuel_agree {m n : Nat} {sweep : Sweep} (hm : sweep.work ≤ m) (hn : sweep.work ≤ n) :
    runFuel name signature m sweep = runFuel name signature n sweep := by
  induction m generalizing n sweep with
  | zero =>
      cases n with
      | zero => rfl
      | succ n =>
          cases hs : step name signature sweep with
          | none => simp only [runFuel, hs]
          | some after =>
              have hpos := work_pos_of_step hs
              omega
  | succ m ih =>
      cases hs : step name signature sweep with
      | none => cases n <;> simp only [runFuel, hs]
      | some after =>
          have hpos := work_pos_of_step hs
          have hlt := work_lt_of_step hs
          obtain ⟨n, rfl⟩ : ∃ k, n = k + 1 := ⟨n - 1, by omega⟩
          simp only [runFuel, hs]
          exact ih (by omega) (by omega)

theorem run_eq_finish (name signature : String) (lines : List String) :
    run name signature lines = finish name signature { lines } := by
  refine runFuel_agree ?_ (Int.self_le_toNat _)
  simp only [work]
  omega

theorem finish_of_step {before after : Sweep} (h : step name signature before = some after) :
    finish name signature before = finish name signature after := by
  have hpos := work_pos_of_step h
  have hlt := work_lt_of_step h
  obtain ⟨fuel, hfuel⟩ : ∃ k, before.work.toNat = k + 1 := ⟨before.work.toNat - 1, by omega⟩
  rw [finish, hfuel, runFuel, h]
  exact runFuel_agree (by omega) (Int.self_le_toNat _)

theorem finish_of_step_eq_none {sweep : Sweep} (h : step name signature sweep = none) :
    finish name signature sweep = sweep := by
  unfold finish
  cases sweep.work.toNat with
  | zero => rfl
  | succ fuel => rw [runFuel, h]

/-- What every step preserves, the finished sweep still has. -/
theorem finish_induct {motive : Sweep → Prop}
    (hstep : ∀ before after, step name signature before = some after →
      motive before → motive after) {sweep : Sweep} (h : motive sweep) :
    motive (finish name signature sweep) := by
  cases hs : step name signature sweep with
  | none =>
      rw [finish_of_step_eq_none hs]
      exact h
  | some after =>
      rw [finish_of_step hs]
      have hlt := work_lt_of_step hs
      have hpos := work_pos_of_step hs
      exact finish_induct hstep (hstep sweep after hs h)
termination_by sweep.work.toNat
decreasing_by omega

/-! ## What is lost -/

theorem dropBlock_sublist {first last : Nat} {lines : List String} (h : first ≤ last) :
    (dropBlock first last lines).Sublist lines := by
  have hsplit := List.take_append_drop first lines
  conv => rhs; rw [← hsplit]
  refine List.Sublist.append (List.Sublist.refl _) ?_
  have hdrop : lines.drop (last + 1) = (lines.drop first).drop (last + 1 - first) := by
    rw [List.drop_drop]
    congr 1
    omega
  rw [hdrop]
  exact (List.dropWhile_sublist _).trans (List.drop_sublist _ _)

theorem finish_lines (name signature : String) (sweep : Sweep) :
    (finish name signature sweep).lines.Sublist sweep.lines ∧
      sweep.removed ≤ (finish name signature sweep).removed ∧
      (finish name signature sweep).lines.length + (finish name signature sweep).removed ≤
        sweep.lines.length + sweep.removed ∧
      ((finish name signature sweep).removed = sweep.removed →
        (finish name signature sweep).lines = sweep.lines) := by
  refine finish_induct (motive := fun after => after.lines.Sublist sweep.lines ∧
    sweep.removed ≤ after.removed ∧
    after.lines.length + after.removed ≤ sweep.lines.length + sweep.removed ∧
    (after.removed = sweep.removed → after.lines = sweep.lines)) ?_
    ⟨List.Sublist.refl _, Nat.le_refl _, Nat.le_refl _, fun _ => rfl⟩
  rintro before after hs ⟨hsub, hle, hlength, hsame⟩
  obtain ⟨marker, -, ⟨-, rfl⟩ | ⟨last, hlast, rfl⟩⟩ := step_cases hs
  · exact ⟨hsub, hle, hlength, hsame⟩
  · obtain ⟨hfirst, hlt⟩ := Pascal.blockEnd?_bounds hlast
    have hshort := length_dropBlock_lt hfirst hlt
    refine ⟨(dropBlock_sublist hfirst).trans hsub, by simp only; omega, by simp only; omega, ?_⟩
    intro hremoved
    simp only at hremoved
    omega

end SetupForge.Sweep

namespace SetupForge.Routine

/-- The cleanup loses lines, and at least one for each copy it takes out. -/
theorem removeGenerated_lines (routines : List Routine) (lines : List String) :
    (removeGenerated routines lines).1.lines.Sublist lines ∧
      (removeGenerated routines lines).1.lines.length + (removeGenerated routines lines).2 ≤
        lines.length ∧
      ((removeGenerated routines lines).2 = 0 →
        (removeGenerated routines lines).1.lines = lines) := by
  induction routines generalizing lines with
  | nil => exact ⟨List.Sublist.refl _, Nat.le_refl _, fun _ => rfl⟩
  | cons routine routines ih =>
      rw [removeGenerated]
      split
      · split
        · exact ih lines
        · exact ⟨List.Sublist.refl _, Nat.le_refl _, fun _ => rfl⟩
      · rename_i signature _
        rw [Sweep.run_eq_finish]
        obtain ⟨hsub, -, hlength, hsame⟩ := Sweep.finish_lines routine.name signature { lines }
        obtain ⟨hsub', hlength', hsame'⟩ :=
          ih (Sweep.finish routine.name signature { lines }).lines
        refine ⟨hsub'.trans hsub, by simp only at hlength ⊢; omega, ?_⟩
        intro hzero
        simp only at hzero hsame
        rw [hsame' (by omega), hsame (by omega)]

theorem removeGenerated_eq_self_iff (routines : List Routine) (lines : List String) :
    (removeGenerated routines lines).1.lines = lines ↔
      (removeGenerated routines lines).2 = 0 := by
  obtain ⟨-, hlength, hsame⟩ := removeGenerated_lines routines lines
  refine ⟨fun h => ?_, hsame⟩
  rw [h] at hlength
  omega

end SetupForge.Routine
