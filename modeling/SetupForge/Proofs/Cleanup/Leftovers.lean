import Mathlib.Data.List.Chain
import Mathlib.Data.List.FinRange
import SetupForge.Proofs.Cleanup.Headings

/-! # Copies that the cleanup leaves

The cleanup means to take out every generated copy whose block ends, but it deals with one routine
after another. A copy that it leaves was passed over because its block did not end at that time,
and then the log reports its line, or its marker and its signature were put together by a later
cut. Where no marker stands directly above another one and nothing is reported, no copy is left.
-/

namespace SetupForge

open Text Routine

/-- No generated copy of a routine of the catalog is left whose block ends. -/
def Swept (routines : List Routine) (lines : List String) : Prop :=
  ∀ routine ∈ routines, ∀ signature, routine.signature? = some signature → Stuck signature lines

namespace Sweep

variable {name signature : String}

/-! ## Copies that a sweep passes over -/

theorem marker?_eq_none_iff {cursor : Nat} {lines : List String} :
    marker? signature cursor lines = none ↔
      ∀ i, cursor - 1 ≤ i → opensCopy signature (lines.drop i) = false := by
  constructor
  · intro hnone i hi
    by_contra hcopy
    rw [Bool.not_eq_false] at hcopy
    have hex : ∃ k, cursor - 1 ≤ k ∧ opensCopy signature (lines.drop k) = true := ⟨i, hi, hcopy⟩
    obtain ⟨hle, hfirst⟩ := Nat.find_spec hex
    have hsome : marker? signature cursor lines = some (Nat.find hex) := by
      refine marker?_eq_some_iff.2 ⟨hle, hfirst, ?_⟩
      intro k hk hlt
      simpa [hk] using Nat.find_min hex hlt
    rw [hnone] at hsome
    simp at hsome
  · intro hno
    by_contra hsome
    obtain ⟨marker, hm⟩ := Option.ne_none_iff_exists'.1 hsome
    obtain ⟨hle, hcopy, -⟩ := marker?_eq_some_iff.1 hm
    rw [hno marker hle] at hcopy
    simp at hcopy

theorem step_eq_none_iff {sweep : Sweep} :
    step name signature sweep = none ↔ marker? signature sweep.cursor sweep.lines = none := by
  unfold step
  split
  · rename_i hm
    simp [hm]
  · rename_i marker hm
    split <;> simp [hm]

theorem step_finish (name signature : String) (sweep : Sweep) :
    step name signature (finish name signature sweep) = none := by
  cases hs : step name signature sweep with
  | none => rw [finish_of_step_eq_none hs, hs]
  | some after =>
      have hlt := work_lt_of_step hs
      have hpos := work_pos_of_step hs
      rw [finish_of_step hs]
      exact step_finish name signature after
termination_by sweep.work.toNat
decreasing_by omega

/-- The copies above the cursor have been passed over: they are reported, and as long as nothing
is taken out their blocks do not end. -/
structure Passed (name signature : String) (sweep : Sweep) : Prop where
  reported : ∀ i, i + 1 < sweep.cursor → opensCopy signature (sweep.lines.drop i) = true →
    unterminated name i ∈ sweep.notes
  endless : sweep.removed = 0 → ∀ i, i + 1 < sweep.cursor →
    opensCopy signature (sweep.lines.drop i) = true → Pascal.blockEnd? sweep.lines i = none

theorem Passed.step {before after : Sweep} (h : Passed name signature before)
    (hs : step name signature before = some after) : Passed name signature after := by
  obtain ⟨marker, hm, ⟨hend, rfl⟩ | ⟨last, -, rfl⟩⟩ := step_cases hs
  · -- the copy at the marker is passed over, and there is none between the cursor and it
    obtain ⟨-, -, hbetween⟩ := marker?_eq_some_iff.1 hm
    have hnew : ∀ i, i + 1 < marker + 2 → ¬ i + 1 < before.cursor →
        opensCopy signature (before.lines.drop i) = true → i = marker := by
      intro i hi hcursor hcopy
      by_contra hne
      rw [hbetween i (by omega) (by omega)] at hcopy
      simp at hcopy
    constructor
    · intro i hi hcopy
      by_cases hcursor : i + 1 < before.cursor
      · exact List.mem_append_left _ (h.reported i hcursor hcopy)
      · rw [hnew i hi hcursor hcopy]
        simp
    · intro hremoved i hi hcopy
      by_cases hcursor : i + 1 < before.cursor
      · exact h.endless hremoved i hcursor hcopy
      · rw [hnew i hi hcursor hcopy]
        exact hend
  · obtain ⟨-, -, hbetween⟩ := marker?_eq_some_iff.1 hm
    refine ⟨?_, fun hremoved => absurd hremoved (Nat.succ_ne_zero _)⟩
    intro i hi hcopy
    simp only at hi hcopy
    have hkept : ∀ k, k < marker →
        (dropBlock marker last before.lines)[k]? = before.lines[k]? := by
      intro k hk
      have hlen := (marker?_bounds hm).2
      rw [dropBlock, List.getElem?_append_left (by rw [List.length_take]; omega),
        List.getElem?_take_of_lt hk]
    rw [opensCopy_drop_iff, hkept i (by omega), hkept (i + 1) hi, ← opensCopy_drop_iff] at hcopy
    by_cases hcursor : i + 1 < before.cursor
    · exact List.mem_append_left _ (h.reported i hcursor hcopy)
    · rw [hbetween i (by omega) (by omega)] at hcopy
      simp at hcopy

/-- Every copy that a whole sweep leaves is reported, and if the sweep takes nothing out, its
block does not end. -/
theorem run_passed {lines : List String} {i : Nat}
    (hcopy : opensCopy signature ((run name signature lines).lines.drop i) = true) :
    unterminated name i ∈ (run name signature lines).notes ∧
      ((run name signature lines).removed = 0 →
        Pascal.blockEnd? (run name signature lines).lines i = none) := by
  rw [run_eq_finish] at hcopy ⊢
  have hpassed : Passed name signature (finish name signature { lines }) :=
    finish_induct (fun before after hs h => h.step hs)
      ⟨fun i hi => absurd hi (Nat.not_lt_zero _), fun _ i hi => absurd hi (Nat.not_lt_zero _)⟩
  have hnone := marker?_eq_none_iff.1 (step_eq_none_iff.1 (step_finish name signature { lines }))
  have hcursor : i + 1 < (finish name signature { lines }).cursor := by
    by_contra hge
    rw [hnone i (by omega)] at hcopy
    simp at hcopy
  exact ⟨hpassed.reported i hcursor hcopy, fun hzero => hpassed.endless hzero i hcursor hcopy⟩

end Sweep

/-! ## Markers that stand apart -/

/-- No marker stands directly above another marker. -/
def Apart (lines : List String) : Prop :=
  lines.IsChain fun marker line => Marker.isMarker marker = true → Marker.isMarker line = false

section Apart

variable {signature : String} {lines : List String}

/-- Directly above a marker the lines end unmarked. -/
theorem Apart.endsUnmarked_take (h : Apart lines) {first : Nat} {marker : String}
    (hget : lines[first]? = some marker) (hmarked : Marker.isMarker marker = true) :
    EndsUnmarked (lines.take first) := by
  rw [Apart, ← List.take_append_drop first lines, List.isChain_append] at h
  have hhead : marker ∈ (lines.drop first).head? := by
    rw [List.head?_drop, hget]
    rfl
  intro line hl
  by_contra hline
  have hno := h.2.2 line hl marker hhead (Bool.not_eq_false _ ▸ hline)
  rw [hmarked] at hno
  simp at hno

theorem Quiet.take (h : Quiet signature lines) (n : Nat) : Quiet signature (lines.take n) := by
  intro i
  by_contra hcopy
  rw [Bool.not_eq_false, Sweep.opensCopy_drop_iff] at hcopy
  obtain ⟨marker, line, hmarker, hline, hcopies⟩ := hcopy
  rw [List.getElem?_take, Option.ite_none_right_eq_some] at hmarker hline
  have hall : opensCopy signature (lines.drop i) = true :=
    Sweep.opensCopy_drop_iff.2 ⟨marker, line, hmarker.2, hline.2, hcopies⟩
  rw [h i] at hall
  simp at hall

theorem Quiet.drop (h : Quiet signature lines) (n : Nat) : Quiet signature (lines.drop n) := by
  intro i
  rw [List.drop_drop]
  exact h _

variable {first last : Nat}

/-- Taking out a block below lines that end unmarked brings no marker to stand above a line. -/
theorem Apart.dropBlock (h : Apart lines) (he : EndsUnmarked (lines.take first)) :
    Apart (Sweep.dropBlock first last lines) := by
  rw [Apart, Sweep.dropBlock, List.isChain_append]
  refine ⟨List.IsChain.take h first, (List.IsChain.drop h (last + 1)).suffix
    (List.dropWhile_suffix _), ?_⟩
  intro marker hmarker line _ hmarked
  rw [he marker hmarker] at hmarked
  simp at hmarked

theorem Quiet.dropBlock (h : Quiet signature lines) (he : EndsUnmarked (lines.take first)) :
    Quiet signature (Sweep.dropBlock first last lines) :=
  (h.take first).append he ((h.drop (last + 1)).dropWhile isBlank)

end Apart

namespace Sweep

variable {name signature : String}

/-- A step on lines whose markers stand apart leaves them apart and opens no copy. -/
theorem apart_step {before after : Sweep} (hs : step name signature before = some after)
    (h : Apart before.lines) : Apart after.lines ∧
      ∀ other, Quiet other before.lines → Quiet other after.lines := by
  obtain ⟨marker, hm, ⟨-, rfl⟩ | ⟨last, -, rfl⟩⟩ := step_cases hs
  · exact ⟨h, fun _ => id⟩
  · obtain ⟨-, hcopy, -⟩ := marker?_eq_some_iff.1 hm
    obtain ⟨line, -, hget, -, hmarked, -⟩ := opensCopy_drop_iff.1 hcopy
    have he := h.endsUnmarked_take hget hmarked
    exact ⟨h.dropBlock he, fun other hquiet => hquiet.dropBlock he⟩

theorem apart_run (name signature : String) {lines : List String} (h : Apart lines) :
    Apart (run name signature lines).lines ∧
      ∀ other, Quiet other lines → Quiet other (run name signature lines).lines := by
  rw [run_eq_finish]
  refine finish_induct (motive := fun sweep => Apart sweep.lines ∧
    ∀ other, Quiet other lines → Quiet other sweep.lines) ?_ ⟨h, fun _ => id⟩
  rintro before after hs ⟨hapart, hquiet⟩
  obtain ⟨hapart', hstep⟩ := apart_step hs hapart
  exact ⟨hapart', fun other ho => hstep other (hquiet other ho)⟩

end Sweep

/-! ## The whole cleanup -/

namespace Routine

variable {routines : List Routine} {lines : List String} {signature : String}

theorem removeGenerated_append {first second : List Routine}
    (h : ∀ routine ∈ first, routine.signature?.isSome) (lines : List String) :
    removeGenerated (first ++ second) lines =
      ({ lines := (removeGenerated second (removeGenerated first lines).1.lines).1.lines
         notes := (removeGenerated first lines).1.notes ++
          (removeGenerated second (removeGenerated first lines).1.lines).1.notes
         failure := (removeGenerated second (removeGenerated first lines).1.lines).1.failure },
        (removeGenerated first lines).2 +
          (removeGenerated second (removeGenerated first lines).1.lines).2) := by
  induction first generalizing lines with
  | nil => simp [removeGenerated]
  | cons routine first ih =>
      obtain ⟨signature, hs⟩ := Option.isSome_iff_exists.1 (h routine (by simp))
      rw [List.cons_append, removeGenerated, removeGenerated, hs]
      simp only [ih (fun r hr => h r (List.mem_cons_of_mem routine hr)), List.append_assoc,
        Nat.add_assoc]

theorem swept_of_removed (h : ∀ routine ∈ routines, routine.signature?.isSome)
    (hzero : (removeGenerated routines lines).2 = 0) : Swept routines lines := by
  induction routines with
  | nil => simp [Swept]
  | cons routine routines ih =>
      obtain ⟨signature, hs⟩ := Option.isSome_iff_exists.1 (h routine (by simp))
      rw [removeGenerated, hs] at hzero
      simp only [Nat.add_eq_zero_iff] at hzero
      obtain ⟨hfirst, hrest⟩ := hzero
      have hsame : (Sweep.run routine.name signature lines).lines = lines := by
        rw [Sweep.run_eq_finish] at hfirst ⊢
        exact (Sweep.finish_lines routine.name signature { lines }).2.2.2 hfirst
      rw [hsame] at hrest
      have hswept := ih (fun r hr => h r (List.mem_cons_of_mem routine hr)) hrest
      intro r hr s hsig
      rcases List.mem_cons.1 hr with rfl | hr
      · obtain rfl : signature = s := Option.some.inj (hs.symm.trans hsig)
        intro i hcopy
        rw [← hsame] at hcopy
        have hend := (Sweep.run_passed hcopy).2 hfirst
        rw [hsame, Pascal.blockEnd?, Option.map_eq_none_iff] at hend
        exact hend
      · exact hswept r hr s hsig

theorem removed_eq_zero_iff (h : ∀ routine ∈ routines, routine.signature?.isSome) :
    (removeGenerated routines lines).2 = 0 ↔ Swept routines lines := by
  refine ⟨swept_of_removed h, fun hswept => ?_⟩
  rw [← removeGenerated_eq_self_iff]
  refine removeGenerated_of_stuck fun routine hr => ?_
  obtain ⟨signature, hs⟩ := Option.isSome_iff_exists.1 (h routine hr)
  exact ⟨signature, hs, hswept routine hr signature hs⟩

theorem quiet_removeGenerated (h : ∀ routine ∈ routines, routine.signature?.isSome)
    (hapart : Apart lines) (hquiet : Quiet signature lines) :
    Quiet signature (removeGenerated routines lines).1.lines := by
  induction routines generalizing lines with
  | nil => exact hquiet
  | cons routine routines ih =>
      obtain ⟨own, hs⟩ := Option.isSome_iff_exists.1 (h routine (by simp))
      obtain ⟨hapart', hrun⟩ := Sweep.apart_run routine.name own hapart
      rw [removeGenerated, hs]
      exact ih (fun r hr => h r (List.mem_cons_of_mem routine hr)) hapart' (hrun _ hquiet)

theorem quiet_of_unreported (h : ∀ routine ∈ routines, routine.signature?.isSome)
    (hapart : Apart lines)
    (hsilent : ∀ routine ∈ routines, ∀ i,
      Sweep.unterminated routine.name i ∉ (removeGenerated routines lines).1.notes) :
    ∀ routine ∈ routines, ∀ signature, routine.signature? = some signature →
      Quiet signature (removeGenerated routines lines).1.lines := by
  induction routines generalizing lines with
  | nil => simp
  | cons routine routines ih =>
      obtain ⟨own, hs⟩ := Option.isSome_iff_exists.1 (h routine (by simp))
      have h' := fun r hr => h r (List.mem_cons_of_mem routine hr)
      have hapart' := (Sweep.apart_run routine.name own hapart).1
      rw [removeGenerated, hs] at hsilent ⊢
      simp only [List.mem_append, not_or] at hsilent
      have hleft : Quiet own (Sweep.run routine.name own lines).lines := by
        intro i
        by_contra hcopy
        rw [Bool.not_eq_false] at hcopy
        exact (hsilent routine (by simp) i).1 (Sweep.run_passed hcopy).1
      intro r hr signature hsig
      rcases List.mem_cons.1 hr with rfl | hr
      · obtain rfl : own = signature := Option.some.inj (hs.symm.trans hsig)
        exact quiet_removeGenerated h' hapart' hleft
      · exact ih h' hapart' (fun r hr i => (hsilent r (List.mem_cons_of_mem routine hr) i).2)
          r hr signature hsig

/-! ## Where left copies come from -/

def leftBy (routines : List Routine) (lines : List String) : List String :=
  (removeGenerated routines lines).1.lines

def keptBy (routines : List Routine) (lines : List String) : List (Fin lines.length) :=
  Cut.removeAll (cuts routines lines) (List.finRange lines.length)

/-- A copy is left at `i` that stood together when the search for its routine was over, and that
search has reported its line. -/
def IsReported (above : List Routine) (routine : Routine) (below : List Routine)
    (lines : List String) (i : Nat) : Prop :=
  ∃ p q, (keptBy below (leftBy (above ++ [routine]) lines))[i]? = some p ∧
    (keptBy below (leftBy (above ++ [routine]) lines))[i + 1]? = some q ∧ p.val + 1 = q.val ∧
      Sweep.unterminated routine.name p ∈
        (removeGenerated (above ++ routine :: below) lines).1.notes

/-- A copy is left at `i` whose two lines stood apart when the search for its routine was over: a
later search has cut out what was between them. -/
def IsJoined (above : List Routine) (routine : Routine) (below : List Routine)
    (lines : List String) (i : Nat) : Prop :=
  ∃ p q, (keptBy below (leftBy (above ++ [routine]) lines))[i]? = some p ∧
    (keptBy below (leftBy (above ++ [routine]) lines))[i + 1]? = some q ∧ p.val + 1 < q.val

theorem leftBy_eq_keptBy (h : ∀ routine ∈ routines, routine.signature?.isSome)
    (lines : List String) : leftBy routines lines = (keptBy routines lines).map lines.get ∧
      (keptBy routines lines).Pairwise (· < ·) := by
  obtain ⟨hlines, -, hbalanced, -⟩ := removeGenerated_cuts h
    (List.map_get_finRange lines).symm (List.nodup_finRange lines.length)
  exact ⟨hlines, (List.pairwise_lt_finRange lines.length).sublist hbalanced.sublist⟩

/-- Every copy that is left was reported by the search for its routine or joined later. -/
theorem isReported_or_isJoined {above below : List Routine} {routine : Routine} {i : Nat}
    (h : ∀ r ∈ routines, r.signature?.isSome) (hroutines : routines = above ++ routine :: below)
    (hs : routine.signature? = some signature)
    (hcopy : opensCopy signature ((removeGenerated routines lines).1.lines.drop i) = true) :
    IsReported above routine below lines i ∨ IsJoined above routine below lines i := by
  subst hroutines
  have habove : ∀ r ∈ above, r.signature?.isSome := fun r hr =>
    h r (List.mem_append_left _ hr)
  have hbelow : ∀ r ∈ below, r.signature?.isSome := fun r hr =>
    h r (List.mem_append_right _ (List.mem_cons_of_mem routine hr))
  have hown : ∀ r ∈ above ++ [routine], r.signature?.isSome := by
    intro r hr
    rcases List.mem_append.1 hr with hr | hr
    · exact habove r hr
    · rw [List.mem_singleton.1 hr, hs]
      rfl
  have hsplit : above ++ routine :: below = (above ++ [routine]) ++ below := by simp
  have hfinal : (removeGenerated (above ++ routine :: below) lines).1.lines =
      leftBy below (leftBy (above ++ [routine]) lines) := by
    rw [hsplit, removeGenerated_append hown]
    rfl
  have hleft : leftBy (above ++ [routine]) lines =
      (Sweep.run routine.name signature (leftBy above lines)).lines := by
    rw [leftBy, removeGenerated_append habove, removeGenerated, hs]
    rfl
  have hnote : ∀ n, opensCopy signature ((leftBy (above ++ [routine]) lines).drop n) = true →
      Sweep.unterminated routine.name n ∈
        (removeGenerated (above ++ routine :: below) lines).1.notes := by
    intro n hn
    rw [hleft] at hn
    rw [removeGenerated_append habove, removeGenerated, hs]
    simp only [List.mem_append]
    exact Or.inr (Or.inl (Sweep.run_passed hn).1)
  obtain ⟨hkept, hsorted⟩ := leftBy_eq_keptBy hbelow (leftBy (above ++ [routine]) lines)
  rw [hfinal, hkept, Sweep.opensCopy_drop_iff] at hcopy
  obtain ⟨marker, line, hmarker, hline, hcopies⟩ := hcopy
  rw [List.getElem?_map, Option.map_eq_some_iff] at hmarker hline
  obtain ⟨p, hp, rfl⟩ := hmarker
  obtain ⟨q, hq, rfl⟩ := hline
  have hlt : p.val < q.val := by
    obtain ⟨hi, rfl⟩ := List.getElem?_eq_some_iff.1 hp
    obtain ⟨hi', rfl⟩ := List.getElem?_eq_some_iff.1 hq
    exact List.pairwise_iff_getElem.1 hsorted i (i + 1) hi hi' (Nat.lt_succ_self i)
  rcases Nat.lt_or_ge (p.val + 1) q.val with hapart | hnext
  · exact Or.inr ⟨p, q, hp, hq, hapart⟩
  · have hadjacent : p.val + 1 = q.val := by omega
    refine Or.inl ⟨p, q, hp, hq, hadjacent, hnote p (Sweep.opensCopy_drop_iff.2
      ⟨_, _, ?_, ?_, hcopies⟩)⟩
    · simp
    · rw [hadjacent]
      simp

/-- The lines that the cleanup leaves hold no whole copy exactly if a second cleanup takes nothing
out, and exactly if no block ends among the copies that it leaves: a copy is left only where its
line was reported as unterminated, or where a later cut has joined a marker and a signature. So
where markers stand apart and the cleanup reports nothing, it leaves no copy at all. -/
theorem cleanup_complete_iff {routines : List Routine}
    (h : ∀ routine ∈ routines, 2 ≤ routine.lines.length) (lines : List String) :
    let cleaned := (removeGenerated routines lines).1
    ((removeGenerated routines cleaned.lines).2 = 0 ↔ Swept routines cleaned.lines) ∧
    (Swept routines cleaned.lines ↔ ∀ above routine below signature,
      routines = above ++ routine :: below → routine.signature? = some signature →
        ∀ i, opensCopy signature (cleaned.lines.drop i) = true →
          IsReported above routine below lines i ∨ IsJoined above routine below lines i →
            Pascal.blockEnd? cleaned.lines i = none) ∧
    (Apart lines → (∀ routine ∈ routines, ∀ i,
        Sweep.unterminated routine.name i ∉ cleaned.notes) →
      ∀ routine ∈ routines, ∀ signature, routine.signature? = some signature →
        ∀ i, opensCopy signature (cleaned.lines.drop i) = false) := by
  intro cleaned
  have hsome : ∀ routine ∈ routines, routine.signature?.isSome := by
    intro routine hr
    have hlen := h routine hr
    exact Option.isSome_iff_exists.2 ⟨_, List.getElem?_eq_getElem hlen⟩
  refine ⟨removed_eq_zero_iff hsome, ?_, fun hapart hsilent =>
    quiet_of_unreported hsome hapart hsilent⟩
  constructor
  · rintro hswept above routine below signature rfl hs i hcopy -
    rw [Pascal.blockEnd?, Option.map_eq_none_iff]
    exact hswept routine (by simp) signature hs i hcopy
  · intro hleft routine hr signature hs i hcopy
    obtain ⟨above, below, rfl⟩ := List.append_of_mem hr
    have hend := hleft above routine below signature rfl hs i hcopy
      (isReported_or_isJoined hsome rfl hs hcopy)
    rwa [Pascal.blockEnd?, Option.map_eq_none_iff] at hend

/-- A copy whose block ends only when another block has been cut out of it. -/
theorem cleanup_complete_iff_reported :
    let marker := "\x7b innotool:auto-generated ExtractMajorVersion \x7d"
    let signature := "function ExtractMajorVersion(const Version: String): Integer;"
    let block := ["\x7b innotool:auto-generated NeedsDotNet \x7d",
      "function NeedsDotNet: Boolean;", "begin end; (*"]
    let lines := [marker, signature, "begin"] ++ block ++ ["end;"]
    let cleaned := (removeGenerated catalog lines).1
    (∀ routine ∈ catalog, 2 ≤ routine.lines.length) ∧
      cleaned.lines = [marker, signature, "begin", "end;"] ∧
      (removeGenerated catalog cleaned.lines).2 ≠ 0 := by
  intro marker signature block lines cleaned
  have hcat : ∀ routine ∈ catalog, 2 ≤ routine.lines.length := by
    simp [catalog, runAndCaptureOutput, extractMajorVersion, isDotnetRuntimeInstalled,
      needsDotNet, prepareToInstall, marked]
  have hlines : cleaned.lines = [marker, signature, "begin", "end;"] := by decide +kernel
  obtain ⟨hagain, hswept, -⟩ := cleanup_complete_iff hcat lines
  refine ⟨hcat, hlines, ?_⟩
  intro hzero
  have hcopy : opensCopy signature (cleaned.lines.drop 0) = true := by
    rw [hlines]
    decide +kernel
  have hend := hswept.1 (hagain.1 hzero) [runAndCaptureOutput] extractMajorVersion _ signature
    rfl rfl 0 hcopy (isReported_or_isJoined signature?_of_mem_catalog rfl rfl hcopy)
  have hlast : Pascal.blockEnd? [marker, signature, "begin", "end;"] 0 = some 3 := by
    decide +kernel
  rw [hlines, hlast] at hend
  simp at hend

/-- A marker that stands directly above another one: when the block under the lower one is cut
out, the upper one comes to stand above a signature whose search is over. -/
theorem cleanup_leaves_joined_copy :
    let marker := "\x7b innotool:auto-generated ExtractMajorVersion \x7d"
    let copy := [marker, "function ExtractMajorVersion(const Version: String): Integer;",
      "begin end;"]
    let cleaned := (removeGenerated catalog
      (marker :: "\x7b innotool:auto-generated NeedsDotNet \x7d" ::
        "function NeedsDotNet: Boolean;" :: "begin end;" :: copy.tail)).1
    cleaned.lines = copy ∧ ¬ Swept catalog cleaned.lines ∧
      (removeGenerated catalog cleaned.lines).2 ≠ 0 := by
  intro marker copy cleaned
  have hlines : cleaned.lines = copy := by decide +kernel
  have hswept : ¬ Swept catalog copy := by
    intro hswept
    have hend := hswept extractMajorVersion (by simp [catalog]) _ rfl 0 (by decide +kernel)
    have hlength : Pascal.blockLength? none false 0 copy = some 2 := by decide +kernel
    rw [List.drop_zero, hlength] at hend
    simp at hend
  rw [hlines, ne_eq, removed_eq_zero_iff signature?_of_mem_catalog]
  exact ⟨rfl, hswept, hswept⟩

end Routine

end SetupForge
