import Mathlib.Data.List.FinRange
import SetupForge.Proofs.Cleanup.Copies
import SetupForge.Proofs.Cleanup.Cuts

/-! # Headings that the cleanup should leave alone

A line with a signature of the catalog is an author's heading if no marker stands directly above
it. The cleanup means to keep such lines, but a block that is taken out goes on to where its
nesting closes, and a marker that comes to stand above a heading adopts it.
-/

namespace SetupForge.Routine

open Text

def cuts : List Routine → List String → List Cut
  | [], _ => []
  | routine :: rest, lines =>
      match routine.signature? with
      | none => []
      | some signature =>
          Sweep.cuts routine.name signature { lines } ++
            cuts rest (Sweep.finish routine.name signature { lines }).lines

/-- The cuts of a cleanup, applied to the numbers of its lines. -/
theorem removeGenerated_cuts {α : Type} {text : α → String} {routines : List Routine}
    (h : ∀ routine ∈ routines, routine.signature?.isSome) {lines : List String} {xs : List α}
    (hlines : lines = xs.map text) (hnodup : xs.Nodup) :
    (removeGenerated routines lines).1.lines =
        (Cut.removeAll (cuts routines lines) xs).map text ∧
      (removeGenerated routines lines).2 = (cuts routines lines).length ∧
      Cut.Balanced text (cuts routines lines) xs ∧
      ∀ block ∈ Cut.blocks (cuts routines lines) xs, ∃ routine ∈ routines, ∃ signature,
        routine.signature? = some signature ∧ Sweep.IsCopy signature (block.map text) := by
  induction routines generalizing lines xs with
  | nil => exact ⟨hlines, rfl, Cut.balanced_nil, by simp [cuts, Cut.blocks]⟩
  | cons routine routines ih =>
      obtain ⟨signature, hs⟩ := Option.isSome_iff_exists.1 (h routine (by simp))
      obtain ⟨hfinal, hcount, hbalanced, hblocks⟩ :=
        Sweep.finish_cuts routine.name signature { lines } xs hlines hnodup
      obtain ⟨hrest, hcount', hbalanced', hblocks'⟩ :=
        ih (fun r hr => h r (List.mem_cons_of_mem routine hr)) hfinal
          (hnodup.sublist hbalanced.sublist)
      rw [removeGenerated, hs, cuts, hs]
      simp only [Sweep.run_eq_finish]
      refine ⟨?_, ?_, hbalanced.append hbalanced', ?_⟩
      · rw [Cut.removeAll_append]
        exact hrest
      · rw [hcount', hcount, List.length_append, Nat.zero_add]
      · rw [Cut.blocks_append, List.forall_mem_append]
        refine ⟨?_, ?_⟩
        · intro block hb
          exact ⟨routine, by simp, signature, hs, hblocks block hb⟩
        · intro block hb
          obtain ⟨r, hr, hexists⟩ := hblocks' block hb
          exact ⟨r, List.mem_cons_of_mem routine hr, hexists⟩

def kept (lines : List String) : List (Fin lines.length) :=
  Cut.removeAll (cuts catalog lines) (List.finRange lines.length)

def taken (lines : List String) : List (List (Fin lines.length)) :=
  Cut.blocks (cuts catalog lines) (List.finRange lines.length)

/-- A line with a signature of the catalog below a line that is no marker. -/
def IsAuthorHeading (lines : List String) (i : Fin lines.length) : Prop :=
  (∃ routine ∈ catalog, ∃ signature, routine.signature? = some signature ∧
    carries signature lines[i] = true) ∧
  ∀ j : Fin lines.length, j.val + 1 = i.val → Marker.isMarker lines[j] = false

theorem IsAuthorHeading.isBlank_eq {lines : List String} {i : Fin lines.length}
    (h : IsAuthorHeading lines i) : isBlank lines[i] = false := by
  obtain ⟨⟨routine, hr, signature, hs, hcarries⟩, -⟩ := h
  cases hb : isBlank lines[i] with
  | false => rfl
  | true =>
      rw [carries_of_mem_catalog hr hs (looksLikeHeading_of_isBlank hb)] at hcarries
      simp at hcarries

/-- The cleanup leaves the kept lines in their order, and keeps all headings of the author's
exactly if none stands in a block that is taken out. Such a block starts with a marker that
stood, when it was taken out, directly above a signature of the catalog, and goes on to where
its nesting closes. -/
theorem authorHeadings_kept_iff (lines : List String) :
    (removeGenerated catalog lines).1.lines = (kept lines).map lines.get ∧
      (kept lines).Sublist (List.finRange lines.length) ∧
      (removeGenerated catalog lines).2 = (taken lines).length ∧
      (∀ block ∈ taken lines, ∃ routine ∈ catalog, ∃ signature,
        routine.signature? = some signature ∧
          Sweep.IsCopy signature (block.map lines.get)) ∧
      ((∀ i, IsAuthorHeading lines i → i ∈ kept lines) ↔
        ∀ block ∈ taken lines, ∀ i ∈ block, ¬ IsAuthorHeading lines i) := by
  have hlines : lines = (List.finRange lines.length).map lines.get :=
    (List.map_get_finRange lines).symm
  obtain ⟨hfinal, hcount, hbalanced, hblocks⟩ := removeGenerated_cuts
    signature?_of_mem_catalog hlines (List.nodup_finRange lines.length)
  have hiff : ∀ i, IsAuthorHeading lines i →
      (i ∈ kept lines ↔ ∀ block ∈ taken lines, i ∉ block) := fun i hi =>
    hbalanced.mem_iff i (List.mem_finRange i) hi.isBlank_eq
  refine ⟨hfinal, hbalanced.sublist, ?_, hblocks, ?_, ?_⟩
  · rw [hcount, taken, Cut.length_blocks]
  · intro hkept block hb i hin hi
    exact (hiff i hi).1 (hkept i hi) block hb hin
  · intro hfree i hi
    exact (hiff i hi).2 fun block hb hin => hfree block hb i hin hi

theorem removeGenerated_of_isBlock {block : List String} (hb : IsBlock block)
    (hcopy : copiesAny catalog block = true) : (removeGenerated catalog block).1.lines = [] := by
  have hnone : ∀ line ∈ ([] : List String), Marker.isMarker line = false := by simp
  have hcalm : ∀ routine ∈ catalog, ∃ signature, routine.signature? = some signature ∧
      Passage.Calm signature [⟨block, []⟩] ∧ Passage.Leads signature [] [⟨block, []⟩] := by
    intro routine hr
    obtain ⟨signature, hs⟩ := Option.isSome_iff_exists.1 (signature?_of_mem_catalog routine hr)
    exact ⟨signature, hs, (quiet_of_unmarked hnone).stuck, quiet_of_unmarked hnone,
      endsUnmarked_of_unmarked hnone⟩
  obtain ⟨hlines, -⟩ := removeGenerated_remaining (fun _ => false) hcalm (by simpa using hb)
  simpa [Passage.remaining, Passage.rest, hcopy] using hlines

/-- A generated routine that lost its body takes the author's routine below it along. -/
theorem authorHeading_lost :
    let lines := ["\x7b innotool:auto-generated NeedsDotNet \x7d", "function NeedsDotNet: Boolean;",
      "function PrepareToInstall(var NeedsRestart: Boolean): String;", "begin", "end;"]
    IsAuthorHeading lines ⟨2, by decide⟩ ∧ (removeGenerated catalog lines).1.lines = [] := by
  intro lines
  have hmarked : Marker.isMarker "\x7b innotool:auto-generated NeedsDotNet \x7d" = true := by
    decide +kernel
  have hunmarked : ∀ line ∈ lines.tail, Marker.isMarker line = false := by decide +kernel
  have hblock : IsBlock lines := .intro _ _ _ hmarked hunmarked (by decide +kernel)
  have hcopy : copiesAny catalog lines = true := by
    rw [copiesAny, List.any_eq_true]
    refine ⟨needsDotNet, by simp [catalog], ?_⟩
    have hsig : needsDotNet.signature? = some "function NeedsDotNet: Boolean;" := rfl
    simp [hsig, opensCopy, lines, hmarked]
  refine ⟨⟨⟨prepareToInstall, by simp [catalog], _, rfl, carries_self _⟩, ?_⟩,
    removeGenerated_of_isBlock hblock hcopy⟩
  intro j hj
  have hone : j = ⟨1, by decide⟩ := Fin.ext (by simpa using hj)
  rw [hone]
  exact hunmarked _ (by simp [lines])

end SetupForge.Routine
