import SetupForge.Proofs.Sync.Resting

/-! # Syncs one after another

Whatever syncs came before, the cleanup of the next one leads back to the lines without
generated code; so the result of several syncs is that of the last one alone.
-/

namespace SetupForge.GeneratedCode

open Text Lines Routine

variable {lines : List String}

def syncAll (requests : List Request) (lines : List String) : List String :=
  requests.foldl (fun lines request => request.sync lines) lines

theorem syncAll_append_singleton (requests : List Request) (last : Request) :
    syncAll (requests ++ [last]) lines = last.sync (syncAll requests lines) := by
  simp [syncAll, List.foldl_append]

/-- A sync depends on its lines only through what the cleanup leaves of them. -/
theorem sync_congr {other : List String} (h : bare lines = bare other) (request : Request) :
    request.sync lines = request.sync other := by
  rw [sync_eq, sync_eq, h]

/-- A script with a run section and a code section that starts with text, without generated
code. -/
structure Authored (lines : List String) : Prop where
  run : lines.any isRunHeader = true
  code : ∃ first rest, Section.body? codeSection lines = some (first :: rest) ∧
    isBlank first = false
  unmarked : ∀ line ∈ lines, Marker.isMarker line = false
  unstepped : ∀ line ∈ lines, RunStep.isStep runtimeFamily line = false

namespace Authored

theorem removeAll_eq (h : Authored lines) : RunStep.removeAll runtimeFamily lines = lines := by
  refine List.filter_eq_self.2 fun line hl => ?_
  rw [h.unstepped line hl]
  rfl

theorem bare_eq (h : Authored lines) : bare lines = lines := by
  rw [bare, removeGenerated_of_stuck (resting_of_unmarked h.unmarked).stuck_catalog, h.removeAll_eq]

theorem exists_code (h : Authored lines) :
    ∃ above head first rest, lines = above ++ head :: first :: rest ∧
      above.any isCodeHeader = false ∧ isCodeHeader head = true ∧ isBlank first = false := by
  obtain ⟨first, rest, hbody, hfirst⟩ := h.code
  rw [Section.body?, start?_code] at hbody
  split at hbody
  · rename_i start last hstart hlast
    obtain ⟨above, head, below, rfl, habove, hhead, rfl⟩ := exists_first_of_indexFrom? hstart
    rw [if_neg (by decide), Option.some.injEq, slice] at hbody
    have hget : (above ++ head :: below)[above.length + 1]? = some first := by
      have htake := congrArg (·[0]?) hbody
      simp only [List.getElem?_drop, Nat.add_zero, List.getElem?_cons_zero] at htake
      rw [List.getElem?_take] at htake
      split at htake
      · exact htake
      · simp at htake
    rw [List.getElem?_append_right (by omega), Nat.add_sub_cancel_left] at hget
    cases below with
    | nil => simp at hget
    | cons line below =>
        refine ⟨above, head, line, below, rfl, habove, hhead, ?_⟩
        have heq : line = first := by simpa using hget
        rw [heq]
        exact hfirst
  · simp at hbody

theorem any_isCodeHeader (h : Authored lines) : lines.any isCodeHeader = true := by
  obtain ⟨above, head, first, rest, rfl, -, hhead, -⟩ := h.exists_code
  simp [hhead]

theorem dropBlanksBelow_eq (h : Authored lines) :
    dropBlanksBelow isCodeHeader lines = lines := by
  obtain ⟨above, head, first, rest, rfl, habove, hhead, hfirst⟩ := h.exists_code
  rw [dropBlanksBelow_first habove hhead, List.dropWhile_cons_of_neg (by simp [hfirst])]

theorem sections_eq (h : Authored lines) (request : Request) :
    request.sections lines = lines := by
  rw [Request.sections, Request.withRun, h.run, Bool.or_true, if_pos rfl, withCode,
    h.any_isCodeHeader, if_pos rfl]

theorem dropEmptyCode_eq (h : Authored lines) : (dropEmptyCode lines).1 = lines := by
  obtain ⟨first, rest, hbody, hfirst⟩ := h.code
  have hempty : Section.isEmpty codeSection lines = false := by
    rw [Section.isEmpty, hbody]
    simp [hfirst]
  rw [dropEmptyCode, hempty, Bool.and_false]
  rfl

/-- The cleanup after a sync leads back to the script. -/
theorem bare_sync (h : Authored lines) (request : Request) :
    bare (request.sync lines) = lines := by
  cases hp : request.level.providesRuntime with
  | false => rw [sync_of_not_provides hp, h.bare_eq, h.dropEmptyCode_eq, h.bare_eq]
  | true =>
      cases hf : request.fails with
      | true => rw [sync_of_fails hp hf, h.bare_eq, h.bare_eq]
      | false =>
          have hrest : Resting (request.stepped lines) :=
            resting_of_unmarked (unmarked_stepped h.unmarked)
          rw [sync_of_not_fails hp hf, h.bare_eq, h.sections_eq,
            bare_full hrest h.any_isCodeHeader (fun _ => h.run) h.removeAll_eq,
            h.dropBlanksBelow_eq, ite_self]

theorem bare_syncAll (h : Authored lines) (requests : List Request) :
    bare (syncAll requests lines) = lines := by
  induction requests using List.reverseRecOn with
  | nil => exact h.bare_eq
  | append_singleton requests last ih =>
      have hsame : bare (syncAll requests lines) = bare lines := by rw [ih, h.bare_eq]
      rw [syncAll_append_singleton, sync_congr hsame, h.bare_sync]

end Authored

/-- On a script with a run section and a code section that starts with text, without generated
code, syncs have the result of the last one. -/
theorem syncAll_eq_sync_last {first : String} {rest : List String}
    (hrun : (Section.start? runSection lines).isSome = true)
    (hcode : Section.body? codeSection lines = some (first :: rest))
    (hfirst : isBlank first = false)
    (hmarkers : ∀ line ∈ lines, Marker.isMarker line = false)
    (hsteps : ∀ line ∈ lines, RunStep.isStep runtimeFamily line = false)
    (requests : List Request) (hne : requests ≠ []) :
    syncAll requests lines = (requests.getLast hne).sync lines := by
  have hany : lines.any isRunHeader = true := by
    cases ha : lines.any isRunHeader with
    | true => rfl
    | false => rw [start?_run, indexFrom?_zero_eq_none_iff.2 ha] at hrun; simp at hrun
  have h : Authored lines := ⟨hany, ⟨first, rest, hcode, hfirst⟩, hmarkers, hsteps⟩
  have hsame : bare (syncAll requests.dropLast lines) = bare lines := by
    rw [h.bare_syncAll, h.bare_eq]
  conv => lhs; rw [← List.dropLast_append_getLast hne]
  rw [syncAll_append_singleton, sync_congr hsame]

/-- A script whose author overrides one routine, after three syncs of different levels. -/
theorem syncAll_eq_sync_last_threeSyncs :
    let lines := ["[Run]", "[Code]", "function needsdotnet: boolean;", "begin", "end;", ""]
    let requests : List Request :=
      [⟨8, .netInstallDownload⟩, ⟨8, .minimum⟩, ⟨9, .netInstallIncluded⟩]
    (Section.start? runSection lines).isSome = true ∧
      Section.body? codeSection lines =
        some ("function needsdotnet: boolean;" :: ["begin", "end;", ""]) ∧
      isBlank "function needsdotnet: boolean;" = false ∧
      (∀ line ∈ lines, Marker.isMarker line = false) ∧
      (∀ line ∈ lines, RunStep.isStep runtimeFamily line = false) ∧
      syncAll requests lines = Request.sync ⟨9, .netInstallIncluded⟩ lines := by
  intro lines requests
  have hrun : (Section.start? runSection lines).isSome = true := by decide +kernel
  have hcode : Section.body? codeSection lines =
      some ("function needsdotnet: boolean;" :: ["begin", "end;", ""]) := by decide +kernel
  have hfirst : isBlank "function needsdotnet: boolean;" = false := by decide +kernel
  have hmarkers : ∀ line ∈ lines, Marker.isMarker line = false := by decide +kernel
  have hsteps : ∀ line ∈ lines, RunStep.isStep runtimeFamily line = false := by decide +kernel
  exact ⟨hrun, hcode, hfirst, hmarkers, hsteps,
    syncAll_eq_sync_last hrun hcode hfirst hmarkers hsteps requests (by simp [requests])⟩

end SetupForge.GeneratedCode
