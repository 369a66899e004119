import SetupForge.Proofs.Sync.Additions

/-! # Raising and dropping the level

On lines without a code section a sync at a level that provides the runtime writes a code section
of its own at the end. A later sync at a lower level takes the copies out, finds that section
empty and takes it out too; only a header of the run section stays where there was none.
-/

namespace SetupForge.GeneratedCode

open Text Lines Routine

variable {raised lowered request : Request} {lines : List String}

theorem Request.installer_isEmpty (request : Request) :
    request.installer.isEmpty = !({} : RuntimeSettings).knows request.major := by
  unfold Request.installer RuntimeSettings.installerName RuntimeSettings.knows
  cases hi : ({} : RuntimeSettings).installer? request.major with
  | none => rfl
  | some installer =>
      have hnamed : ∀ installer ∈ defaultInstallers, installer.fileName.isEmpty = false := by
        decide
      have hmem : installer ∈ defaultInstallers := by
        simpa using List.mem_of_find?_eq_some hi
      exact hnamed installer hmem

theorem bare_of_authored (hmarkers : ∀ line ∈ lines, Marker.isMarker line = false)
    (hsteps : ∀ line ∈ lines, RunStep.isStep runtimeFamily line = false) : bare lines = lines := by
  rw [bare_of_unmarked hmarkers]
  refine List.filter_eq_self.2 fun line hl => ?_
  rw [hsteps line hl]
  rfl

theorem any_isCodeHeader_withRun (h : lines.any isCodeHeader = false) :
    (request.withRun lines).any isCodeHeader = false := by
  unfold Request.withRun
  split
  · exact h
  · rw [insertAbove_of_none h, List.any_append, h]
    have hrun := isCodeHeader_of_isRunHeader isRunHeader_header
    simp [hrun]

theorem sections_of_no_code (h : lines.any isCodeHeader = false) :
    request.sections lines = request.withRun lines ++ [Section.header codeSection] := by
  rw [Request.sections, withCode, any_isCodeHeader_withRun h]
  rfl

theorem bare_sync_of_no_code (hp : request.level.providesRuntime = true)
    (hf : request.fails = false) (hcode : lines.any isCodeHeader = false)
    (hmarkers : ∀ line ∈ lines, Marker.isMarker line = false)
    (hsteps : ∀ line ∈ lines, RunStep.isStep runtimeFamily line = false) :
    bare (request.sync lines) = request.withRun lines ++ [Section.header codeSection] := by
  have hbare := bare_of_authored hmarkers hsteps
  have hrest := resting_ready hmarkers request
  rw [Request.ready, hbare] at hrest
  have hkept : RunStep.removeAll runtimeFamily lines = lines := by
    rw [← bare_of_unmarked hmarkers, hbare]
  have hdrop : dropBlanksBelow isCodeHeader (request.sections lines) = request.sections lines := by
    rw [sections_of_no_code hcode]
    exact dropBlanksBelow_first (any_isCodeHeader_withRun hcode) isCodeHeader_header
  rw [sync_of_not_fails hp hf, hbare, bare_full hrest (any_isCodeHeader_withCode _)
    (fun hi => any_isRunHeader_sections hi lines) (removeAll_sections request hkept), hdrop,
    ite_self, sections_of_no_code hcode]

/-- Raising the level of a script without a code section and dropping it again leads back to the
script, with a header of the run section at its end if there was none and an installer was to be
started. The first sync fails only over a number that cannot be written, the second one never. -/
theorem sync_lowered_sync_raised (hcode : Section.start? codeSection lines = none)
    (hmarkers : ∀ line ∈ lines, Marker.isMarker line = false)
    (hsteps : ∀ line ∈ lines, RunStep.isStep runtimeFamily line = false)
    (hraised : raised.level.providesRuntime = true)
    (hlowered : lowered.level.providesRuntime = false) :
    (GeneratedCode.sync raised.target lines).failure =
        (if raised.fails then some .tooManyDigits else none) ∧
      (GeneratedCode.sync lowered.target (raised.sync lines)).failure = none ∧
      lowered.sync (raised.sync lines) =
        if Section.start? runSection lines = none ∧
            ({} : RuntimeSettings).knows raised.major = true then
          lines ++ [Section.header runSection]
        else lines := by
  have hnone : lines.any isCodeHeader = false := by
    rw [start?_code] at hcode
    exact indexFrom?_zero_eq_none_iff.1 hcode
  have hbare := bare_of_authored hmarkers hsteps
  refine ⟨by rw [sync_failure, hraised, Bool.true_and], by rw [sync_failure, hlowered]; rfl, ?_⟩
  rw [sync_of_not_provides hlowered, dropEmptyCode_eq_withoutEmptyCode]
  simp only [start?_run, indexFrom?_zero_eq_none_iff]
  cases hf : raised.fails with
  | true =>
      have hunknown : ({} : RuntimeSettings).knows raised.major = false := by
        rw [Request.fails, Bool.and_eq_true, Request.installer_isEmpty] at hf
        simpa using hf.1
      rw [sync_of_fails hraised hf, hbare, hbare, withoutEmptyCode_of_none hnone]
      simp [hunknown]
  | false =>
      rw [bare_sync_of_no_code hraised hf hnone hmarkers hsteps,
        withoutEmptyCode_first (any_isCodeHeader_withRun hnone) isCodeHeader_header]
      simp only [List.takeWhile_nil, List.all_nil, if_true, List.dropWhile_nil, List.append_nil]
      rw [Request.withRun, Request.installer_isEmpty, insertAbove_of_none hnone]
      cases lines.any isRunHeader <;> cases ({} : RuntimeSettings).knows raised.major <;> rfl

/-- A script without either section that ends in a blank line and overrides a routine. -/
theorem sync_lowered_sync_raised_override :
    let lines := ["[Setup]", "FUNCTION needsdotnet: Boolean; ", "begin", "end;", ""]
    let raised : Request := ⟨8, .netInstallDownload⟩
    let lowered : Request := ⟨-1, .standAlone⟩
    Section.start? codeSection lines = none ∧
      (∀ line ∈ lines, Marker.isMarker line = false) ∧
      (∀ line ∈ lines, RunStep.isStep runtimeFamily line = false) ∧
      raised.level.providesRuntime = true ∧ lowered.level.providesRuntime = false ∧
      lowered.sync (raised.sync lines) = lines ++ ["[Run]"] := by
  intro lines raised lowered
  have hcode : Section.start? codeSection lines = none := by decide +kernel
  have hmarkers : ∀ line ∈ lines, Marker.isMarker line = false := by decide +kernel
  have hsteps : ∀ line ∈ lines, RunStep.isStep runtimeFamily line = false := by decide +kernel
  have hrun : Section.start? runSection lines = none := by decide +kernel
  have hraised : raised.level.providesRuntime = true := rfl
  have hlowered : lowered.level.providesRuntime = false := rfl
  obtain ⟨-, -, hlines⟩ := sync_lowered_sync_raised hcode hmarkers hsteps hraised hlowered
  refine ⟨hcode, hmarkers, hsteps, rfl, rfl, ?_⟩
  rw [hlines, if_pos ⟨hrun, by decide +kernel⟩]
  rfl

end SetupForge.GeneratedCode
