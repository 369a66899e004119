import SetupForge.Proofs.Sync.Resting

/-! # The same sync once more

A second sync with the same request repeats the first one unless its cleanup takes out more than
the first one put in: a blank line of the author's below the copies, a second code section that
holds nothing, or a block that ends only because of the copies below it.
-/

namespace SetupForge.GeneratedCode

open Text Lines Routine

variable {request : Request} {lines : List String}

/-! ## Lines without generated code -/

theorem bare_sublist (lines : List String) : (bare lines).Sublist lines :=
  (RunStep.removeAll_sublist _ _).trans (removeGenerated_lines catalog lines).1

theorem removeAll_of_sublist {other : List String} (h : other.Sublist (bare lines)) :
    RunStep.removeAll runtimeFamily other = other := by
  refine List.filter_eq_self.2 fun line hl => ?_
  exact (List.mem_filter.1 (h.subset hl)).2

theorem bare_eq_self_iff (h : RunStep.removeAll runtimeFamily lines = lines) :
    bare lines = lines ↔ (removeGenerated catalog lines).2 = 0 := by
  rw [← removeGenerated_eq_self_iff]
  constructor
  · intro hbare
    have hsub := (removeGenerated_lines catalog lines).1
    have hlength := (RunStep.removeAll_sublist runtimeFamily
      (removeGenerated catalog lines).1.lines).length_le
    rw [show RunStep.removeAll runtimeFamily (removeGenerated catalog lines).1.lines = lines
      from hbare] at hlength
    exact hsub.eq_of_length_le hlength
  · intro hsame
    rw [bare, hsame, h]

/-! ## Levels that generate nothing -/

theorem le_endFrom {start : Nat} (h : start < lines.length) :
    start ≤ Section.endFrom (start + 1) lines := by
  unfold Section.endFrom
  split
  · rename_i next hnext
    have := (indexFrom?_lt hnext).1
    omega
  · omega

theorem dropEmptyCode_of_empty {start : Nat} (hs : Section.start? codeSection lines = some start)
    (he : Section.isEmpty codeSection lines = true) :
    ∃ last, start ≤ last ∧ (dropEmptyCode lines).1 = removeRange start last lines := by
  have hunnamed : Section.isUnnamed codeSection = false := by decide
  have hend : Section.end? codeSection lines = some (Section.endFrom (start + 1) lines) := by
    unfold Section.end?
    rw [hunnamed, hs]
    rfl
  refine ⟨_, le_endFrom (Section.start?_lt hs), ?_⟩
  rw [dropEmptyCode, hs, he, Section.remove, hs, hend, hunnamed]
  rfl

theorem dropEmptyCode_of_not_empty (h : ¬ ((Section.start? codeSection lines).isSome = true ∧
    Section.isEmpty codeSection lines = true)) : (dropEmptyCode lines).1 = lines := by
  rw [dropEmptyCode, if_neg (by simpa using h)]

theorem dropEmptyCode_sublist (lines : List String) : (dropEmptyCode lines).1.Sublist lines := by
  by_cases h : (Section.start? codeSection lines).isSome = true ∧
      Section.isEmpty codeSection lines = true
  · obtain ⟨start, hs⟩ := Option.isSome_iff_exists.1 h.1
    obtain ⟨last, hle, hdrop⟩ := dropEmptyCode_of_empty hs h.2
    rw [hdrop]
    exact removeRange_sublist hle lines
  · rw [dropEmptyCode_of_not_empty h]

theorem dropEmptyCode_eq_self_iff :
    (dropEmptyCode lines).1 = lines ↔
      ¬ ((Section.start? codeSection lines).isSome = true ∧
        Section.isEmpty codeSection lines = true) := by
  refine ⟨?_, dropEmptyCode_of_not_empty⟩
  rintro heq ⟨hsome, he⟩
  obtain ⟨start, hs⟩ := Option.isSome_iff_exists.1 hsome
  obtain ⟨last, hle, hdrop⟩ := dropEmptyCode_of_empty hs he
  have hlt := Section.start?_lt hs
  have hlength := congrArg List.length heq
  rw [hdrop, removeRange, List.length_append, List.length_take, List.length_drop] at hlength
  omega

/-! ## Levels that provide the runtime -/

theorem missing_sections (request : Request) (lines : List String) :
    request.missing (request.sections lines) = request.missing lines := by
  refine List.filter_congr fun routine hr => ?_
  have hmem := (neededAt_sublist _ _).subset hr
  have hinert : ∀ header, Inert header → ∀ signature, routine.signature? = some signature →
      ∀ line ∈ [header], carries signature line = false := by
    intro header hheader signature hs line hl
    rw [List.mem_singleton.1 hl]
    exact carries_of_mem_catalog hmem hs hheader.2
  have hrun : lacks (request.withRun lines) routine = lacks lines routine := by
    unfold Request.withRun
    split
    · rfl
    · exact lacks_insertAbove (hinert _ (Section.inert_of_isHeaderFor isRunHeader_header))
  rw [← hrun, Request.sections, withCode]
  split
  · rfl
  · rename_i hc
    have hnone : (request.withRun lines).any isCodeHeader = false := by simpa using hc
    rw [← insertAbove_of_none hnone]
    exact lacks_insertAbove (hinert _ (Section.inert_of_isHeaderFor isCodeHeader_header))

theorem blankBelow_sections (request : Request) (lines : List String) :
    blankBelow isCodeHeader (request.sections lines) = blankBelow isCodeHeader lines := by
  have hrun : blankBelow isCodeHeader (request.withRun lines) =
      blankBelow isCodeHeader lines := by
    unfold Request.withRun
    split
    · rfl
    · exact blankBelow_insertAbove (isCodeHeader_of_isRunHeader isRunHeader_header)
  rw [← hrun, Request.sections, withCode]
  split
  · rfl
  · rename_i hc
    exact blankBelow_concat (by simpa using hc)

theorem mem_sections {line : String} (h : line ∈ request.sections lines) :
    line = Section.header runSection ∨ line = Section.header codeSection ∨ line ∈ lines := by
  have hrun : ∀ line ∈ request.withRun lines,
      line = Section.header runSection ∨ line ∈ lines := by
    intro line hl
    unfold Request.withRun at hl
    split at hl
    · exact Or.inr hl
    · simpa [mem_insertAbove] using hl
  rw [Request.sections, withCode] at h
  split at h
  · exact (hrun line h).imp_right Or.inr
  · rcases List.mem_append.1 h with h | h
    · exact (hrun line h).imp_right Or.inr
    · exact Or.inr (Or.inl (List.mem_singleton.1 h))

theorem resting_ready (h : ∀ line ∈ lines, Marker.isMarker line = false) (request : Request) :
    Resting (request.ready lines) := by
  refine resting_of_unmarked (unmarked_stepped fun line hl => ?_)
  rcases mem_sections hl with rfl | rfl | hl
  · exact (Section.inert_of_isHeaderFor isRunHeader_header).1
  · exact (Section.inert_of_isHeaderFor isCodeHeader_header).1
  · exact h line ((bare_sublist lines).subset hl)

theorem removeAll_sections (request : Request)
    (h : RunStep.removeAll runtimeFamily lines = lines) :
    RunStep.removeAll runtimeFamily (request.sections lines) = request.sections lines := by
  have hrun : RunStep.isStep runtimeFamily (Section.header runSection) = false := by
    decide
  have hcode : RunStep.isStep runtimeFamily (Section.header codeSection) = false := by
    decide
  refine List.filter_eq_self.2 fun line hl => ?_
  rcases mem_sections hl with rfl | rfl | hl
  · rw [hrun]
    rfl
  · rw [hcode]
    rfl
  · rw [← h] at hl
    exact (List.mem_filter.1 hl).2

theorem sections_of_any (hcode : lines.any isCodeHeader = true)
    (hrun : request.installer.isEmpty = false → lines.any isRunHeader = true) :
    request.sections lines = lines := by
  have hwith : request.withRun lines = lines := by
    unfold Request.withRun
    cases hi : request.installer.isEmpty with
    | true => rfl
    | false => rw [hrun hi]; rfl
  rw [Request.sections, hwith, withCode, if_pos hcode]

theorem any_isRunHeader_sections (hi : request.installer.isEmpty = false)
    (lines : List String) : (request.sections lines).any isRunHeader = true := by
  have hany := Request.any_isRunHeader_withRun hi lines
  rw [Request.sections, withCode]
  split
  · exact hany
  · rw [List.any_append, hany]
    rfl

theorem missing_dropBlanksBelow (request : Request) (lines : List String) :
    request.missing (dropBlanksBelow isCodeHeader lines) = request.missing lines := by
  refine List.filter_congr fun routine hr => ?_
  have hmem := (neededAt_sublist _ _).subset hr
  unfold lacks
  cases hs : routine.signature? with
  | none => rfl
  | some signature =>
      have hblank : ∀ line, isBlank line = true → carries signature line = false := fun line hb =>
        carries_of_mem_catalog hmem hs (looksLikeHeading_of_isBlank hb)
      rw [Option.any_some, Option.any_some, any_dropBlanksBelow hblank]

theorem any_header_dropBlanksBelow (name : String) (lines : List String) :
    (dropBlanksBelow isCodeHeader lines).any (Section.isHeaderFor name) =
      lines.any (Section.isHeaderFor name) := by
  refine any_dropBlanksBelow fun line hb => ?_
  cases hh : Section.isHeaderFor name line with
  | false => rfl
  | true =>
      rw [Section.isBlank_of_isHeaderFor hh] at hb
      simp at hb

theorem length_full (hcode : lines.any isCodeHeader = true)
    (hrun : request.installer.isEmpty = false → lines.any isRunHeader = true) :
    (request.full lines).length = (request.copies (request.missing lines)).length +
      ((if request.installer.isEmpty then 0 else 1) + lines.length) := by
  have hany : (request.stepped lines).any isCodeHeader = true := by
    rw [Request.any_isCodeHeader_stepped hrun, hcode]
  rw [Request.full, length_insertBelow hany]
  congr 1
  unfold Request.stepped
  cases hi : request.installer.isEmpty with
  | true => simp
  | false => simp [length_insertBelow (hrun hi)]

/-- A second sync repeats the first one unless it takes out a blank line of the author's. -/
theorem sync_sync_of_resting (hp : request.level.providesRuntime = true)
    (hf : request.fails = false)
    (h : Resting (request.ready lines)) :
    request.sync (request.sync lines) = request.sync lines ↔
      request.missing (bare lines) = [] ∨ blankBelow isCodeHeader (bare lines) = false := by
  have hcode : (request.sections (bare lines)).any isCodeHeader = true :=
    any_isCodeHeader_withCode _
  have hrun : request.installer.isEmpty = false →
      (request.sections (bare lines)).any isRunHeader = true := fun hi =>
    any_isRunHeader_sections hi (bare lines)
  have hsteps := removeAll_sections request
    (removeAll_of_sublist (List.Sublist.refl (bare lines)))
  have hbare := bare_full h hcode hrun hsteps
  rw [missing_sections] at hbare
  rw [sync_of_not_fails hp hf, sync_of_not_fails hp hf, hbare,
    ← blankBelow_sections request, ← dropBlanksBelow_eq_self_iff]
  generalize hX : request.sections (bare lines) = X at *
  by_cases hm : request.missing (bare lines) = []
  · rw [if_pos hm, sections_of_any hcode hrun]
    simp [hm]
  · have hcode' : (dropBlanksBelow isCodeHeader X).any isCodeHeader = true :=
      (any_header_dropBlanksBelow codeSection X).trans hcode
    have hrun' : request.installer.isEmpty = false →
        (dropBlanksBelow isCodeHeader X).any isRunHeader = true := fun hi =>
      (any_header_dropBlanksBelow runSection X).trans (hrun hi)
    rw [if_neg hm, sections_of_any hcode' hrun']
    simp only [hm, false_or]
    -- both results hold the same copies, so their lengths tell whether a blank line was lost
    refine ⟨fun heq => ?_, fun heq => by rw [heq]⟩
    have hlength := congrArg List.length heq
    rw [length_full hcode' hrun', length_full hcode hrun, missing_dropBlanksBelow] at hlength
    exact dropBlanksBelow_sublist.eq_of_length (by omega)

theorem sync_sync_of_not_provides (hp : request.level.providesRuntime = false) :
    request.sync (request.sync lines) = request.sync lines ↔
      (removeGenerated catalog (request.sync lines)).2 = 0 ∧
        ¬ ((Section.start? codeSection (request.sync lines)).isSome = true ∧
          Section.isEmpty codeSection (request.sync lines) = true) := by
  have hsub : (request.sync lines).Sublist (bare lines) := by
    rw [sync_of_not_provides hp]
    exact dropEmptyCode_sublist _
  rw [← bare_eq_self_iff (removeAll_of_sublist hsub), ← dropEmptyCode_eq_self_iff]
  generalize request.sync lines = first
  rw [sync_of_not_provides hp]
  constructor
  · intro heq
    have hle := (dropEmptyCode_sublist (bare first)).length_le
    rw [heq] at hle
    have hbare := (bare_sublist first).eq_of_length_le hle
    rw [hbare] at heq
    exact ⟨hbare, heq⟩
  · rintro ⟨hbare, hempty⟩
    rw [hbare, hempty]

theorem sync_sync_of_fails (hp : request.level.providesRuntime = true)
    (hf : request.fails = true) :
    request.sync (request.sync lines) = request.sync lines ↔
      (removeGenerated catalog (request.sync lines)).2 = 0 := by
  have hsub : (request.sync lines).Sublist (bare lines) := by
    rw [sync_of_fails hp hf]
  rw [← bare_eq_self_iff (removeAll_of_sublist hsub)]
  generalize request.sync lines = first
  rw [sync_of_fails hp hf]

/-! ## Routines put in again -/

/-- A sync of the second lines puts in what one of the first lines puts in, and what the first
lines hold already when they are ready. -/
def Request.Covers (request : Request) (first second : List String) : Prop :=
  ∃ extra, request.missing (bare second) = request.missing (bare first) ++ extra ∧
    request.ready first = insertBelow isCodeHeader (request.copies extra) (request.ready second)

theorem eq_of_block_append {a b : Routine} {after after' : List String} (ha : a ∈ catalog)
    (hb : b ∈ catalog) (h : request.block a ++ after = request.block b ++ after') : a = b := by
  obtain ⟨head, body, shape, hlaid⟩ := exists_laid_of_mem_catalog ha
  obtain ⟨head', body', shape', hlaid'⟩ := exists_laid_of_mem_catalog hb
  rw [Request.block, Request.block, hlaid.map_fill, hlaid'.map_fill] at h
  simp only [List.cons_append, List.cons.injEq] at h
  have hcarries : carries head head' = true := by
    rw [h.2.1, carries]
    exact beq_self_eq_true _
  exact eq_of_carries ha hb hlaid.signature?_eq hlaid'.signature?_eq hcarries

theorem exists_of_copies_eq_append {all first : List Routine} {mid : List String}
    (hall : ∀ routine ∈ all, routine ∈ catalog) (hfirst : ∀ routine ∈ first, routine ∈ catalog)
    (h : request.copies all = request.copies first ++ mid) :
    ∃ extra, all = first ++ extra ∧ mid = request.copies extra := by
  induction first generalizing all with
  | nil => exact ⟨all, rfl, h.symm⟩
  | cons routine first ih =>
      cases all with
      | nil => simp [Request.copies] at h
      | cons other all =>
          have hcons : ∀ (r : Routine) rs, request.copies (r :: rs) =
              request.block r ++ ("" :: request.copies rs) := by
            intro r rs
            simp [Request.copies]
          rw [hcons, hcons, List.append_assoc] at h
          have heq : other = routine := eq_of_block_append (hall other (by simp))
            (hfirst routine (by simp)) h
          subst heq
          have hrest := List.append_cancel_left h
          rw [List.cons_append, List.cons.injEq] at hrest
          obtain ⟨extra, rfl, hmid⟩ := ih (fun r hr => hall r (List.mem_cons_of_mem other hr))
            (fun r hr => hfirst r (List.mem_cons_of_mem other hr)) hrest.2
          exact ⟨extra, rfl, hmid⟩

/-- The sync of a usual target puts what is missing below the header of the code section. -/
theorem sync_of_provides {target : Target} (husual : target.IsUsual)
    (hp : target.level.providesRuntime = true) (hf : target.request.fails = false)
    (lines : List String) :
    (GeneratedCode.sync target lines).lines =
      insertBelow isCodeHeader (target.copies (target.request.missing (bare lines)))
        (target.request.ready lines) := by
  rw [(sync_of_usual husual lines).2, if_pos hp, (generate_of_usual husual hf _).2,
    missing_sections]
  rfl

theorem sync_eq_insertBelow (hp : request.level.providesRuntime = true)
    (hf : request.fails = false) (lines : List String) :
    request.sync lines =
      insertBelow isCodeHeader (request.copies (request.missing (bare lines)))
        (request.ready lines) := sync_of_provides request.isUsual_target hp hf lines

theorem any_isCodeHeader_ready (request : Request) (lines : List String) :
    (request.ready lines).any isCodeHeader = true := by
  rw [Request.ready, Request.any_isCodeHeader_stepped fun hi => any_isRunHeader_sections hi _]
  exact any_isCodeHeader_withCode _

theorem covers_of_sync_eq {first second : List String}
    (hp : request.level.providesRuntime = true) (hf : request.fails = false)
    (hle : (request.copies (request.missing (bare first))).length ≤
      (request.copies (request.missing (bare second))).length)
    (h : request.sync first = request.sync second) : request.Covers first second := by
  rw [sync_eq_insertBelow hp hf, sync_eq_insertBelow hp hf] at h
  obtain ⟨mid, hcopies, hready⟩ :=
    exists_of_insertBelow_eq (any_isCodeHeader_ready request first) hle h
  obtain ⟨extra, hmissing, hmid⟩ := exists_of_copies_eq_append
    (request.missing_subset_catalog _) (request.missing_subset_catalog _) hcopies
  exact ⟨extra, hmissing, by rw [hready, hmid]⟩

theorem Request.Covers.sync_eq {first second : List String} (h : request.Covers first second)
    (hp : request.level.providesRuntime = true) (hf : request.fails = false) :
    request.sync first = request.sync second := by
  obtain ⟨extra, hmissing, hready⟩ := h
  rw [sync_eq_insertBelow hp hf, sync_eq_insertBelow hp hf, hready, hmissing,
    insertBelow_insertBelow]
  simp only [Request.copies, List.flatMap_append]

/-- Two syncs have the same result exactly if one of them puts in what the other one puts in
and what the lines of the other one hold already. -/
theorem sync_eq_sync_iff (hp : request.level.providesRuntime = true)
    (hf : request.fails = false) (first second : List String) :
    request.sync first = request.sync second ↔
      request.Covers first second ∨ request.Covers second first := by
  constructor
  · intro heq
    rcases Nat.le_total (request.copies (request.missing (bare first))).length
      (request.copies (request.missing (bare second))).length with hle | hle
    · exact Or.inl (covers_of_sync_eq hp hf hle heq)
    · exact Or.inr (covers_of_sync_eq hp hf hle heq.symm)
  · rintro (h | h)
    · exact h.sync_eq hp hf
    · exact (h.sync_eq hp hf).symm

/-- When a second sync with the same request changes nothing. -/
theorem sync_sync_iff (request : Request) (lines : List String) :
    (request.level.providesRuntime = false →
      (request.sync (request.sync lines) = request.sync lines ↔
        (removeGenerated catalog (request.sync lines)).2 = 0 ∧
          ¬ ((Section.start? codeSection (request.sync lines)).isSome = true ∧
            Section.isEmpty codeSection (request.sync lines) = true))) ∧
    (request.level.providesRuntime = true → request.fails = true →
      (request.sync (request.sync lines) = request.sync lines ↔
        (removeGenerated catalog (request.sync lines)).2 = 0)) ∧
    (request.level.providesRuntime = true → request.fails = false →
      (request.sync (request.sync lines) = request.sync lines ↔
        request.Covers (request.sync lines) lines ∨
          request.Covers lines (request.sync lines)) ∧
      (Resting (request.ready lines) →
        (request.sync (request.sync lines) = request.sync lines ↔
          request.missing (bare lines) = [] ∨ blankBelow isCodeHeader (bare lines) = false))) :=
  ⟨sync_sync_of_not_provides, sync_sync_of_fails, fun hp hf =>
    ⟨sync_eq_sync_iff hp hf _ lines, sync_sync_of_resting hp hf⟩⟩

/-- A script whose code section starts with text is left as the first sync made it. -/
theorem sync_sync_iff_textFirst :
    let request : Request := ⟨8, .netInstallIncluded⟩
    let lines := ["[Run]", "[Code]", "x", ""]
    request.level.providesRuntime = true ∧ request.fails = false ∧
      Resting (request.ready lines) ∧
      request.sync (request.sync lines) = request.sync lines := by
  intro request lines
  have hf : request.fails = false := Request.fails_of_hasText (by decide +kernel)
  have hrest : Resting (request.ready lines) := resting_ready (by decide +kernel) request
  have hblank : blankBelow isCodeHeader (bare lines) = false := by decide +kernel
  obtain ⟨-, -, hprovides⟩ := sync_sync_iff request lines
  exact ⟨rfl, hf, hrest, ((hprovides rfl hf).2 hrest).2 (Or.inr hblank)⟩

/-- A second, empty code section is lost to the second sync only, and so is a blank line at the
top of the code section. -/
theorem sync_sync_ne :
    Request.sync ⟨8, .none⟩ (Request.sync ⟨8, .none⟩ ["[Code]", "[Code]"]) ≠
        Request.sync ⟨8, .none⟩ ["[Code]", "[Code]"] ∧
      Request.sync ⟨8, .netInstallIncluded⟩
          (Request.sync ⟨8, .netInstallIncluded⟩ ["[Run]", "[Code]", "", "x"]) ≠
        Request.sync ⟨8, .netInstallIncluded⟩ ["[Run]", "[Code]", "", "x"] := by
  refine ⟨by decide +kernel, fun hsame => ?_⟩
  have hf : Request.fails ⟨8, .netInstallIncluded⟩ = false :=
    Request.fails_of_hasText (by decide +kernel)
  have hrest : Resting (Request.ready ⟨8, .netInstallIncluded⟩ ["[Run]", "[Code]", "", "x"]) :=
    resting_ready (by decide +kernel) _
  rcases (sync_sync_of_resting rfl hf hrest).1 hsame with hmissing | hblank
  · have hheading : ∀ line ∈ ["[Run]", "[Code]", "", "x"], looksLikeHeading line = false := by
      decide +kernel
    have hmem : needsDotNet ∈
        Request.missing ⟨8, .netInstallIncluded⟩ (bare ["[Run]", "[Code]", "", "x"]) :=
      Request.mem_missing_of_no_heading (by simp [catalog]) (by decide) fun line hl =>
        hheading line ((bare_sublist _).subset hl)
    rw [hmissing] at hmem
    simp at hmem
  · revert hblank
    decide +kernel

end SetupForge.GeneratedCode
