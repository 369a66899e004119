import SetupForge.Proofs.Sync.Generation

/-! # Lines at rest

Some marked signatures may survive a cleanup, because their blocks do not end. Lines are at rest
if each of them stands below the header of the code section: the routines that a sync puts
there stand above it, so the next cleanup finds them and nothing else.
-/

namespace SetupForge.GeneratedCode

open Text Lines Routine

/-- The block below a marked signature of the catalog does not end, and the code section starts
above it. -/
def Resting (lines : List String) : Prop :=
  ∀ routine ∈ catalog, ∀ signature, routine.signature? = some signature →
    ∀ above below, lines = above ++ below → opensCopy signature below = true →
      Pascal.blockLength? none false 0 below = none ∧ above.any isCodeHeader = true

theorem resting_of_unmarked {lines : List String}
    (h : ∀ line ∈ lines, Marker.isMarker line = false) : Resting lines := by
  rintro routine - signature - above below rfl hopen
  have hquiet : Quiet signature (above ++ below) := quiet_of_unmarked h
  have hfalse := hquiet above.length
  rw [List.drop_left, hopen] at hfalse
  simp at hfalse

theorem unmarked_stepped {request : Request} {lines : List String}
    (h : ∀ line ∈ lines, Marker.isMarker line = false) :
    ∀ line ∈ request.stepped lines, Marker.isMarker line = false := by
  intro line hl
  unfold Request.stepped at hl
  split at hl
  · exact h line hl
  · rcases mem_of_mem_insertBelow hl with hl | hl
    · rw [List.mem_singleton.1 hl]
      exact (RunStep.inert_entry _).1
    · exact h line hl

section Copies

variable {signature : String} {first below : List String}

theorem opensCopy_append (h : opensCopy signature first = true) (last : List String) :
    2 ≤ first.length ∧ opensCopy signature (first ++ last) = true := by
  cases first with
  | nil => simp [opensCopy] at h
  | cons marker first =>
      cases first with
      | nil => simp [opensCopy] at h
      | cons line first => exact ⟨by simp, h⟩

theorem opensCopy_cons_inert {line : String} (h : Inert line) :
    opensCopy signature (line :: below) = false := by
  cases below with
  | nil => rfl
  | cons _ _ => simp [opensCopy, h.1]

end Copies

/-! ## Copies at the top of the code section -/

namespace Request

open Passage

variable {request : Request} {signature : String} {bottom : List String}

def passages (request : Request) (bottom : List String) : List Routine → List Passage
  | [] => []
  | [routine] => [⟨request.block routine, "" :: bottom⟩]
  | routine :: next :: routines =>
      ⟨request.block routine, [""]⟩ :: passages request bottom (next :: routines)

theorem remaining_passages (routine : Routine) (routines : List Routine) :
    remaining (fun _ => false) (request.passages bottom (routine :: routines)) =
      request.copies (routine :: routines) ++ bottom := by
  induction routines generalizing routine with
  | nil => simp [passages, remaining_cons, rest, copies]
  | cons next routines ih =>
      rw [passages, remaining_cons, ih next, rest_of_not_gone rfl]
      simp [copies]

theorem remaining_passages_of_gone {gone : List String → Bool} (routine : Routine)
    (routines : List Routine)
    (h : ∀ r ∈ routine :: routines, gone (request.block r) = true) :
    remaining gone (request.passages bottom (routine :: routines)) =
      bottom.dropWhile isBlank := by
  induction routines generalizing routine with
  | nil =>
      have hgone := h routine (by simp)
      have hrest : rest gone ⟨request.block routine, "" :: bottom⟩ =
          ("" :: bottom).dropWhile isBlank := rest_of_gone hgone
      rw [passages, remaining_cons, hrest, List.dropWhile_cons_of_pos isBlank_empty,
        remaining_nil, List.append_nil]
  | cons next routines ih =>
      rw [passages, remaining_cons, rest_of_gone (h routine (by simp)),
        ih next fun r hr => h r (List.mem_cons_of_mem routine hr)]
      simp

theorem mem_passages {routines : List Routine} {passage : Passage}
    (h : passage ∈ request.passages bottom routines) :
    ∃ routine ∈ routines, passage.block = request.block routine := by
  fun_induction passages request bottom routines with
  | case1 => simp at h
  | case2 routine => exact ⟨routine, by simp, by rw [List.mem_singleton.1 h]⟩
  | case3 routine next routines ih =>
      rcases List.mem_cons.1 h with rfl | h
      · exact ⟨routine, by simp, rfl⟩
      · obtain ⟨r, hr, hblock⟩ := ih h
        exact ⟨r, List.mem_cons_of_mem routine hr, hblock⟩

theorem stuck_cons_blank (h : Stuck signature bottom) : Stuck signature ("" :: bottom) := by
  intro i hopen
  cases i with
  | zero =>
      rw [List.drop_zero, opensCopy_cons_inert ⟨rfl, rfl⟩] at hopen
      simp at hopen
  | succ i => exact h i hopen

theorem calm_passages (h : Stuck signature bottom) (routines : List Routine) :
    Calm signature (request.passages bottom routines) := by
  have hblank : ∀ line ∈ [""], Marker.isMarker line = false := by decide
  fun_induction passages request bottom routines with
  | case1 => trivial
  | case2 routine => exact stuck_cons_blank h
  | case3 routine next routines ih =>
      cases hp : passages request bottom (next :: routines) with
      | nil => exact (quiet_of_unmarked hblank).stuck
      | cons passage passages =>
          rw [hp] at ih
          exact ⟨quiet_of_unmarked hblank, endsUnmarked_of_unmarked hblank, ih⟩

end Request

/-! ## Cleaning what was generated -/

theorem exists_installer_eq {request : Request} (h : request.installer.isEmpty = false) :
    ∃ rest, request.installer = runtimeFamily ++ rest := by
  cases hi : ({} : RuntimeSettings).installer? request.major with
  | none => simp [Request.installer, RuntimeSettings.installerName, hi] at h
  | some installer =>
      have hname : request.installer = installer.fileName := by
        simp [Request.installer, RuntimeSettings.installerName, hi]
      have hmem : installer ∈ defaultInstallers := by
        simpa using List.mem_of_find?_eq_some hi
      have hfamily : ∀ installer ∈ defaultInstallers, ∃ rest,
          installer.fileName = runtimeFamily ++ rest := by
        simp [defaultInstallers, desktopRuntime, String.append_assoc]
      rw [hname]
      exact hfamily installer hmem

theorem isStep_entry {request : Request} (h : request.installer.isEmpty = false) :
    RunStep.isStep runtimeFamily (RunStep.entry request.installer) = true := by
  obtain ⟨rest, hrest⟩ := exists_installer_eq h
  rw [hrest, RunStep.isStep_entry]

theorem removeAll_stepped (request : Request) (lines : List String) :
    RunStep.removeAll runtimeFamily (request.stepped lines) =
      RunStep.removeAll runtimeFamily lines := by
  unfold Request.stepped
  split
  · rfl
  · rename_i hi
    refine filter_insertBelow fun line hl => ?_
    rw [List.mem_singleton] at hl
    rw [hl, isStep_entry (by simpa using hi)]
    rfl

theorem Resting.stuck {lines : List String} {signature : String} {routine : Routine}
    (h : Resting lines) (hr : routine ∈ catalog) (hs : routine.signature? = some signature) :
    Stuck signature lines := by
  intro i hopen
  have hsplit := (List.take_append_drop i lines).symm
  exact (h routine hr signature hs _ _ hsplit hopen).1

theorem Resting.stuck_catalog {lines : List String} (h : Resting lines) :
    ∀ routine ∈ catalog, ∃ signature, routine.signature? = some signature ∧
      Stuck signature lines := by
  intro routine hr
  obtain ⟨signature, hs⟩ := Option.isSome_iff_exists.1 (signature?_of_mem_catalog routine hr)
  exact ⟨signature, hs, h.stuck hr hs⟩

/-- Around the header of the code section: above it no copy is opened, below it none ends. -/
theorem Resting.around {above below : List String} {head signature : String} {routine : Routine}
    (h : Resting (above ++ head :: below)) (hr : routine ∈ catalog)
    (hs : routine.signature? = some signature) (habove : above.any isCodeHeader = false)
    (hhead : isCodeHeader head = true) :
    Quiet signature (above ++ [head]) ∧ EndsUnmarked (above ++ [head]) ∧
      Stuck signature below := by
  have hfront : above ++ head :: below = (above ++ [head]) ++ below := by simp
  refine ⟨?_, ?_, ?_⟩
  · intro i
    cases ho : opensCopy signature ((above ++ [head]).drop i) with
    | false => rfl
    | true =>
        -- a copy opened above the header would need the header above itself
        obtain ⟨hlength, hopen⟩ := opensCopy_append ho below
        have hsplit : above ++ head :: below =
            (above ++ [head]).take i ++ ((above ++ [head]).drop i ++ below) := by
          rw [← List.append_assoc, List.take_append_drop, hfront]
        obtain ⟨-, hcode⟩ := h routine hr signature hs _ _ hsplit hopen
        rw [List.length_drop, List.length_append, List.length_singleton] at hlength
        rw [List.take_append_of_le_length (by omega), List.any_eq_true] at hcode
        obtain ⟨line, hline, htest⟩ := hcode
        have hno := List.any_eq_false.1 habove line (List.mem_of_mem_take hline)
        exact absurd htest hno
  · intro line hl
    rw [List.getLast?_concat, Option.some.injEq] at hl
    rw [← hl]
    exact (Section.inert_of_isHeaderFor hhead).1
  · intro i hopen
    have hsplit : above ++ head :: below =
        (above ++ [head] ++ below.take i) ++ below.drop i := by
      rw [List.append_assoc, List.take_append_drop, hfront]
    exact (h routine hr signature hs _ _ hsplit hopen).1

/-- The cleanup takes out the copies below the header of the code section, and the blank lines
that stood there before. -/
theorem removeGenerated_full {request : Request} {lines : List String} (h : Resting lines)
    (hcode : lines.any isCodeHeader = true) (routines : List Routine)
    (hcat : ∀ routine ∈ routines, routine ∈ catalog) :
    (removeGenerated catalog
        (insertBelow isCodeHeader (request.copies routines) lines)).1.lines =
      if routines = [] then lines else dropBlanksBelow isCodeHeader lines := by
  obtain ⟨above, head, below, rfl, habove, hhead⟩ := exists_first hcode
  rw [insertBelow_first habove hhead, dropBlanksBelow_first habove hhead]
  cases routines with
  | nil =>
      exact removeGenerated_of_stuck h.stuck_catalog
  | cons routine routines =>
      have hmem : ∀ passage ∈ request.passages below (routine :: routines),
          IsBlock passage.block := by
        intro passage hp
        obtain ⟨r, hr, hblock⟩ := Request.mem_passages hp
        rw [hblock]
        exact isBlock_map_fill (hcat r hr) Placeholder.quoteless_default
      have haround : ∀ r ∈ catalog, ∃ signature, r.signature? = some signature ∧
          Passage.Calm signature (request.passages below (routine :: routines)) ∧
            Passage.Leads signature (above ++ [head])
              (request.passages below (routine :: routines)) := by
        intro r hr
        obtain ⟨signature, hs⟩ := Option.isSome_iff_exists.1 (signature?_of_mem_catalog r hr)
        obtain ⟨hquiet, hends, hstuck⟩ := h.around hr hs habove hhead
        exact ⟨signature, hs, Request.calm_passages hstuck _,
          Passage.leads_of_quiet hquiet hends _⟩
      obtain ⟨hlines, -⟩ := removeGenerated_remaining (fun _ => false) haround hmem
      rw [Request.remaining_passages, Request.remaining_passages_of_gone] at hlines
      · simpa using hlines
      · intro r hr
        rw [Bool.false_or]
        exact copiesAny_map_fill (hcat r hr)

theorem bare_full {request : Request} {lines : List String} (h : Resting (request.stepped lines))
    (hcode : lines.any isCodeHeader = true)
    (hrun : request.installer.isEmpty = false → lines.any isRunHeader = true)
    (hsteps : RunStep.removeAll runtimeFamily lines = lines) :
    bare (request.full lines) =
      if request.missing lines = [] then lines else dropBlanksBelow isCodeHeader lines := by
  have hany : (request.stepped lines).any isCodeHeader = true := by
    rw [Request.any_isCodeHeader_stepped hrun, hcode]
  rw [bare, Request.full, removeGenerated_full h hany _ (request.missing_subset_catalog lines)]
  split
  · rw [removeAll_stepped, hsteps]
  · have hdrop : dropBlanksBelow isCodeHeader (request.stepped lines) =
        request.stepped (dropBlanksBelow isCodeHeader lines) := by
      unfold Request.stepped
      split
      · rfl
      · exact dropBlanksBelow_insertBelow
          (fun line hl => ⟨Section.isBlank_of_isHeaderFor hl, isCodeHeader_of_isRunHeader hl⟩)
          (RunStep.isHeaderFor_entry _ _)
    have hkept : ∀ line ∈ dropBlanksBelow isCodeHeader lines,
        (!RunStep.isStep runtimeFamily line) = true := by
      intro line hl
      have hmem := dropBlanksBelow_sublist.subset hl
      rw [← hsteps] at hmem
      exact (List.mem_filter.1 hmem).2
    rw [hdrop, removeAll_stepped]
    exact List.filter_eq_self.2 hkept

end SetupForge.GeneratedCode
