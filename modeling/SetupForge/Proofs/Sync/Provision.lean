import SetupForge.Proofs.Sync.Launch

/-! # The runtime in a synced script

What a sync leaves for the runtime, whatever the lines held before. At a level that provides it, a
version with an installer has one install step, directly below the first header of the run section,
and every routine that the level needs is there. At the other levels, and for a version without an
installer, no install step is left.
-/

namespace SetupForge

open Text

/-! ## Installers of a family -/

namespace RuntimeSettings

variable {settings : RuntimeSettings} {major : Int}

/-- Whether the installers that count have names that start with the family. -/
def NamesFamily (settings : RuntimeSettings) : Prop :=
  ∀ known ∈ settings.ordered,
    known.fileName.isEmpty = false ∧ settings.family.toList <+: known.fileName.toList

instance (settings : RuntimeSettings) : Decidable settings.NamesFamily :=
  inferInstanceAs (Decidable (∀ known ∈ settings.ordered, _))

theorem mem_ordered_of_installer? {known : RuntimeInstaller}
    (h : settings.installer? major = some known) : known ∈ settings.ordered := by
  have hmem := List.mem_of_find?_eq_some h
  have hmajor : known.major = major := by simpa using List.find?_some h
  exact List.mem_filterMap.2 ⟨major, mem_majors.2 ⟨known, List.mem_reverse.1 hmem, hmajor⟩, h⟩

namespace NamesFamily

variable (h : settings.NamesFamily)

include h

theorem isEmpty_installerName (major : Int) :
    (settings.installerName major).isEmpty = !settings.knows major := by
  rw [installerName, knows]
  cases hi : settings.installer? major with
  | none => rfl
  | some known => exact (h known (mem_ordered_of_installer? hi)).1

theorem exists_installerName (hk : settings.knows major = true) :
    ∃ rest, settings.installerName major = settings.family ++ rest := by
  obtain ⟨known, hi⟩ := Option.isSome_iff_exists.1 hk
  obtain ⟨rest, hrest⟩ := (h known (mem_ordered_of_installer? hi)).2
  refine ⟨String.ofList rest, ?_⟩
  rw [installerName, hi, ← String.toList_inj, String.toList_append, String.toList_ofList, hrest]
  rfl

theorem isStep_entry (hk : settings.knows major = true) :
    RunStep.isStep settings.family (RunStep.entry (settings.installerName major)) = true := by
  obtain ⟨rest, hname⟩ := h.exists_installerName hk
  rw [hname]
  exact RunStep.isStep_entry settings.family rest

end NamesFamily

end RuntimeSettings

/-! ## The line below the first match -/

namespace Lines

variable {test other : String → Bool} {new above below lines : List String} {head line : String}

def lineBelow? (test : String → Bool) : List String → Option String
  | [] => none
  | line :: lines => if test line then lines.head? else lineBelow? test lines

theorem lineBelow?_append_left (h : ∀ line ∈ above, test line = false) (lines : List String) :
    lineBelow? test (above ++ lines) = lineBelow? test lines := by
  induction above with
  | nil => rfl
  | cons line above ih =>
      rw [List.forall_mem_cons] at h
      rw [List.cons_append, lineBelow?, h.1, ih h.2]
      rfl

theorem lineBelow?_first (habove : above.any test = false) (hhead : test head = true) :
    lineBelow? test (above ++ head :: below) = below.head? := by
  rw [lineBelow?_append_left (by simpa using habove), lineBelow?, if_pos hhead]

theorem lineBelow?_of_none (h : lines.any test = false) : lineBelow? test lines = none := by
  rw [← List.append_nil lines, lineBelow?_append_left (by simpa using h), lineBelow?]

theorem lineBelow?_append_right (h : lineBelow? test lines = some line) (below : List String) :
    lineBelow? test (lines ++ below) = some line := by
  induction lines with
  | nil => simp [lineBelow?] at h
  | cons first lines ih =>
      rw [lineBelow?] at h
      rw [List.cons_append, lineBelow?]
      split at h
      · rename_i hfirst
        rw [if_pos hfirst, List.head?_append, h, Option.some_or]
      · rename_i hfirst
        rw [if_neg hfirst, ih h]

theorem lineBelow?_insertBelow_self (h : lines.any test = true) :
    lineBelow? test (insertBelow test (line :: new) lines) = some line := by
  obtain ⟨above, head, below, rfl, habove, hhead⟩ := exists_first h
  rw [insertBelow_first habove hhead, lineBelow?_first habove hhead]
  rfl

theorem head?_insertBelow : (insertBelow test new lines).head? = lines.head? := by
  cases lines with
  | nil => rfl
  | cons line lines =>
      rw [insertBelow]
      split <;> rfl

/-- Insertion below another line does not part a line from the one below it. -/
theorem lineBelow?_insertBelow (hother : ∀ line, other line = true → test line = false)
    (hnew : ∀ line ∈ new, test line = false) (lines : List String) :
    lineBelow? test (insertBelow other new lines) = lineBelow? test lines := by
  induction lines with
  | nil => rfl
  | cons line lines ih =>
      rw [insertBelow]
      split
      · -- the match comes later, with the new lines above it
        rename_i hl
        rw [lineBelow?, lineBelow?, hother line hl, if_neg (by simp), if_neg (by simp),
          lineBelow?_append_left hnew]
      · -- nothing goes in directly below this line, so a match here keeps the line below it
        rw [lineBelow?, lineBelow?, head?_insertBelow, ih]

theorem indexFrom?_of_lineBelow? (h : lineBelow? test lines = some line) :
    ∃ start, indexFrom? test 0 lines = some start ∧ lines[start + 1]? = some line := by
  cases ht : lines.any test with
  | false =>
      rw [lineBelow?_of_none ht] at h
      simp at h
  | true =>
      obtain ⟨above, head, below, rfl, habove, hhead⟩ := exists_first ht
      rw [lineBelow?_first habove hhead] at h
      refine ⟨above.length, indexFrom?_first habove hhead, ?_⟩
      rw [List.getElem?_append_right (by omega), Nat.add_sub_cancel_left, List.getElem?_cons_succ,
        ← List.head?_eq_getElem?, h]

end Lines

namespace GeneratedCode

open Lines Routine

variable {target : Target} {lines : List String}

/-! ## Install steps -/

theorem filter_isStep_bare (target : Target) (lines : List String) :
    (target.bare lines).filter (RunStep.isStep target.runtime.family) = [] := by
  simp [Target.bare, RunStep.removeAll, List.filter_filter]

theorem filter_isStep_withRunSection (family : String) (lines : List String) :
    (withRunSection lines).filter (RunStep.isStep family) =
      lines.filter (RunStep.isStep family) := by
  unfold withRunSection
  split
  · rfl
  · refine filter_insertAbove fun line hl => ?_
    rw [List.mem_singleton.1 hl]
    exact Section.isStep_of_isHeaderFor isRunHeader_header

theorem filter_isStep_withCode (family : String) (lines : List String) :
    (withCode lines).filter (RunStep.isStep family) = lines.filter (RunStep.isStep family) := by
  unfold withCode
  split
  · rfl
  · rw [List.filter_append, List.filter_cons,
      Section.isStep_of_isHeaderFor isCodeHeader_header]
    simp

theorem any_isRunHeader_withRunSection (lines : List String) :
    (withRunSection lines).any isRunHeader = true := by
  unfold withRunSection
  split
  · assumption
  · rw [List.any_eq_true]
    exact ⟨_, mem_insertAbove.2 (.inl (List.mem_singleton_self _)), isRunHeader_header⟩

section Names

variable (hnames : target.runtime.NamesFamily)

include hnames

theorem failure_addRunStep (lines : List String) :
    (addRunStep target lines).failure =
      if !target.runtime.knows target.major && !hasText target.major then some .tooManyDigits
      else none := by
  have hempty := hnames.isEmpty_installerName target.major
  cases hk : target.runtime.knows target.major with
  | true =>
      rw [hk] at hempty
      exact (addRunStep_of_not_isEmpty hempty lines).2
  | false =>
      rw [hk] at hempty
      rw [(addRunStep_of_isEmpty hempty lines).2]
      cases hasText target.major <;> rfl

theorem filter_isStep_addRunStep (h : lines.filter (RunStep.isStep target.runtime.family) = []) :
    (addRunStep target lines).lines.filter (RunStep.isStep target.runtime.family) =
      if target.runtime.knows target.major then
        [RunStep.entry (target.runtime.installerName target.major)]
      else [] := by
  have hempty := hnames.isEmpty_installerName target.major
  cases hk : target.runtime.knows target.major with
  | true =>
      rw [hk] at hempty
      rw [← filter_isStep_withRunSection, List.filter_eq_nil_iff] at h
      rw [(addRunStep_of_not_isEmpty hempty lines).1,
        filter_insertBelow_new (any_isRunHeader_withRunSection lines) (by simpa using h),
        List.filter_cons_of_pos (hnames.isStep_entry hk)]
      rfl
  | false =>
      rw [hk] at hempty
      rw [(addRunStep_of_isEmpty hempty lines).1, h]
      rfl

theorem lineBelow?_addRunStep (hk : target.runtime.knows target.major = true)
    (lines : List String) :
    lineBelow? isRunHeader (addRunStep target lines).lines =
      some (RunStep.entry (target.runtime.installerName target.major)) := by
  have hempty := hnames.isEmpty_installerName target.major
  rw [hk] at hempty
  rw [(addRunStep_of_not_isEmpty hempty lines).1]
  exact lineBelow?_insertBelow_self (any_isRunHeader_withRunSection lines)

end Names

/-! ## What generating leaves -/

/-- What generated code comes to, unless it is broken off before the code section: routines of the
catalog below the header of the code section. -/
theorem generate_cases (hcatalog : target.catalog = Routine.catalog) (lines : List String) :
    (∃ failure, (addRunStep target lines).failure = some failure ∧
      generate target lines = addRunStep target lines) ∨
    ∃ added, (∀ routine ∈ added, routine ∈ catalog) ∧ (addRunStep target lines).failure = none ∧
      (generate target lines).lines = insertBelow isCodeHeader (target.copies added)
        (withCode (addRunStep target lines).lines) := by
  cases hf : (addRunStep target lines).failure with
  | some failure =>
      refine .inl ⟨failure, rfl, ?_⟩
      rw [generate]
      simp only [hf, Option.isSome_some, if_true]
  | none =>
      obtain ⟨added, hinit, hlines, -⟩ := generate_lines hcatalog hf
      refine .inr ⟨added, fun routine hr => ?_, rfl, hlines⟩
      exact (neededAt_sublist _ _).subset (List.mem_of_mem_filter (hinit.subset hr))

theorem filter_isStep_generate (hcatalog : target.catalog = Routine.catalog) (family : String)
    (lines : List String) :
    (generate target lines).lines.filter (RunStep.isStep family) =
      (addRunStep target lines).lines.filter (RunStep.isStep family) := by
  rcases generate_cases hcatalog lines with ⟨_, -, hsame⟩ | ⟨added, hadded, -, hlines⟩
  · rw [hsame]
  · rw [hlines, filter_insertBelow fun _ => isStep_of_mem_copies hadded, filter_isStep_withCode]

theorem lineBelow?_generate (hcatalog : target.catalog = Routine.catalog) {line : String}
    (h : lineBelow? isRunHeader (addRunStep target lines).lines = some line) :
    lineBelow? isRunHeader (generate target lines).lines = some line := by
  rcases generate_cases hcatalog lines with ⟨_, -, hsame⟩ | ⟨added, hadded, -, hlines⟩
  · rw [hsame, h]
  · have hcode : ∀ line, isCodeHeader line = true → isRunHeader line = false := by
      intro line hl
      cases hr : isRunHeader line with
      | false => rfl
      | true =>
          rw [isCodeHeader_of_isRunHeader hr] at hl
          exact hl.symm
    rw [hlines, lineBelow?_insertBelow hcode fun _ => isHeaderFor_of_mem_copies hadded, withCode]
    split
    · exact h
    · exact lineBelow?_append_right h _

/-! ## Routines -/

theorem lacks_of_infix_block {routine : Routine} (h : routine ∈ catalog)
    (hl : target.block routine <:+: lines) : lacks lines routine = false := by
  obtain ⟨head, body, shape, hlaid⟩ := exists_laid_of_mem_catalog h
  rw [lacks_eq_false_iff hlaid.signature?_eq, List.any_eq_true]
  refine ⟨head, hl.subset ?_, carries_self head⟩
  rw [Target.block, hlaid.map_fill]
  simp

/-- Where nothing breaks it off, generating leaves no needed routine lacking. -/
theorem lacks_generate (hcatalog : target.catalog = Routine.catalog)
    (hdone : (generate target lines).failure = none) {routine : Routine} (h : routine ∈ catalog)
    (hlevel : routine.level ≤ target.level) :
    lacks (generate target lines).lines routine = false := by
  have hstep : (addRunStep target lines).failure = none := by
    rcases generate_cases hcatalog lines with ⟨_, hf, hsame⟩ | ⟨_, -, hf, -⟩
    · rw [hsame, hf] at hdone
      simp at hdone
    · exact hf
  obtain ⟨added, -, hlines, hall, -⟩ := generate_lines hcatalog hstep
  rw [hlines, hall hdone]
  -- a routine that was lacking went in with its signature, and any other line was kept
  cases hl : lacks (withCode (addRunStep target lines).lines) routine with
  | true =>
      have hneeded : routine ∈ target.missing (withCode (addRunStep target lines).lines) :=
        List.mem_filter.2 ⟨List.mem_filter.2 ⟨h, by simpa using hlevel⟩, hl⟩
      exact lacks_of_infix_block h
        ((infix_copies hneeded).trans (infix_insertBelow (any_isCodeHeader_withCode _)))
  | false =>
      cases hl' : lacks (insertBelow isCodeHeader _ _) routine with
      | false => rfl
      | true =>
          rw [lacks_of_sublist (sublist_insertBelow _ _ _) hl'] at hl
          exact hl

/-! ## The whole sync -/

section Whole

variable (hcatalog : target.catalog = Routine.catalog)

include hcatalog

/-- With an installer, or for a lenient reader, a sync fails only where a report about a missing
installer cannot be written, and it does so at the install step if the version has no text. -/
theorem failure_sync (hnames : target.runtime.NamesFamily) (lines : List String) :
    let edit := GeneratedCode.sync target lines
    let provides := target.level.providesRuntime
    let known := target.runtime.knows target.major
    (known = true ∨ target.strict = false ∨ provides = false → edit.failure = none ∨
      edit.failure = some .tooManyDigits ∧ provides = true ∧ known = false ∧
        Placeholder.canReport target.runtime target.major = false) ∧
    (provides = true → known = false → hasText target.major = false →
      edit.failure = some .tooManyDigits) := by
  intro edit provides known
  have hedit : edit.failure = if provides = true then (generate target (target.bare lines)).failure
      else none := (sync_of_catalog hcatalog lines).1
  rw [hedit]
  cases hp : provides with
  | false => exact ⟨fun _ => Or.inl rfl, fun h => by cases h⟩
  | true =>
      have hstep := failure_addRunStep hnames (target.bare lines)
      rw [if_pos rfl]
      rcases generate_cases hcatalog (target.bare lines) with ⟨failure, hf, hsame⟩ | ⟨_, -, hf, -⟩
      · rw [hf] at hstep
        rw [hsame, hf, hstep]
        split at hstep
        · rename_i hno
          obtain ⟨hunknown, htext⟩ := Bool.and_eq_true_iff.1 hno
          rw [Bool.not_eq_true'] at hunknown htext
          rw [if_pos hno]
          exact ⟨fun _ => Or.inr ⟨rfl, rfl, hunknown, by rw [Placeholder.canReport, htext]; rfl⟩,
            fun _ _ _ => rfl⟩
        · cases hstep
      · obtain ⟨_, -, -, -, hends⟩ := generate_lines hcatalog hf
        refine ⟨fun h => ?_, fun _ hunknown htext => ?_⟩
        · have hable : target.strict = false ∨ target.runtime.knows target.major = true := by
            simpa [or_comm] using h
          rcases hends hable with hnone | ⟨hfailure, hunknown, hreport⟩
          · exact Or.inl hnone
          · exact Or.inr ⟨hfailure, rfl, hunknown, hreport⟩
        · have hno : (!target.runtime.knows target.major && !hasText target.major) = true := by
            rw [Bool.and_eq_true, Bool.not_eq_true', Bool.not_eq_true']
            exact ⟨hunknown, htext⟩
          rw [hf, if_pos hno] at hstep
          cases hstep

theorem filter_isStep_sync (hnames : target.runtime.NamesFamily) (lines : List String) :
    (GeneratedCode.sync target lines).lines.filter (RunStep.isStep target.runtime.family) =
      if target.level.providesRuntime && target.runtime.knows target.major then
        [RunStep.entry (target.runtime.installerName target.major)]
      else [] := by
  have hbare := filter_isStep_bare target lines
  rw [(sync_of_catalog hcatalog lines).2]
  cases target.level.providesRuntime with
  | true =>
      rw [if_pos rfl, filter_isStep_generate hcatalog, filter_isStep_addRunStep hnames hbare,
        Bool.true_and]
  | false =>
      have hsub := (dropEmptyCode_sublist (target.bare lines)).filter
        (RunStep.isStep target.runtime.family)
      rw [hbare] at hsub
      exact List.sublist_nil.1 hsub

/-- What a sync leaves for the runtime, whatever the lines held before. One line is an install step
if the level provides the runtime and the version has an installer, the one directly below the
first header of the run section, and it starts that installer; else no line is. Every routine that
a level with the runtime needs has its signature somewhere. With an installer, or for a lenient
reader, the sync breaks off only where a number is too long for a report about a missing
installer. -/
theorem sync_provides_runtime (hnames : target.runtime.NamesFamily) (lines : List String) :
    let edit := GeneratedCode.sync target lines
    let entry := RunStep.entry (target.runtime.installerName target.major)
    let provides := target.level.providesRuntime
    let known := target.runtime.knows target.major
    edit.lines.filter (RunStep.isStep target.runtime.family) =
      (if provides && known then [entry] else []) ∧
    (provides = true → known = true → ∃ start, Section.start? runSection edit.lines = some start ∧
      edit.lines[start + 1]? = some entry) ∧
    (provides = true → edit.failure = none → ∀ routine ∈ Routine.catalog,
      routine.level ≤ target.level → ∃ signature, routine.signature? = some signature ∧
        edit.lines.any (carries signature) = true) ∧
    (known = true ∨ target.strict = false ∨ provides = false → edit.failure = none ∨
      edit.failure = some .tooManyDigits ∧ provides = true ∧ known = false ∧
        Placeholder.canReport target.runtime target.major = false) ∧
    (provides = true → known = false → hasText target.major = false →
      edit.failure = some .tooManyDigits) := by
  intro edit entry provides known
  obtain ⟨hfailure, hlines⟩ := sync_of_catalog hcatalog lines
  refine ⟨filter_isStep_sync hcatalog hnames lines, fun hp hk => ?_, fun hp hdone routine h hl => ?_,
    failure_sync hcatalog hnames lines⟩
  · rw [if_pos hp] at hlines
    obtain ⟨start, hstart, hentry⟩ := indexFrom?_of_lineBelow?
      (lineBelow?_generate hcatalog (lineBelow?_addRunStep hnames hk (target.bare lines)))
    rw [← hlines] at hstart hentry
    exact ⟨start, (start?_run _).trans hstart, hentry⟩
  · rw [if_pos hp] at hlines hfailure
    obtain ⟨signature, hs⟩ := Option.isSome_iff_exists.1 (signature?_of_mem_catalog routine h)
    refine ⟨signature, hs, (lacks_eq_false_iff hs).1 ?_⟩
    rw [show edit.lines = _ from hlines]
    exact lacks_generate hcatalog (hfailure.symm.trans hdone) h hl

end Whole

/-- An installer of another family, and lines with an older step of it outside the run section, a
step without a name and a generated block that is cut short. -/
theorem sync_provides_runtime_ownFamily :
    let runtime : RuntimeSettings := ⟨[⟨8, "8.0.1", "rt-8.exe"⟩], "rt-", "", Path.ofString "kept"⟩
    let target : Target := { major := 8, level := .netInstallDownload, runtime }
    let lines := ["[Code]", Marker.line "NeedsDotNet", "function NeedsDotNet: Boolean;", "begin",
      "filename:\"\x7bTMP\x7d\\RT-7.exe\"", "[Run]", RunStep.entry "", "[run]"]
    let edit := GeneratedCode.sync target lines
    target.catalog = Routine.catalog ∧ runtime.NamesFamily ∧
      edit.lines.filter (RunStep.isStep "rt-") = [RunStep.entry "rt-8.exe"] ∧
      (∃ start, Section.start? runSection edit.lines = some start ∧
        edit.lines[start + 1]? = some (RunStep.entry "rt-8.exe")) ∧
      edit.failure = none ∧ ∀ routine ∈ Routine.catalog, ∃ signature,
        routine.signature? = some signature ∧ edit.lines.any (carries signature) = true := by
  intro runtime target lines edit
  have hnames : target.runtime.NamesFamily := by decide +kernel
  have hcatalog : target.catalog = Routine.catalog := rfl
  obtain ⟨hstep, hplace, hroutines, hfailure, -⟩ := sync_provides_runtime hcatalog hnames lines
  have hdone : edit.failure = none := (hfailure (.inl rfl)).resolve_right fun h => by
    have hunknown : target.runtime.knows target.major = false := h.2.2.1
    revert hunknown
    decide
  refine ⟨hcatalog, hnames, hstep, hplace rfl rfl, hdone, fun routine h => ?_⟩
  exact hroutines rfl hdone routine h (by revert routine; decide +kernel)

end GeneratedCode

end SetupForge
