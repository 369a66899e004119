import SetupForge.Proofs.Cleanup.Cuts
import SetupForge.Proofs.Script.SectionEdits
import SetupForge.Proofs.Sync.Repetition

/-! # What a sync adds

On lines without markers a sync takes out install steps, and at a level without runtime the first
code section if it holds nothing. At the other levels it only adds lines of its own, and the body
of every section but the two that it writes to stays as it is.
-/

namespace SetupForge

open Text Lines Routine

/-! ## Generated lines open no brackets -/

namespace Routine

open Section (opensBracket)

theorem opensBracket_ofList {text : List Char} (h : opensBracket text = false) :
    opensBracket (String.ofList text).toList = false := by
  rwa [String.toList_ofList]

theorem opensBracket_markerLine (name : String) :
    opensBracket (Marker.line name).toList = false := by
  rw [opensBracket, toList_markerLine, dropBlanks_cons, if_neg (by decide)]
  rfl

set_option maxRecDepth 4000 in
theorem opensBracket_of_mem_catalog :
    ∀ routine ∈ catalog, ∀ line ∈ routine.lines, opensBracket line.toList = false := by
  simp only [catalog, List.forall_mem_cons]
  refine ⟨?_, ?_, ?_, ?_, ?_, by simp⟩ <;>
  · refine List.forall_mem_cons.2 ⟨opensBracket_markerLine _, ?_⟩
    repeat refine List.forall_mem_cons.2 ⟨opensBracket_ofList (by decide), ?_⟩
    simp

/-- Filling a line of a routine changes nothing before its third letter. -/
theorem letters_fill (settings : RuntimeSettings) (major : Int) {routine : Routine}
    {line : String} (h : routine ∈ catalog) (hl : line ∈ routine.lines) :
    Placeholder.fill settings major line = line ∨
      ∃ a b text filled, dropBlanks line.toList = a :: b :: text ∧
        dropBlanks (Placeholder.fill settings major line).toList = a :: b :: filled := by
  obtain ⟨head, body, shape, hlaid⟩ := exists_laid_of_mem_catalog h
  rw [hlaid.lines_eq] at hl
  rcases List.mem_cons.1 hl with rfl | hl
  · exact Or.inl (fill_markerLine hlaid.name_plain.1)
  rcases List.mem_cons.1 hl with rfl | hl
  · exact Or.inl (fill_of_not_mem hlaid.brace_not_mem)
  obtain ⟨effect, he⟩ := hlaid.exists_effect hl
  simp only [isBodyText, Bool.and_eq_true] at he
  obtain ⟨-, hbrace⟩ := he
  split at hbrace
  · rename_i a b text hdrop
    simp only [Bool.and_eq_true, decide_eq_true_eq] at hbrace
    have hfilled := dropBlanks_fillChars settings major hdrop hbrace.1 hbrace.2
    rw [← Placeholder.toList_fill] at hfilled
    exact Or.inr ⟨a, b, text, _, hdrop, hfilled⟩
  · simp at hbrace

theorem opensBracket_fill {settings : RuntimeSettings} {major : Int} {routine : Routine}
    {line : String} (h : routine ∈ catalog) (hl : line ∈ routine.lines) :
    opensBracket (Placeholder.fill settings major line).toList = false := by
  have hraw := opensBracket_of_mem_catalog routine h line hl
  rcases letters_fill settings major h hl with
    hsame | ⟨a, b, text, filled, hdrop, hfilled⟩
  · rw [hsame]
    exact hraw
  · rw [opensBracket, hdrop] at hraw
    rw [opensBracket, hfilled]
    exact hraw

end Routine

/-! ## Old lines among new ones -/

namespace Lines

/-- The new lines hold the old ones in their order, and besides them only lines of a kind. -/
def Extends (kind : String → Prop) (old new : List String) : Prop :=
  old.Sublist new ∧ ∃ added, new.Perm (added ++ old) ∧ ∀ line ∈ added, kind line

namespace Extends

variable {kind : String → Prop} {test : String → Bool} {lines middle last new : List String}

theorem refl (lines : List String) : Extends kind lines lines :=
  ⟨List.Sublist.refl _, [], List.Perm.refl _, by simp⟩

theorem trans (h : Extends kind lines middle) (h' : Extends kind middle last) :
    Extends kind lines last := by
  obtain ⟨hsub, added, hperm, hkind⟩ := h
  obtain ⟨hsub', added', hperm', hkind'⟩ := h'
  refine ⟨hsub.trans hsub', added' ++ added, ?_, List.forall_mem_append.2 ⟨hkind', hkind⟩⟩
  rw [List.append_assoc]
  exact hperm'.trans (hperm.append_left added')

theorem append (above below : List String) (h : ∀ line ∈ new, kind line) :
    Extends kind (above ++ below) (above ++ (new ++ below)) := by
  refine ⟨?_, new, ?_, h⟩
  · exact (List.Sublist.refl above).append (List.sublist_append_right new below)
  · rw [← List.append_assoc, ← List.append_assoc]
    exact List.perm_append_comm.append_right below

theorem insertBelow (lines : List String) (h : ∀ line ∈ new, kind line) :
    Extends kind lines (Lines.insertBelow test new lines) := by
  cases ht : lines.any test with
  | false =>
      rw [insertBelow_of_none ht]
      exact refl lines
  | true =>
      obtain ⟨above, head, below, rfl, habove, hhead⟩ := exists_first ht
      rw [insertBelow_first habove hhead]
      have hsplit : ∀ rest, above ++ head :: rest = (above ++ [head]) ++ rest := by simp
      rw [hsplit below, hsplit (new ++ below)]
      exact append (above ++ [head]) below h

theorem insertAbove (lines : List String) (h : ∀ line ∈ new, kind line) :
    Extends kind lines (Lines.insertAbove test new lines) := by
  cases ht : lines.any test with
  | false =>
      have hend : Extends kind (lines ++ []) (lines ++ (new ++ [])) := append lines [] h
      rwa [List.append_nil, List.append_nil, ← insertAbove_of_none ht] at hend
  | true =>
      obtain ⟨above, head, below, rfl, habove, hhead⟩ := exists_first ht
      rw [insertAbove_first habove hhead]
      exact append above (head :: below) h

end Extends

end Lines

namespace GeneratedCode

variable {request : Request} {lines : List String}

theorem bare_of_unmarked (h : ∀ line ∈ lines, Marker.isMarker line = false) :
    bare lines = RunStep.removeAll runtimeFamily lines := by
  rw [bare, removeGenerated_of_stuck (resting_of_unmarked h).stuck_catalog]

theorem withCode_eq_insertAbove (h : lines.any isCodeHeader = false) :
    withCode lines = insertAbove isCodeHeader [Section.header codeSection] lines := by
  rw [withCode, h, insertAbove_of_none h]
  rfl

/-! ## Levels that generate nothing -/

/-- The lines without their first code section, if it holds blank lines only. -/
def withoutEmptyCode : List String → List String
  | [] => []
  | line :: lines =>
      if isCodeHeader line then
        if (lines.takeWhile fun line => !Section.isHeader line).all isBlank then
          lines.dropWhile fun line => !Section.isHeader line
        else line :: lines
      else line :: withoutEmptyCode lines

theorem withoutEmptyCode_of_none (h : lines.any isCodeHeader = false) :
    withoutEmptyCode lines = lines := by
  induction lines with
  | nil => rfl
  | cons line lines ih =>
      rw [List.any_cons, Bool.or_eq_false_iff] at h
      simp [withoutEmptyCode, h.1, ih h.2]

theorem withoutEmptyCode_first {above below : List String} {head : String}
    (habove : above.any isCodeHeader = false) (hhead : isCodeHeader head = true) :
    withoutEmptyCode (above ++ head :: below) =
      if (below.takeWhile fun line => !Section.isHeader line).all isBlank then
        above ++ below.dropWhile fun line => !Section.isHeader line
      else above ++ head :: below := by
  induction above with
  | nil => simp [withoutEmptyCode, hhead]
  | cons line above ih =>
      rw [List.any_cons, Bool.or_eq_false_iff] at habove
      rw [List.cons_append, withoutEmptyCode, habove.1, if_neg (by simp), ih habove.2]
      split <;> rfl

theorem dropEmptyCode_eq_withoutEmptyCode (lines : List String) :
    (dropEmptyCode lines).1 = withoutEmptyCode lines := by
  have hname : isBlank codeSection = false := by decide
  cases hc : lines.any isCodeHeader with
  | false =>
      rw [withoutEmptyCode_of_none hc, dropEmptyCode_of_not_empty]
      rw [start?_code, indexFrom?_zero_eq_none_iff.2 hc]
      simp
  | true =>
      obtain ⟨above, head, below, rfl, habove, hhead⟩ := exists_first hc
      have hstart := Section.start?_first hname habove hhead below
      have hbody : Section.isEmpty codeSection (above ++ head :: below) =
          (below.takeWhile fun line => !Section.isHeader line).all isBlank := by
        rw [Section.isEmpty, Section.body?_eq_bodyBelow? hname,
          Section.bodyBelow?_first habove hhead]
      rw [withoutEmptyCode_first habove hhead, ← hbody]
      cases he : Section.isEmpty codeSection (above ++ head :: below) with
      | false =>
          rw [dropEmptyCode_of_not_empty (by simp [he])]
          rfl
      | true =>
          rw [dropEmptyCode, hstart, he, Section.remove_first hname habove hhead]
          rfl

/-! ## Levels that provide the runtime -/

/-- A line that a sync may put in. -/
inductive Request.Generates (request : Request) : String → Prop where
  | runHeader : request.Generates (Section.header runSection)
  | runStep : request.installer.isEmpty = false →
      request.Generates (RunStep.entry request.installer)
  | codeHeader : request.Generates (Section.header codeSection)
  | routine {routine : Routine} {line : String} : routine ∈ neededAt request.level catalog →
      line ∈ request.block routine → request.Generates line
  | separator : request.Generates ""

theorem generates_of_mem_copies {routines : List Routine} {line : String}
    (h : ∀ routine ∈ routines, routine ∈ neededAt request.level catalog)
    (hl : line ∈ request.copies routines) : request.Generates line := by
  obtain ⟨routine, hr, hline⟩ := List.mem_flatMap.1 hl
  rcases List.mem_append.1 hline with hline | hline
  · exact .routine (h routine hr) hline
  · rw [List.mem_singleton.1 hline]
    exact .separator

theorem extends_sections (request : Request) (lines : List String) :
    Extends request.Generates lines (request.sections lines) := by
  have hrun : Extends request.Generates lines (request.withRun lines) := by
    unfold Request.withRun
    split
    · exact Extends.refl lines
    · exact Extends.insertAbove lines (by simpa using .runHeader)
  refine hrun.trans ?_
  rw [Request.sections]
  cases hc : (request.withRun lines).any isCodeHeader with
  | true =>
      rw [withCode, hc]
      exact Extends.refl _
  | false =>
      rw [withCode_eq_insertAbove hc]
      exact Extends.insertAbove _ (by simpa using .codeHeader)

theorem extends_stepped (request : Request) (lines : List String) :
    Extends request.Generates lines (request.stepped lines) := by
  unfold Request.stepped
  split
  · exact Extends.refl lines
  · rename_i hi
    exact Extends.insertBelow lines (by simpa using .runStep (by simpa using hi))

/-- A sync adds lines of its own to what the cleanup leaves. -/
theorem extends_sync (hp : request.level.providesRuntime = true) (lines : List String) :
    Extends request.Generates (bare lines) (request.sync lines) := by
  cases hf : request.fails with
  | true =>
      rw [sync_of_fails hp hf]
      exact Extends.refl _
  | false =>
      rw [sync_eq_insertBelow hp hf]
      refine ((extends_sections request (bare lines)).trans (extends_stepped request _)).trans ?_
      refine Extends.insertBelow _ fun line hl => generates_of_mem_copies ?_ hl
      intro routine hr
      exact (List.mem_filter.1 hr).1

/-! ## Other sections -/

section Bodies

variable {name : String}

theorem isHeader_of_isRunHeader {line : String} (h : isRunHeader line = true) :
    Section.isHeader line = true :=
  Section.isHeader_of_isHeaderFor (by decide) (by decide) h

theorem isHeader_of_isCodeHeader {line : String} (h : isCodeHeader line = true) :
    Section.isHeader line = true :=
  Section.isHeader_of_isHeaderFor (by decide) (by decide) h

theorem isHeaderFor_of_mem_copies {target : Target} {routines : List Routine} {line : String}
    (h : ∀ routine ∈ routines, routine ∈ catalog) (hl : line ∈ target.copies routines) :
    Section.isHeaderFor name line = false := by
  have hbracket : Section.opensBracket line.toList = false := by
    obtain ⟨routine, hr, hline⟩ := List.mem_flatMap.1 hl
    rcases List.mem_append.1 hline with hline | hline
    · obtain ⟨raw, hraw, rfl⟩ := List.mem_map.1 hline
      exact opensBracket_fill (h routine hr) hraw
    · rw [List.mem_singleton.1 hline]
      rfl
  cases hn : Section.isHeaderFor name line with
  | false => rfl
  | true =>
      rw [Section.opensBracket_of_isHeaderFor hn] at hbracket
      simp at hbracket

theorem bodyBelow?_removeAll (family : String) (lines : List String) :
    Section.bodyBelow? name (RunStep.removeAll family lines) =
      (Section.bodyBelow? name lines).map (RunStep.removeAll family) := by
  have hkeep : ∀ line, Section.opensBracket line.toList = true →
      (!RunStep.isStep family line) = true := by
    intro line hl
    cases hs : RunStep.isStep family line with
    | false => rfl
    | true =>
        rw [Section.opensBracket_of_isStep hs] at hl
        simp at hl
  exact Section.bodyBelow?_filter
    (fun line hl => hkeep line (Section.opensBracket_of_isHeaderFor hl))
    (fun line hl => hkeep line (Section.opensBracket_of_isHeader hl)) lines

variable (hrun : lower (trim name) ≠ lower (trim runSection))
  (hcode : lower (trim name) ≠ lower (trim codeSection))

include hrun hcode

theorem bodyBelow?_sections (request : Request) (lines : List String) :
    Section.bodyBelow? name (request.sections lines) = Section.bodyBelow? name lines := by
  have hwith : Section.bodyBelow? name (request.withRun lines) =
      Section.bodyBelow? name lines := by
    unfold Request.withRun
    split
    · rfl
    · exact Section.bodyBelow?_insertAbove (fun _ => isHeader_of_isCodeHeader)
        (isHeader_of_isRunHeader isRunHeader_header)
        (Section.isHeaderFor_of_ne hrun isRunHeader_header) lines
  rw [← hwith, Request.sections]
  cases hc : (request.withRun lines).any isCodeHeader with
  | true => rw [withCode, hc, if_pos rfl]
  | false =>
      rw [withCode_eq_insertAbove hc]
      exact Section.bodyBelow?_insertAbove (fun _ => isHeader_of_isCodeHeader)
        (isHeader_of_isCodeHeader isCodeHeader_header)
        (Section.isHeaderFor_of_ne hcode isCodeHeader_header) _

theorem bodyBelow?_sync_of_usual {target : Target} (husual : target.IsUsual)
    (hp : target.level.providesRuntime = true) (hf : target.request.fails = false)
    (lines : List String) :
    Section.bodyBelow? name (GeneratedCode.sync target lines).lines =
      Section.bodyBelow? name (bare lines) := by
  rw [sync_of_provides husual hp hf, Section.bodyBelow?_insertBelow
    (fun _ hl => ⟨isHeader_of_isCodeHeader hl, Section.isHeaderFor_of_ne hcode hl⟩)
    (fun _ => isHeaderFor_of_mem_copies (target.request.missing_subset_catalog _)),
    Request.ready, ← bodyBelow?_sections hrun hcode target.request (bare lines)]
  unfold Request.stepped
  split
  · rfl
  · refine Section.bodyBelow?_insertBelow
      (fun _ hl => ⟨isHeader_of_isRunHeader hl, Section.isHeaderFor_of_ne hrun hl⟩) ?_ _
    intro line hl
    rw [List.mem_singleton.1 hl]
    exact RunStep.isHeaderFor_entry name _

theorem bodyBelow?_sync (hp : request.level.providesRuntime = true) (lines : List String) :
    Section.bodyBelow? name (request.sync lines) = Section.bodyBelow? name (bare lines) := by
  cases hf : request.fails with
  | true => rw [sync_of_fails hp hf]
  | false => exact bodyBelow?_sync_of_usual hrun hcode request.isUsual_target hp hf lines

end Bodies

/-! ## Failures -/

theorem sync_failure (request : Request) (lines : List String) :
    (GeneratedCode.sync request.target lines).failure =
      if request.level.providesRuntime && request.fails then some .tooManyDigits else none :=
  failure_sync_of_usual request.isUsual_target lines

/-! ## The whole sync -/

/-- On lines without markers a sync changes its own lines only. Below the levels that provide the
runtime it takes out the install steps, and the first code section if it is blank. At the other
levels the lines without their install steps stay in order, every other line is a generated one,
and the body of each section apart from the run and code sections loses install steps only. -/
theorem sync_changes_own_lines (request : Request)
    (hmarkers : ∀ line ∈ lines, Marker.isMarker line = false) :
    let authored := RunStep.removeAll runtimeFamily lines
    ((GeneratedCode.sync request.target lines).failure =
      if request.level.providesRuntime && request.fails then some .tooManyDigits else none) ∧
    (request.level.providesRuntime = false →
      request.sync lines = withoutEmptyCode authored) ∧
    (request.level.providesRuntime = true →
      (authored.Sublist (request.sync lines) ∧
        ∃ added, (request.sync lines).Perm (added ++ authored) ∧
          ∀ line ∈ added, request.Generates line) ∧
      ∀ name, isBlank name = false → lower (trim name) ≠ lower runSection →
        lower (trim name) ≠ lower codeSection →
        Section.body? name (request.sync lines) =
          (Section.body? name lines).map (RunStep.removeAll runtimeFamily)) := by
  intro authored
  have hbare : bare lines = authored := bare_of_unmarked hmarkers
  refine ⟨sync_failure request lines, ?_, ?_⟩
  · intro hp
    rw [sync_of_not_provides hp, hbare, dropEmptyCode_eq_withoutEmptyCode]
  · intro hp
    refine ⟨hbare ▸ extends_sync hp lines, ?_⟩
    intro name hname hrun hcode
    have htrim : trim runSection = runSection ∧ trim codeSection = codeSection := by
      decide +kernel
    rw [← htrim.1] at hrun
    rw [← htrim.2] at hcode
    rw [Section.body?_eq_bodyBelow? hname, Section.body?_eq_bodyBelow? hname,
      bodyBelow?_sync hrun hcode hp, hbare, bodyBelow?_removeAll]

/-- A script with an install step of an older runtime and a blank code section, at a level of
either kind. -/
theorem sync_changes_own_lines_olderStep :
    let lines := ["[Setup]", "[Code]", " ", "[run]",
      "filename: \"\x7btmp\x7d\\windowsdesktop-runtime-6.0.1.exe\"", "[FILES]", "a", "", "[Code]"]
    let older : Request := ⟨9, .standAlone⟩
    let newer : Request := ⟨9, .netInstallDownload⟩
    (∀ line ∈ lines, Marker.isMarker line = false) ∧ older.level.providesRuntime = false ∧
      older.sync lines = ["[Setup]", "[run]", "[FILES]", "a", "", "[Code]"] ∧
      newer.level.providesRuntime = true ∧ isBlank "Files" = false ∧
      lower (trim "Files") ≠ lower runSection ∧ lower (trim "Files") ≠ lower codeSection ∧
      ["[Setup]", "[Code]", " ", "[run]", "[FILES]", "a", "", "[Code]"].Sublist
        (newer.sync lines) ∧
      Section.body? "Files" (newer.sync lines) = some ["a", ""] := by
  intro lines older newer
  have hmarkers : ∀ line ∈ lines, Marker.isMarker line = false := by decide +kernel
  have hname : isBlank "Files" = false ∧ lower (trim "Files") ≠ lower runSection ∧
      lower (trim "Files") ≠ lower codeSection := by decide +kernel
  obtain ⟨hblank, hrun, hcode⟩ := hname
  obtain ⟨-, hbelow, -⟩ := sync_changes_own_lines older hmarkers
  obtain ⟨-, -, habove⟩ := sync_changes_own_lines newer hmarkers
  obtain ⟨⟨hsub, -⟩, hbody⟩ := habove rfl
  refine ⟨hmarkers, rfl, ?_, rfl, hblank, hrun, hcode, ?_, ?_⟩
  · rw [hbelow rfl]
    decide +kernel
  · have hauthored : RunStep.removeAll runtimeFamily lines =
        ["[Setup]", "[Code]", " ", "[run]", "[FILES]", "a", "", "[Code]"] := by decide +kernel
    rwa [hauthored] at hsub
  · rw [hbody "Files" hblank hrun hcode]
    decide +kernel

end GeneratedCode

end SetupForge
