import SetupForge.Script.GeneratedCode
import SetupForge.Proofs.Cleanup.Copies
import SetupForge.Proofs.Sync.Insertion

/-! # What a sync generates

A sync with the default catalog in closed form. The lines without generated code get the sections
that they lack; then the install step goes below the header of the run section, and the routines
that the lines lack go below the header of the code section. With other settings the routines may
end at the first whose values a strict reader refuses; with the default ones they all go in.
-/

namespace SetupForge.GeneratedCode

open Text Lines Routine

/-- What a sync is asked for; everything else has its default. -/
structure Request where
  major : Int
  level : BuildLevel

def isRunHeader : String → Bool := Section.isHeaderFor runSection

def isCodeHeader : String → Bool := Section.isHeaderFor codeSection

def lacks (lines : List String) (routine : Routine) : Bool :=
  !routine.signature?.any fun signature => lines.any (carries signature)

/-- What is left of some lines without generated routines and install steps. -/
def bare (lines : List String) : List String :=
  RunStep.removeAll runtimeFamily (removeGenerated catalog lines).1.lines

/-- The lines with a run section, which is made where the code section starts. -/
def withRunSection (lines : List String) : List String :=
  if lines.any isRunHeader then lines
  else insertAbove isCodeHeader [Section.header runSection] lines

def withCode (lines : List String) : List String :=
  if lines.any isCodeHeader then lines else lines ++ [Section.header codeSection]

namespace Request

variable (request : Request)

def target : Target := { major := request.major, level := request.level }

def installer : String := ({} : RuntimeSettings).installerName request.major

/-- Whether the warning about a missing installer cannot be written. -/
def fails : Bool := request.installer.isEmpty && !hasText request.major

def sync (lines : List String) : List String := (GeneratedCode.sync request.target lines).lines

def block (routine : Routine) : List String :=
  routine.lines.map (Placeholder.fill {} request.major)

/-- The generated lines of some routines, an empty line below each. -/
def copies (routines : List Routine) : List String :=
  routines.flatMap fun routine => request.block routine ++ [""]

def missing (lines : List String) : List Routine :=
  (neededAt request.level catalog).filter (lacks lines)

def withRun (lines : List String) : List String :=
  if request.installer.isEmpty || lines.any isRunHeader then lines
  else insertAbove isCodeHeader [Section.header runSection] lines

def sections (lines : List String) : List String := withCode (request.withRun lines)

def stepped (lines : List String) : List String :=
  if request.installer.isEmpty then lines
  else insertBelow isRunHeader [RunStep.entry request.installer] lines

/-- The lines that a sync puts routines into: those without generated code, with the sections
and the install step. -/
def ready (lines : List String) : List String := request.stepped (request.sections (bare lines))

def full (lines : List String) : List String :=
  insertBelow isCodeHeader (request.copies (request.missing lines)) (request.stepped lines)

end Request

namespace Target

variable (target : Target)

def request : Request := ⟨target.major, target.level⟩

def block (routine : Routine) : List String :=
  routine.lines.map (Placeholder.fill target.runtime target.major)

def copies (routines : List Routine) : List String :=
  routines.flatMap fun routine => target.block routine ++ [""]

def missing (lines : List String) : List Routine :=
  (neededAt target.level Routine.catalog).filter (lacks lines)

def bare (lines : List String) : List String :=
  RunStep.removeAll target.runtime.family (removeGenerated Routine.catalog lines).1.lines

/-- Whether a target has the usual catalog and installers. Where installers come from and where they
are kept is left open. -/
structure IsUsual : Prop where
  catalog : target.catalog = Routine.catalog
  lenient : target.strict = false
  installers : target.runtime.installers = defaultInstallers
  family : target.runtime.family = runtimeFamily

variable {target}

theorem IsUsual.installerName_eq (h : target.IsUsual) :
    target.runtime.installerName target.major = target.request.installer := by
  rw [RuntimeSettings.installerName, RuntimeSettings.installer?, h.installers]
  rfl

/-- A usual target that does not fail at the install step has all values or can report that it lacks
them. -/
theorem IsUsual.able (h : target.IsUsual) (hf : target.request.fails = false) :
    target.runtime.knows target.major = true ∨
      Placeholder.canReport target.runtime target.major = true := by
  cases hi : target.request.installer.isEmpty with
  | true =>
      have htext : ∀ known ∈ defaultInstallers, hasText known.major = true := by decide +kernel
      rw [Request.fails, hi, Bool.true_and, Bool.not_eq_false'] at hf
      refine Or.inr (Bool.and_eq_true_iff.2 ⟨hf, List.all_eq_true.2 fun major hmajor => ?_⟩)
      obtain ⟨known, hknown, rfl⟩ := RuntimeSettings.mem_majors.1 hmajor
      exact htext known (h.installers ▸ hknown)
  | false =>
      rw [← h.installerName_eq, RuntimeSettings.installerName] at hi
      rw [RuntimeSettings.knows]
      cases hfound : target.runtime.installer? target.major with
      | none => simp [hfound] at hi
      | some known => exact Or.inl rfl

end Target

theorem Request.isUsual_target (request : Request) : request.target.IsUsual := ⟨rfl, rfl, rfl, rfl⟩

/-! ## Routines -/

theorem carries_copy (target : Target) {a b : Routine} {signature line : String}
    (ha : a ∈ catalog) (hb : b ∈ catalog) (hs : a.signature? = some signature) (hne : a ≠ b)
    (hl : line ∈ target.block b ++ [""]) : carries signature line = false := by
  obtain ⟨head, body, shape, hlaid⟩ := exists_laid_of_mem_catalog hb
  rw [Target.block, hlaid.map_fill] at hl
  simp only [List.cons_append, List.mem_cons, List.mem_append, List.not_mem_nil,
    or_false] at hl
  rcases hl with rfl | rfl | hbody | rfl
  · exact carries_of_mem_catalog ha hs (looksLikeHeading_of_isMarker (isMarker_markerLine _))
  · cases hc : carries signature line with
    | false => rfl
    | true => exact absurd (eq_of_carries ha hb hs hlaid.signature?_eq hc) hne
  · exact carries_of_mem_catalog ha hs (hlaid.looksLikeHeading_body hbody)
  · exact carries_of_mem_catalog ha hs (looksLikeHeading_of_isBlank rfl)

theorem lacks_insert {routine : Routine} {above new below : List String}
    (h : ∀ signature, routine.signature? = some signature →
      ∀ line ∈ new, carries signature line = false) :
    lacks (above ++ (new ++ below)) routine = lacks (above ++ below) routine := by
  unfold lacks
  cases hs : routine.signature? with
  | none => rfl
  | some signature =>
      have hnew : new.any (carries signature) = false := by
        rw [List.any_eq_false]
        intro line hl
        simp [h signature hs line hl]
      simp only [Option.any_some, List.any_append, hnew, Bool.false_or]

theorem lacks_insertBelow {routine : Routine} {test : String → Bool} {new lines : List String}
    (h : ∀ signature, routine.signature? = some signature →
      ∀ line ∈ new, carries signature line = false) :
    lacks (insertBelow test new lines) routine = lacks lines routine := by
  cases ht : lines.any test with
  | false => rw [insertBelow_of_none ht]
  | true =>
      obtain ⟨above, head, below, rfl, habove, hhead⟩ := exists_first ht
      have hsplit : ∀ rest, above ++ head :: rest = (above ++ [head]) ++ rest := by simp
      rw [insertBelow_first habove hhead, hsplit (new ++ below), lacks_insert h,
        ← hsplit below]

theorem lacks_insertAbove {routine : Routine} {test : String → Bool} {new lines : List String}
    (h : ∀ signature, routine.signature? = some signature →
      ∀ line ∈ new, carries signature line = false) :
    lacks (insertAbove test new lines) routine = lacks lines routine := by
  cases ht : lines.any test with
  | false =>
      have hend : lacks (lines ++ (new ++ [])) routine = lacks (lines ++ []) routine :=
        lacks_insert h
      rwa [List.append_nil, List.append_nil, ← insertAbove_of_none ht] at hend
  | true =>
      obtain ⟨above, head, below, rfl, habove, hhead⟩ := exists_first ht
      rw [insertAbove_first habove hhead, lacks_insert h]

theorem Request.missing_subset_catalog (request : Request) (lines : List String) :
    ∀ routine ∈ request.missing lines, routine ∈ catalog := fun _ hr =>
  (neededAt_sublist _ _).subset (List.mem_of_mem_filter hr)

theorem lacks_of_no_heading {routine : Routine} {lines : List String} (h : routine ∈ catalog)
    (hl : ∀ line ∈ lines, looksLikeHeading line = false) : lacks lines routine = true := by
  obtain ⟨signature, hs⟩ := Option.isSome_iff_exists.1 (signature?_of_mem_catalog routine h)
  have hnone : lines.any (carries signature) = false := by
    rw [List.any_eq_false]
    intro line hline
    simp [carries_of_mem_catalog h hs (hl line hline)]
  rw [lacks, hs, Option.any_some, hnone]
  rfl

theorem lacks_of_sublist {routine : Routine} {part lines : List String} (h : part.Sublist lines)
    (hl : lacks lines routine = true) : lacks part routine = true := by
  unfold lacks at hl ⊢
  cases hs : routine.signature? with
  | none => rfl
  | some signature =>
      rw [hs, Option.any_some, Bool.not_eq_true', List.any_eq_false] at hl
      rw [Option.any_some, Bool.not_eq_true', List.any_eq_false]
      exact fun line hline => hl line (h.subset hline)

theorem Request.mem_missing_of_no_heading {request : Request} {routine : Routine}
    {lines : List String} (h : routine ∈ catalog) (hlevel : routine.level ≤ request.level)
    (hl : ∀ line ∈ lines, looksLikeHeading line = false) : routine ∈ request.missing lines :=
  List.mem_filter.2 ⟨List.mem_filter.2 ⟨h, by simpa using hlevel⟩, lacks_of_no_heading h hl⟩

theorem lacks_eq_false_iff {routine : Routine} {lines : List String} {signature : String}
    (hs : routine.signature? = some signature) :
    lacks lines routine = false ↔ lines.any (carries signature) = true := by
  simp [lacks, hs]

theorem addRoutines_of_not_lacks (target : Target) {routine : Routine}
    {routines : List Routine} {lines : List String} (hmem : routine ∈ catalog)
    (h : routine.level ≤ target.level → lacks lines routine = false)
    (position : Nat) (warned : Bool) :
    (addRoutines target (routine :: routines) position warned lines).failure =
        (addRoutines target routines position warned lines).failure ∧
      (addRoutines target (routine :: routines) position warned lines).lines =
        (addRoutines target routines position warned lines).lines := by
  obtain ⟨signature, hs⟩ := Option.isSome_iff_exists.1 (signature?_of_mem_catalog routine hmem)
  rw [addRoutines]
  by_cases hlevel : routine.level ≤ target.level
  · have hany := (lacks_eq_false_iff hs).1 (h hlevel)
    rw [if_neg (by simpa using hlevel), hs]
    simp only [hany, if_true, and_self]
  · rw [if_pos (by simpa using hlevel)]
    exact ⟨rfl, rfl⟩

theorem filter_neededAt_cons_of_pos {level : BuildLevel} {routine : Routine}
    {lacking : Routine → Bool} (routines : List Routine) (hlevel : routine.level ≤ level)
    (h : lacking routine = true) :
    (neededAt level (routine :: routines)).filter lacking =
      routine :: (neededAt level routines).filter lacking := by
  rw [neededAt, List.filter_cons_of_pos (by simpa using hlevel), List.filter_cons_of_pos h]
  rfl

theorem filter_neededAt_cons_of_neg {level : BuildLevel} {routine : Routine}
    {lacking : Routine → Bool} (routines : List Routine)
    (h : routine.level ≤ level → lacking routine = false) :
    (neededAt level (routine :: routines)).filter lacking =
      (neededAt level routines).filter lacking := by
  by_cases hlevel : routine.level ≤ level
  · rw [neededAt, List.filter_cons_of_pos (by simpa using hlevel),
      List.filter_cons_of_neg (by simp [h hlevel])]
    rfl
  · rw [neededAt, List.filter_cons_of_neg (by simpa using hlevel)]
    rfl

theorem filter_lacks_insert_block (target : Target) {routine : Routine}
    {routines : List Routine} (hmem : routine ∈ catalog)
    (hcat : ∀ other ∈ routines, other ∈ catalog) (hnew : routine ∉ routines)
    (front bottom : List String) :
    (neededAt target.level routines).filter
        (lacks (front ++ (target.block routine ++ [""] ++ bottom))) =
      (neededAt target.level routines).filter (lacks (front ++ bottom)) := by
  refine List.filter_congr fun other hother => ?_
  have hin := (neededAt_sublist target.level routines).subset hother
  refine lacks_insert fun signature hsig line hl => ?_
  refine carries_copy target (hcat other hin) hmem hsig ?_ hl
  rintro rfl
  exact hnew hin

/-- Whether a target with the values of placeholders at hand, or a lenient one, ends in this
failure: only a report that cannot be written breaks it off. -/
def Target.MayEndIn (target : Target) (failure? : Option Failure) : Prop :=
  target.strict = false ∨ target.runtime.knows target.major = true →
    failure? = none ∨ failure? = some .tooManyDigits ∧
      target.runtime.knows target.major = false ∧
      Placeholder.canReport target.runtime target.major = false

theorem Target.MayEndIn.eq_none {target : Target} {failure? : Option Failure}
    (h : target.MayEndIn failure?)
    (hlenient : target.strict = false ∨ target.runtime.knows target.major = true)
    (hable : target.runtime.knows target.major = true ∨
      Placeholder.canReport target.runtime target.major = true) : failure? = none := by
  rcases h hlenient with hnone | ⟨-, hunknown, hstuck⟩
  · exact hnone
  · rw [hunknown, hstuck] at hable
    simp at hable

/-- A routine that is needed and lacking goes in, and the next one goes where it ends, unless its
values are refused or call for a report that cannot be written. -/
theorem addRoutines_cases {target : Target} {routine : Routine} (routines : List Routine)
    (front bottom : List String) (hmem : routine ∈ catalog) (hlevel : routine.level ≤ target.level)
    (h : lacks (front ++ bottom) routine = true) (warned : Bool) :
    let edit := addRoutines target (routine :: routines) front.length warned (front ++ bottom)
    (∃ failure, edit.failure = some failure ∧ edit.lines = front ++ bottom ∧
      target.MayEndIn (some failure)) ∨
    ∃ warned',
      let above := front ++ (target.block routine ++ [""])
      let rest := addRoutines target routines above.length warned' (above ++ bottom)
      edit.failure = rest.failure ∧ edit.lines = rest.lines := by
  intro edit
  obtain ⟨signature, hs⟩ := Option.isSome_iff_exists.1 (signature?_of_mem_catalog routine hmem)
  have hany : (front ++ bottom).any (carries signature) = false := by
    simpa [lacks, hs] using h
  have hedit : edit = addRoutines target (routine :: routines) front.length warned
      (front ++ bottom) := rfl
  rw [addRoutines, if_neg (by simpa using hlevel), hs] at hedit
  simp only [hany, Bool.false_eq_true, if_false] at hedit
  cases hstuck : Placeholder.isStuck target.runtime target.major routine.lines with
  | true =>
      rw [hstuck, if_pos rfl] at hedit
      simp only [Placeholder.isStuck, Bool.and_eq_true, Bool.not_eq_true'] at hstuck
      exact Or.inl ⟨.tooManyDigits, by rw [hedit], by rw [hedit],
        fun _ => Or.inr ⟨rfl, hstuck.1.1, hstuck.2⟩⟩
  | false =>
      rw [hstuck, if_neg Bool.false_ne_true] at hedit
      rcases Placeholder.fillLines_cases target.runtime target.strict warned target.major
        routine.lines with ⟨notes, hfill⟩ | ⟨hstrict, hunknown, hfill⟩
      · have hinsert : insertAt front.length (target.block routine ++ [""]) (front ++ bottom) =
            front ++ (target.block routine ++ [""]) ++ bottom := by
          rw [insertAt, List.take_left, List.drop_left]
        have hlength : front.length + (target.block routine).length + 1 =
            (front ++ (target.block routine ++ [""])).length := by
          simp only [List.length_append, List.length_singleton]
          omega
        have hblock : Placeholder.fillLines target.runtime target.strict warned target.major
            routine.lines = .ok (target.block routine, notes) := hfill
        simp only [hblock, hinsert, hlength] at hedit
        exact Or.inr ⟨warned || !notes.isEmpty, by rw [hedit], by rw [hedit]⟩
      · rw [hfill] at hedit
        refine Or.inl ⟨_, by rw [hedit], by rw [hedit], fun hable => ?_⟩
        rw [hstrict, hunknown] at hable
        simp at hable

/-- Routines go in one after another, each where the one before it ends, up to the first whose
values are refused or called for a report that cannot be written. -/
theorem addRoutines_lines (target : Target) {routines : List Routine}
    (hcat : ∀ routine ∈ routines, routine ∈ catalog) (hnodup : routines.Nodup)
    (front bottom : List String) (warned : Bool) :
    let edit := addRoutines target routines front.length warned (front ++ bottom)
    let missing := (neededAt target.level routines).filter (lacks (front ++ bottom))
    ∃ added, added <+: missing ∧ edit.lines = front ++ (target.copies added ++ bottom) ∧
      (edit.failure = none → added = missing) ∧ target.MayEndIn edit.failure := by
  induction routines generalizing front warned with
  | nil => exact ⟨[], List.prefix_rfl, rfl, fun _ => rfl, fun _ => Or.inl rfl⟩
  | cons routine routines ih =>
      intro edit missing
      have hmem := hcat routine (by simp)
      have hcat' := fun r hr => hcat r (List.mem_cons_of_mem routine hr)
      obtain ⟨hnew, hnodup'⟩ := List.nodup_cons.1 hnodup
      by_cases hwanted : routine.level ≤ target.level ∧ lacks (front ++ bottom) routine = true
      · obtain ⟨hlevel, hlacks⟩ := hwanted
        rcases addRoutines_cases routines front bottom hmem hlevel hlacks warned with
          ⟨failure, hfailure, hlines, hends⟩ | ⟨warned', hfailure, hlines⟩
        · refine ⟨[], List.nil_prefix, hlines, fun hf => ?_, ?_⟩
          · rw [show edit.failure = _ from hfailure] at hf
            cases hf
          · rw [show edit.failure = _ from hfailure]
            exact hends
        · obtain ⟨added, hinit, hlines', hall, hends⟩ :=
            ih hcat' hnodup' (front ++ (target.block routine ++ [""])) warned'
          -- the search goes on in the lines with the copy, which answers for no other routine
          have hrest := filter_lacks_insert_block target hmem hcat' hnew front bottom
          simp only [List.append_assoc] at hrest hinit hlines' hall hends hfailure hlines
          rw [hrest] at hinit hall
          have hmissing : missing = routine ::
              (neededAt target.level routines).filter (lacks (front ++ bottom)) :=
            filter_neededAt_cons_of_pos _ hlevel hlacks
          refine ⟨routine :: added, ?_, ?_, fun hf => ?_, fun hok => hfailure ▸ hends hok⟩
          · rw [hmissing]
            exact List.cons_prefix_cons.2 ⟨rfl, hinit⟩
          · rw [show edit.lines = _ from hlines.trans hlines']
            simp [Target.copies]
          · rw [hmissing, hall (hfailure.symm.trans hf)]
      · have hnot : routine.level ≤ target.level → lacks (front ++ bottom) routine = false := by
          intro hlevel
          simpa [hlevel] using hwanted
        obtain ⟨hfailure, hlines⟩ := addRoutines_of_not_lacks target hmem hnot front.length warned
        have hmissing : missing =
            (neededAt target.level routines).filter (lacks (front ++ bottom)) :=
          filter_neededAt_cons_of_neg _ hnot
        rw [hmissing, show edit.failure = _ from hfailure, show edit.lines = _ from hlines]
        exact ih hcat' hnodup' front warned

/-! ## Sections -/

theorem isRunHeader_header : isRunHeader (Section.header runSection) = true := by decide

theorem isCodeHeader_header : isCodeHeader (Section.header codeSection) = true := by
  decide

theorem isCodeHeader_of_isRunHeader {line : String} (h : isRunHeader line = true) :
    isCodeHeader line = false := by
  have hne : lower (Section.header (trim runSection)) ≠
      lower (Section.header (trim codeSection)) := by decide
  rw [isRunHeader, Section.isHeaderFor, beq_iff_eq] at h
  rw [isCodeHeader, Section.isHeaderFor, h]
  exact beq_false_of_ne hne

theorem start?_run (lines : List String) :
    Section.start? runSection lines = indexFrom? isRunHeader 0 lines :=
  Section.start?_eq (by decide) lines

theorem start?_code (lines : List String) :
    Section.start? codeSection lines = indexFrom? isCodeHeader 0 lines :=
  Section.start?_eq (by decide) lines

theorem any_isCodeHeader_withCode (lines : List String) :
    (withCode lines).any isCodeHeader = true := by
  unfold withCode
  split
  · assumption
  · simp [isCodeHeader_header]

variable {request : Request} {lines : List String}

namespace Request

theorem any_isRunHeader_withRun (hi : request.installer.isEmpty = false) (lines : List String) :
    (request.withRun lines).any isRunHeader = true := by
  rw [withRun, hi, Bool.false_or]
  split
  · assumption
  · rw [List.any_eq_true]
    exact ⟨_, mem_insertAbove.2 (Or.inl (List.mem_singleton_self _)), isRunHeader_header⟩

theorem any_isCodeHeader_stepped (hrun : request.installer.isEmpty = false →
    lines.any isRunHeader = true) :
    (request.stepped lines).any isCodeHeader = lines.any isCodeHeader := by
  unfold stepped
  cases hi : request.installer.isEmpty with
  | true => rfl
  | false =>
      obtain ⟨above, head, below, rfl, habove, hhead⟩ := exists_first (hrun hi)
      rw [if_neg (by simp), insertBelow_first habove hhead]
      simp [isCodeHeader, RunStep.isHeaderFor_entry]

theorem withCode_stepped (hrun : request.installer.isEmpty = false →
    lines.any isRunHeader = true) :
    withCode (request.stepped lines) = request.stepped (withCode lines) := by
  rw [withCode, any_isCodeHeader_stepped hrun, withCode]
  cases hc : lines.any isCodeHeader with
  | true => rfl
  | false =>
      unfold stepped
      cases hi : request.installer.isEmpty with
      | true => rfl
      | false => exact (insertBelow_append (hrun hi)).symm

end Request

/-! ## The whole sync -/

theorem insertBefore_run (h : lines.any isRunHeader = false) :
    (Section.insertBefore runSection codeSection lines).2 =
        insertAbove isCodeHeader [Section.header runSection] lines ∧
      indexFrom? isRunHeader 0 (Section.insertBefore runSection codeSection lines).2 =
        some (Section.insertBefore runSection codeSection lines).1 := by
  rw [Section.insertBefore, if_neg (by decide), start?_code]
  cases hc : indexFrom? isCodeHeader 0 lines with
  | none =>
      refine ⟨(insertAbove_of_none (indexFrom?_zero_eq_none_iff.1 hc)).symm, ?_⟩
      exact indexFrom?_first h isRunHeader_header
  | some start =>
      refine ⟨insertAt_eq_insertAbove hc, ?_⟩
      obtain ⟨above, head, below, rfl, habove, hhead, rfl⟩ := exists_first_of_indexFrom? hc
      have hrun : above.any isRunHeader = false := by
        rw [List.any_append, Bool.or_eq_false_iff] at h
        exact h.1
      simp only [insertAt, List.take_left, List.drop_left, List.append_assoc]
      exact indexFrom?_first hrun isRunHeader_header

theorem Request.fails_of_hasText (h : hasText request.major = true) :
    request.fails = false := by
  rw [Request.fails, h]
  exact Bool.and_false _

section Step

variable {target : Target}

theorem addRunStep_of_isEmpty
    (h : (target.runtime.installerName target.major).isEmpty = true) (lines : List String) :
    (addRunStep target lines).lines = lines ∧
      (addRunStep target lines).failure =
        if hasText target.major then none else some .tooManyDigits := by
  unfold addRunStep
  simp only [h, if_true]
  split <;> exact ⟨rfl, rfl⟩

theorem addRunStep_of_not_isEmpty
    (h : (target.runtime.installerName target.major).isEmpty = false) (lines : List String) :
    (addRunStep target lines).lines =
        insertBelow isRunHeader [RunStep.entry (target.runtime.installerName target.major)]
          (withRunSection lines) ∧
      (addRunStep target lines).failure = none := by
  unfold addRunStep withRunSection
  rw [start?_run]
  cases hr : indexFrom? isRunHeader 0 lines with
  | some start =>
      have hany : lines.any isRunHeader = true := by
        cases ha : lines.any isRunHeader with
        | true => rfl
        | false => rw [indexFrom?_zero_eq_none_iff.2 ha] at hr; simp at hr
      simp only [h, hany, if_true, Bool.false_eq_true, if_false, and_true]
      exact insertAt_eq_insertBelow hr
  | none =>
      have hnone := indexFrom?_zero_eq_none_iff.1 hr
      obtain ⟨hlines, hstart⟩ := insertBefore_run hnone
      simp only [h, hnone, Bool.false_eq_true, if_false, and_true]
      rw [← hlines]
      exact insertAt_eq_insertBelow hstart

variable (husual : target.IsUsual)

include husual

theorem addRunStep_of_fails (h : target.request.fails = true) (lines : List String) :
    (addRunStep target lines).lines = lines ∧
      (addRunStep target lines).failure = some .tooManyDigits := by
  rw [Request.fails, Bool.and_eq_true, Bool.not_eq_true', ← husual.installerName_eq] at h
  have htext : hasText target.major = false := h.2
  obtain ⟨hlines, hfailure⟩ := addRunStep_of_isEmpty h.1 lines
  rw [htext] at hfailure
  exact ⟨hlines, hfailure⟩

theorem addRunStep_of_not_fails (h : target.request.fails = false) (lines : List String) :
    (addRunStep target lines).lines = target.request.stepped (target.request.withRun lines) ∧
      (addRunStep target lines).failure = none := by
  unfold Request.stepped Request.withRun
  cases hi : target.request.installer.isEmpty with
  | true =>
      have htext : hasText target.major = true := by
        rw [Request.fails, hi, Bool.true_and, Bool.not_eq_false'] at h
        exact h
      rw [← husual.installerName_eq] at hi
      obtain ⟨hlines, hfailure⟩ := addRunStep_of_isEmpty hi lines
      rw [htext] at hfailure
      exact ⟨hlines, hfailure⟩
  | false =>
      rw [← husual.installerName_eq] at hi ⊢
      exact addRunStep_of_not_isEmpty hi lines

end Step

theorem ensure_code (lines : List String) :
    (Section.ensure codeSection lines).2 = withCode lines ∧
      indexFrom? isCodeHeader 0 (withCode lines) =
        some (Section.ensure codeSection lines).1 := by
  rw [Section.ensure, start?_code, withCode]
  cases hc : indexFrom? isCodeHeader 0 lines with
  | none =>
      have hnone := indexFrom?_zero_eq_none_iff.1 hc
      rw [if_neg (by simp [hnone])]
      exact ⟨rfl, indexFrom?_first hnone isCodeHeader_header⟩
  | some start =>
      obtain ⟨above, head, below, rfl, habove, hhead, -⟩ := exists_first_of_indexFrom? hc
      rw [if_pos (by simp [hhead])]
      exact ⟨rfl, hc⟩

theorem missing_stepped (request : Request) (lines : List String) :
    request.missing (request.stepped lines) = request.missing lines := by
  refine List.filter_congr fun routine hr => ?_
  unfold Request.stepped
  split
  · rfl
  · refine lacks_insertBelow fun signature hs line hl => ?_
    rw [List.mem_singleton] at hl
    rw [hl]
    exact carries_of_mem_catalog ((neededAt_sublist _ _).subset hr) hs
      (RunStep.inert_entry _).2

section Catalog

variable {target : Target} (hcatalog : target.catalog = Routine.catalog)

include hcatalog

/-- The routines go below the header of the code section, up to the first whose values are
refused or called for a report that cannot be written. -/
theorem generate_lines {lines : List String} (h : (addRunStep target lines).failure = none) :
    let ready := withCode (addRunStep target lines).lines
    ∃ added, added <+: target.missing ready ∧
      (generate target lines).lines = insertBelow isCodeHeader (target.copies added) ready ∧
      ((generate target lines).failure = none → added = target.missing ready) ∧
      target.MayEndIn (generate target lines).failure := by
  intro ready
  obtain ⟨hensure, hstart⟩ := ensure_code (addRunStep target lines).lines
  obtain ⟨above, head, below, hsplit, habove, hhead, hlength⟩ :=
    exists_first_of_indexFrom? hstart
  have hfront : above ++ [head] ++ below = ready := by
    rw [show ready = _ from hsplit]
    simp
  have hposition : (Section.ensure codeSection (addRunStep target lines).lines).1 + 1 =
      (above ++ [head]).length := by
    rw [← hlength]
    simp
  obtain ⟨added, hinit, hlines, hall, hnone⟩ := addRoutines_lines target (fun _ hr => hr)
    nodup_catalog (above ++ [head]) below false
  rw [hfront] at hinit hlines hall hnone
  have hgenerate : (generate target lines).lines =
      (addRoutines target catalog (above ++ [head]).length false ready).lines ∧
      (generate target lines).failure =
        (addRoutines target catalog (above ++ [head]).length false ready).failure := by
    rw [generate]
    simp only [h, Option.isSome_none, Bool.false_eq_true, if_false, hcatalog]
    rw [hensure, hposition]
    exact ⟨rfl, rfl⟩
  rw [hgenerate.1, hgenerate.2, hlines]
  refine ⟨added, hinit, ?_, hall, hnone⟩
  rw [show ready = _ from hsplit, insertBelow_first habove hhead]
  simp

theorem sync_of_catalog (lines : List String) :
    (GeneratedCode.sync target lines).failure =
        (if target.level.providesRuntime then (generate target (target.bare lines)).failure
        else none) ∧
      (GeneratedCode.sync target lines).lines =
        if target.level.providesRuntime then (generate target (target.bare lines)).lines
        else (dropEmptyCode (target.bare lines)).1 := by
  have hfailure : (removeGenerated catalog lines).1.failure = none :=
    removeGenerated_failure signature?_of_mem_catalog lines
  rw [GeneratedCode.sync, hcatalog]
  simp only [hfailure, Option.isSome_none, Bool.false_eq_true, if_false, Target.bare]
  cases target.level.providesRuntime with
  | true => simp only [if_true, and_self]
  | false => simp only [Bool.false_eq_true, if_false, and_self]

end Catalog

section Usual

variable {target : Target} (husual : target.IsUsual)

include husual

theorem generate_of_usual (h : target.request.fails = false) (lines : List String) :
    (generate target lines).failure = none ∧
      (generate target lines).lines =
        insertBelow isCodeHeader
          (target.copies (target.request.missing (target.request.sections lines)))
          (target.request.stepped (target.request.sections lines)) := by
  obtain ⟨hstepped, hfailure⟩ := addRunStep_of_not_fails husual h lines
  obtain ⟨added, -, hlines, hall, hnone⟩ := generate_lines husual.catalog hfailure
  have hsections : withCode (target.request.stepped (target.request.withRun lines)) =
      target.request.stepped (target.request.sections lines) :=
    Request.withCode_stepped fun hi => Request.any_isRunHeader_withRun hi lines
  have hmissing : target.missing (target.request.stepped (target.request.sections lines)) =
      target.request.missing (target.request.sections lines) := missing_stepped target.request _
  have hdone := hnone.eq_none (.inl husual.lenient) (husual.able h)
  rw [hlines, hall hdone, hstepped, hsections, hmissing]
  exact ⟨hdone, rfl⟩

theorem sync_of_usual (lines : List String) :
    (GeneratedCode.sync target lines).failure =
        (if target.level.providesRuntime then (generate target (bare lines)).failure else none) ∧
      (GeneratedCode.sync target lines).lines =
        if target.level.providesRuntime then (generate target (bare lines)).lines
        else (dropEmptyCode (bare lines)).1 := by
  have hbare : target.bare lines = bare lines := by
    rw [Target.bare, husual.family]
    rfl
  rw [← hbare]
  exact sync_of_catalog husual.catalog lines

/-- A sync fails only where the warning about a missing installer cannot be written. -/
theorem failure_sync_of_usual (lines : List String) :
    (GeneratedCode.sync target lines).failure =
      if target.level.providesRuntime && target.request.fails then some .tooManyDigits
      else none := by
  rw [(sync_of_usual husual lines).1]
  cases target.level.providesRuntime with
  | false => rfl
  | true =>
      cases hf : target.request.fails with
      | false => exact (generate_of_usual husual hf _).1
      | true =>
          obtain ⟨-, hfail⟩ := addRunStep_of_fails husual hf (bare lines)
          simp only [if_true, generate, hfail, Option.isSome_some, Bool.and_self]

end Usual

theorem generate_of_not_fails (h : request.fails = false) :
    (generate request.target lines).lines = request.full (request.sections lines) :=
  (generate_of_usual request.isUsual_target h lines).2

theorem sync_eq (request : Request) (lines : List String) :
    request.sync lines =
      if request.level.providesRuntime then (generate request.target (bare lines)).lines
      else (dropEmptyCode (bare lines)).1 := (sync_of_usual request.isUsual_target lines).2

theorem sync_of_fails (hp : request.level.providesRuntime = true) (hf : request.fails = true) :
    request.sync lines = bare lines := by
  obtain ⟨hlines, hfailure⟩ := addRunStep_of_fails request.isUsual_target hf (bare lines)
  rw [sync_eq, if_pos hp, generate]
  simp only [hfailure, Option.isSome_some, if_true]
  exact hlines

theorem sync_of_not_fails (hp : request.level.providesRuntime = true)
    (hf : request.fails = false) :
    request.sync lines = request.full (request.sections (bare lines)) := by
  rw [sync_eq, if_pos hp, generate_of_not_fails hf]

theorem sync_of_not_provides (hp : request.level.providesRuntime = false) :
    request.sync lines = (dropEmptyCode (bare lines)).1 := by
  rw [sync_eq, hp]
  rfl

end SetupForge.GeneratedCode
