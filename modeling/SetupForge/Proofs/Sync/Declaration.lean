import SetupForge.Proofs.Script.SectionBody
import SetupForge.Proofs.Sync.Additions

/-! # Where routines are declared

Pascal wants a routine declared above its first use, and the catalog lists each routine below the
ones that it calls. A sync puts what the lines lack directly below the header of the code section,
in the order of the catalog. Among themselves these routines stand in order; a routine of the
author keeps its place, which may be below a generated one that calls it.
-/

namespace SetupForge.GeneratedCode

open Text Lines Routine

def declares (routine : Routine) (line : String) : Bool :=
  routine.signature?.any fun signature => carries signature line

/-- Whether both routines are declared, and the first lines that declare them stand in order. -/
def Precedes (lines : List String) (helper caller : Routine) : Prop :=
  lines.findIdx (declares helper) < lines.findIdx (declares caller) ∧
    lines.findIdx (declares caller) < lines.length

instance (lines : List String) (helper caller : Routine) :
    Decidable (Precedes lines helper caller) := instDecidableAnd

def aboveCode (lines : List String) : List String :=
  lines.takeWhile fun line => !isCodeHeader line

/-- Whether two routines come to stand in order once each that is lacking is put directly below
the header of the code section. -/
def Fits (lines : List String) (helper caller : Routine) : Prop :=
  if lacks lines helper then lacks (aboveCode lines) caller = true
  else if lacks lines caller then lacks (aboveCode lines) helper = false
  else Precedes lines helper caller

instance (lines : List String) (helper caller : Routine) : Decidable (Fits lines helper caller) :=
  inferInstanceAs (Decidable (if lacks lines helper then lacks (aboveCode lines) caller = true
    else if lacks lines caller then lacks (aboveCode lines) helper = false
    else Precedes lines helper caller))

variable {request : Request} {lines other above below : List String}
variable {routine helper caller : Routine}

/-! ## Lines that declare a routine -/

theorem lacks_eq (lines : List String) (routine : Routine) :
    lacks lines routine = !lines.any (declares routine) := by
  unfold lacks declares
  cases routine.signature? with
  | none => simp
  | some signature => rfl

theorem lacks_append (above below : List String) (routine : Routine) :
    lacks (above ++ below) routine = (lacks above routine && lacks below routine) := by
  simp [lacks_eq]

theorem lacks_cons (line : String) (lines : List String) (routine : Routine) :
    lacks (line :: lines) routine = (!declares routine line && lacks lines routine) := by
  simp [lacks_eq]

theorem findIdx_declares_lt_iff :
    lines.findIdx (declares routine) < lines.length ↔ lacks lines routine = false := by
  rw [List.findIdx_lt_length, lacks_eq, Bool.not_eq_false', List.any_eq_true]

theorem declares_of_inert {line : String} (h : routine ∈ catalog) (hl : Inert line) :
    declares routine line = false := by
  unfold declares
  cases hs : routine.signature? with
  | none => rfl
  | some signature => exact carries_of_mem_catalog h hs hl.2

theorem declares_of_isCodeHeader {line : String} (h : routine ∈ catalog)
    (hl : isCodeHeader line = true) : declares routine line = false :=
  declares_of_inert h (Section.inert_of_isHeaderFor hl)

theorem eq_of_declares {line : String} (hhelper : helper ∈ catalog) (hcaller : caller ∈ catalog)
    (h : declares helper line = true) (h' : declares caller line = true) : helper = caller := by
  obtain ⟨signature, hs, hcarries⟩ := (Option.any_eq_true _ _).1 h
  obtain ⟨signature', hs', hcarries'⟩ := (Option.any_eq_true _ _).1 h'
  rw [carries, beq_iff_eq] at hcarries hcarries'
  refine eq_of_carries hhelper hcaller hs hs' ?_
  rw [carries, ← hcarries, ← hcarries']
  exact beq_self_eq_true _

/-- Where every heading is one routine's, the other routines are lacking. -/
theorem lacks_of_headings (h : routine ∈ catalog) (hcaller : caller ∈ catalog)
    (hne : routine ≠ caller)
    (hl : ∀ line ∈ lines, looksLikeHeading line = true → declares caller line = true) :
    lacks lines routine = true := by
  rw [lacks_eq, Bool.not_eq_true', List.any_eq_false]
  intro line hline hdeclares
  have hheading : looksLikeHeading line = true := by
    cases hh : looksLikeHeading line with
    | true => rfl
    | false =>
        obtain ⟨signature, hs, hcarries⟩ := (Option.any_eq_true _ _).1 hdeclares
        rw [carries_of_mem_catalog h hs hh] at hcarries
        exact hcarries
  exact hne (eq_of_declares h hcaller hdeclares (hl line hline hheading))

theorem lacks_filter {keep : String → Bool}
    (h : ∀ line, declares routine line = true → keep line = true) (lines : List String) :
    lacks (lines.filter keep) routine = lacks lines routine := by
  induction lines with
  | nil => rfl
  | cons line lines ih =>
      rw [List.filter_cons]
      cases hk : keep line with
      | true => simp only [if_true, lacks_cons, ih]
      | false =>
          have hdeclares : declares routine line = false := by
            cases hd : declares routine line with
            | false => rfl
            | true => rw [h line hd] at hk; simp at hk
          simp only [Bool.false_eq_true, if_false, lacks_cons, hdeclares, ih, Bool.not_false,
            Bool.true_and]

/-- Two lists of lines with the same declarations and the same code header have the same
declarations above it. -/
theorem lacks_aboveCode_congr
    (h : lines.filter (fun line => declares routine line || isCodeHeader line) =
      other.filter fun line => declares routine line || isCodeHeader line) :
    lacks (aboveCode lines) routine = lacks (aboveCode other) routine := by
  have hkept : ∀ lines : List String,
      lacks (aboveCode lines) routine = lacks (aboveCode (lines.filter fun line =>
        declares routine line || isCodeHeader line)) routine := by
    intro lines
    rw [aboveCode, aboveCode, Section.takeWhile_filter fun line hl => by simpa using Or.inr hl,
      lacks_filter fun line hl => by simp [hl]]
  rw [hkept lines, h, ← hkept other]

/-! ## Order of declarations -/

theorem precedes_cons (line : String) :
    Precedes (line :: lines) helper caller ↔ declares caller line = false ∧
      if declares helper line then lacks lines caller = false
      else Precedes lines helper caller := by
  rw [Precedes, Precedes, List.findIdx_cons, List.findIdx_cons, List.length_cons,
    ← findIdx_declares_lt_iff]
  cases declares caller line <;> cases declares helper line <;> simp

/-- The order of two declarations shows in the lines that declare one of them. -/
theorem precedes_filter (lines : List String) :
    Precedes (lines.filter fun line => declares helper line || declares caller line) helper
      caller ↔ Precedes lines helper caller := by
  induction lines with
  | nil => rfl
  | cons line lines ih =>
      rw [precedes_cons, List.filter_cons]
      split
      · rw [precedes_cons, ih, lacks_filter fun line hl => by simp [hl]]
      · rename_i hneither
        simp only [Bool.or_eq_true, not_or, Bool.not_eq_true] at hneither
        rw [ih, hneither.1, hneither.2]
        simp

theorem precedes_congr
    (h : lines.filter (fun line => declares helper line || declares caller line) =
      other.filter fun line => declares helper line || declares caller line) :
    Precedes lines helper caller ↔ Precedes other helper caller := by
  rw [← precedes_filter, h, precedes_filter]

theorem precedes_append_of_lacks (h : lacks above helper = true) :
    Precedes (above ++ below) helper caller ↔
      lacks above caller = true ∧ Precedes below helper caller := by
  induction above with
  | nil => simp [lacks_eq]
  | cons line above ih =>
      rw [lacks_cons, Bool.and_eq_true, Bool.not_eq_true'] at h
      rw [List.cons_append, precedes_cons, h.1, if_neg (by simp), ih h.2, lacks_cons]
      simp [and_assoc]

theorem precedes_append_of_lacks_caller (h : lacks above caller = true) :
    Precedes (above ++ below) helper caller ↔
      if lacks above helper then Precedes below helper caller else lacks below caller = false := by
  induction above with
  | nil => simp [lacks_eq]
  | cons line above ih =>
      rw [lacks_cons, Bool.and_eq_true, Bool.not_eq_true'] at h
      rw [List.cons_append, precedes_cons, h.1, ih h.2, lacks_append, h.2, lacks_cons]
      cases declares helper line <;> simp

theorem Precedes.append (h : Precedes above helper caller) (below : List String) :
    Precedes (above ++ below) helper caller := by
  have hhelper := h.1.trans h.2
  rw [Precedes, List.findIdx_append, List.findIdx_append, if_pos hhelper, if_pos h.2,
    List.length_append]
  exact ⟨h.1, Nat.lt_add_right _ h.2⟩

/-! ## What a sync leaves as it is -/

section Kept

variable {keep : String → Bool}

theorem filter_withRun (h : keep (Section.header runSection) = false) (lines : List String) :
    (request.withRun lines).filter keep = lines.filter keep := by
  unfold Request.withRun
  split
  · rfl
  · rw [filter_insertAbove (by simpa using h)]

theorem filter_withCode (h : keep (Section.header codeSection) = false) (lines : List String) :
    (withCode lines).filter keep = lines.filter keep := by
  unfold withCode
  split
  · rfl
  · rw [List.filter_append, List.filter_cons_of_neg (by simp [h]), List.filter_nil,
      List.append_nil]

theorem filter_stepped (h : keep (RunStep.entry request.installer) = false)
    (lines : List String) : (request.stepped lines).filter keep = lines.filter keep := by
  unfold Request.stepped
  split
  · rfl
  · rw [filter_insertBelow (by simpa using h)]

theorem filter_ready (h : ∀ line, Inert line → keep line = false) (lines : List String) :
    (request.ready lines).filter keep = (bare lines).filter keep := by
  rw [Request.ready, filter_stepped (h _ (RunStep.inert_entry _)), Request.sections,
    filter_withCode (h _ (Section.inert_of_isHeaderFor isCodeHeader_header)),
    filter_withRun (h _ (Section.inert_of_isHeaderFor isRunHeader_header))]

end Kept

theorem lacks_ready (h : routine ∈ catalog) (lines : List String) :
    lacks (request.ready lines) routine = lacks (bare lines) routine := by
  have hself : ∀ line, declares routine line = true → declares routine line = true :=
    fun _ hl => hl
  rw [← lacks_filter hself, filter_ready (fun _ hl => declares_of_inert h hl),
    lacks_filter hself]

theorem precedes_ready (hhelper : helper ∈ catalog) (hcaller : caller ∈ catalog)
    (lines : List String) :
    Precedes (request.ready lines) helper caller ↔ Precedes (bare lines) helper caller := by
  refine precedes_congr (filter_ready (fun line hl => ?_) lines)
  rw [declares_of_inert hhelper hl, declares_of_inert hcaller hl, Bool.or_false]

theorem aboveCode_withCode (lines : List String) :
    aboveCode (withCode lines) = aboveCode lines := by
  unfold withCode
  split
  · rfl
  · rename_i hnone
    have hall : ∀ line ∈ lines, (!isCodeHeader line) = true := by simpa using hnone
    rw [aboveCode, List.takeWhile_append_of_pos hall, List.takeWhile_cons_of_neg
      (by simp [isCodeHeader_header]), aboveCode, List.takeWhile_eq_self_iff.2 hall,
      List.append_nil]

theorem lacks_aboveCode_ready (h : routine ∈ catalog) (lines : List String) :
    lacks (aboveCode (request.ready lines)) routine =
      lacks (aboveCode (bare lines)) routine := by
  have hentry := declares_of_inert h (RunStep.inert_entry request.installer)
  have hheader := declares_of_inert h (Section.inert_of_isHeaderFor isRunHeader_header)
  have hcode : isCodeHeader (RunStep.entry request.installer) = false :=
    RunStep.isHeaderFor_entry _ _
  calc lacks (aboveCode (request.ready lines)) routine
      = lacks (aboveCode (request.sections (bare lines))) routine :=
        lacks_aboveCode_congr (filter_stepped (by rw [hentry, hcode, Bool.or_false]) _)
    _ = lacks (aboveCode (request.withRun (bare lines))) routine := by
        rw [Request.sections, aboveCode_withCode]
    _ = lacks (aboveCode (bare lines)) routine :=
        lacks_aboveCode_congr (filter_withRun (by
          rw [hheader, isCodeHeader_of_isRunHeader isRunHeader_header, Bool.or_false]) _)

/-! ## What a sync puts in -/

theorem declares_of_mem_copies {routines : List Routine} {line : String} (h : routine ∈ catalog)
    (hall : ∀ other ∈ routines, other ∈ catalog) (hnew : routine ∉ routines)
    (hl : line ∈ request.copies routines) : declares routine line = false := by
  obtain ⟨other, hother, hline⟩ := List.mem_flatMap.1 hl
  unfold declares
  cases hs : routine.signature? with
  | none => rfl
  | some signature =>
      refine carries_copy request.target h (hall other hother) hs ?_ hline
      rintro rfl
      exact hnew hother

theorem lacks_copies_of_not_mem {routines : List Routine} (h : routine ∈ catalog)
    (hall : ∀ other ∈ routines, other ∈ catalog) (hnew : routine ∉ routines) :
    lacks (request.copies routines) routine = true := by
  rw [lacks_eq, Bool.not_eq_true', List.any_eq_false]
  intro line hl
  simp [declares_of_mem_copies h hall hnew hl]

theorem lacks_copies_of_mem {routines : List Routine} (h : routine ∈ catalog)
    (hmem : routine ∈ routines) : lacks (request.copies routines) routine = false := by
  obtain ⟨head, body, shape, hlaid⟩ := exists_laid_of_mem_catalog h
  rw [lacks_eq, Bool.not_eq_false', List.any_eq_true]
  refine ⟨head, List.mem_flatMap.2 ⟨routine, hmem, ?_⟩, ?_⟩
  · rw [Request.block, hlaid.map_fill]
    simp
  · rw [declares, hlaid.signature?_eq]
    exact carries_self head

theorem copies_append (first last : List Routine) :
    request.copies (first ++ last) = request.copies first ++ request.copies last :=
  List.flatMap_append

theorem precedes_copies {routines : List Routine} (hall : ∀ routine ∈ routines, routine ∈ catalog)
    (hnodup : routines.Nodup) (hsub : [helper, caller].Sublist routines) :
    Precedes (request.copies routines) helper caller := by
  obtain ⟨first, last, rfl, hhelper, hcaller⟩ := List.append_sublist_iff.1
    (show ([helper] ++ [caller]).Sublist routines from hsub)
  rw [List.singleton_sublist] at hhelper hcaller
  have hdisjoint := (List.nodup_append.1 hnodup).2.2
  have hnot : caller ∉ first := fun hmem => hdisjoint caller hmem caller hcaller rfl
  have hfirst : ∀ routine ∈ first, routine ∈ catalog := fun r hr =>
    hall r (List.mem_append_left last hr)
  have hin := hall caller (List.mem_append_right first hcaller)
  rw [copies_append, precedes_append_of_lacks_caller (lacks_copies_of_not_mem hin hfirst hnot),
    lacks_copies_of_mem (hfirst helper hhelper) hhelper, if_neg (by simp)]
  exact lacks_copies_of_mem hin hcaller

/-! ## Where the copies go -/

section Copies

variable {routines : List Routine} {head : String}
variable (hall : ∀ routine ∈ routines, routine ∈ catalog)
variable (hhelper : helper ∈ catalog) (hcaller : caller ∈ catalog)

include hall hhelper hcaller

/-- Copies of other routines leave two declarations in their order. -/
theorem precedes_iff_of_neither_copied (hnotHelper : helper ∉ routines)
    (hnotCaller : caller ∉ routines) :
    Precedes (above ++ head :: (request.copies routines ++ below)) helper caller ↔
      Precedes (above ++ head :: below) helper caller := by
  refine precedes_congr ?_
  have hnone : (request.copies routines).filter
      (fun line => declares helper line || declares caller line) = [] := by
    rw [List.filter_eq_nil_iff]
    intro line hl
    simp [declares_of_mem_copies hhelper hall hnotHelper hl,
      declares_of_mem_copies hcaller hall hnotCaller hl]
  simp only [List.filter_append, List.filter_cons, hnone, List.nil_append]

variable (hhead : isCodeHeader head = true)

include hhead

/-- The copy of a helper stands above every line of the code section, and below every line that
is above it. -/
theorem precedes_iff_of_helper_copied (hnodup : routines.Nodup) (hcopied : helper ∈ routines)
    (hlacks : lacks above helper = true)
    (hplace : [helper, caller].Sublist routines ∨
      caller ∉ routines ∧ lacks (above ++ head :: below) caller = false) :
    Precedes (above ++ head :: (request.copies routines ++ below)) helper caller ↔
      lacks above caller = true := by
  rw [precedes_append_of_lacks hlacks, precedes_cons, declares_of_isCodeHeader hhelper hhead,
    declares_of_isCodeHeader hcaller hhead, if_neg (by simp)]
  simp only [true_and, and_iff_left_iff_imp]
  intro habove
  rcases hplace with hsub | ⟨hnot, hdeclared⟩
  · exact (precedes_copies hall hnodup hsub).append below
  · rw [precedes_append_of_lacks_caller (lacks_copies_of_not_mem hcaller hall hnot),
      lacks_copies_of_mem hhelper hcopied, if_neg (by simp)]
    rwa [lacks_append, habove, lacks_cons, declares_of_isCodeHeader hcaller hhead] at hdeclared

/-- The copy of a caller stands below a helper of the author only if that is above the code
section. -/
theorem precedes_iff_of_caller_copied (hcopied : caller ∈ routines) (hnot : helper ∉ routines)
    (hlacks : lacks above caller = true) :
    Precedes (above ++ head :: (request.copies routines ++ below)) helper caller ↔
      lacks above helper = false := by
  have hin : lacks (request.copies routines) caller = false := lacks_copies_of_mem hcaller hcopied
  have hhead' := declares_of_isCodeHeader hcaller hhead
  rw [precedes_append_of_lacks_caller hlacks]
  cases lacks above helper with
  | false => simp [lacks_cons, lacks_append, hin]
  | true =>
      rw [if_pos rfl, precedes_cons, hhead', declares_of_isCodeHeader hhelper hhead,
        if_neg (by simp), precedes_append_of_lacks (lacks_copies_of_not_mem hhelper hall hnot), hin]
      simp

end Copies

/-! ## The whole sync -/

theorem exists_sync_eq (hp : request.level.providesRuntime = true) (hf : request.fails = false)
    (lines : List String) :
    ∃ above head below, isCodeHeader head = true ∧
      request.ready lines = above ++ head :: below ∧ aboveCode (request.ready lines) = above ∧
      request.sync lines =
        above ++ head :: (request.copies (request.missing (bare lines)) ++ below) := by
  obtain ⟨above, head, below, hready, habove, hhead⟩ :=
    exists_first (any_isCodeHeader_ready request lines)
  refine ⟨above, head, below, hhead, hready, ?_, ?_⟩
  · have hpass : ∀ line ∈ above, (!isCodeHeader line) = true := by simpa using habove
    rw [hready, aboveCode, List.takeWhile_append_of_pos hpass,
      List.takeWhile_cons_of_neg (by simp [hhead]), List.append_nil]
  · rw [sync_eq_insertBelow hp hf, hready, insertBelow_first habove hhead]

/-- After a sync two needed routines are declared in order exactly if they fit. -/
theorem precedes_sync_iff (hp : request.level.providesRuntime = true)
    (hf : request.fails = false) (hsub : [helper, caller].Sublist (neededAt request.level catalog))
    (lines : List String) :
    Precedes (request.sync lines) helper caller ↔ Fits (bare lines) helper caller := by
  have hneeded : helper ∈ neededAt request.level catalog ∧
      caller ∈ neededAt request.level catalog := ⟨hsub.subset (by simp), hsub.subset (by simp)⟩
  have hhelper := (neededAt_sublist _ _).subset hneeded.1
  have hcaller := (neededAt_sublist _ _).subset hneeded.2
  have hall := request.missing_subset_catalog (bare lines)
  have hnodup : (request.missing (bare lines)).Nodup :=
    nodup_catalog.sublist (List.filter_sublist.trans (neededAt_sublist _ _))
  have hmissing : ∀ routine ∈ neededAt request.level catalog,
      routine ∈ request.missing (bare lines) ↔ lacks (bare lines) routine = true :=
    fun routine hr => by simp [Request.missing, hr]
  obtain ⟨above, head, below, hhead, hready, habove, hsync⟩ := exists_sync_eq hp hf lines
  have hlacks : ∀ routine ∈ catalog, lacks (above ++ head :: below) routine =
      lacks (bare lines) routine := fun routine hr => hready ▸ lacks_ready hr lines
  have hlacksAbove : ∀ routine ∈ catalog, lacks above routine =
      lacks (aboveCode (bare lines)) routine := fun routine hr =>
    habove ▸ lacks_aboveCode_ready hr lines
  have hnotAbove : ∀ routine ∈ catalog, lacks (bare lines) routine = true →
      lacks above routine = true := by
    intro routine hr hl
    rw [← hlacks routine hr, lacks_append, Bool.and_eq_true] at hl
    exact hl.1
  rw [hsync, Fits, ← hlacksAbove helper hhelper, ← hlacksAbove caller hcaller]
  cases hh : lacks (bare lines) helper with
  | true =>
      have hcopied := (hmissing helper hneeded.1).2 hh
      rw [if_pos rfl]
      refine precedes_iff_of_helper_copied hall hhelper hcaller hhead hnodup hcopied
        (hnotAbove helper hhelper hh) ?_
      cases hc : lacks (bare lines) caller with
      | true =>
          -- both are copied, in the order of the catalog
          have hpair := hsub.filter (lacks (bare lines))
          rw [List.filter_cons_of_pos hh, List.filter_cons_of_pos hc] at hpair
          exact Or.inl hpair
      | false =>
          refine Or.inr ⟨?_, (hlacks caller hcaller).trans hc⟩
          rw [hmissing caller hneeded.2, hc]
          simp
  | false =>
      have hnot : helper ∉ request.missing (bare lines) := by
        rw [hmissing helper hneeded.1, hh]
        simp
      rw [if_neg (by simp)]
      cases hc : lacks (bare lines) caller with
      | true =>
          rw [if_pos rfl]
          exact precedes_iff_of_caller_copied hall hhelper hcaller hhead
            ((hmissing caller hneeded.2).2 hc) hnot (hnotAbove caller hcaller hc)
      | false =>
          have hnot' : caller ∉ request.missing (bare lines) := by
            rw [hmissing caller hneeded.2, hc]
            simp
          rw [if_neg (by simp), precedes_iff_of_neither_copied hall hhelper hcaller hnot hnot',
            ← hready]
          exact precedes_ready hhelper hcaller lines

/-- On lines without markers, the routines that a level needs are declared in the order of the
catalog after a sync exactly if each two of them fit: a helper that the author put into the code
section comes to stand below every copy. -/
theorem declared_in_order_iff (hmarkers : ∀ line ∈ lines, Marker.isMarker line = false)
    (hp : request.level.providesRuntime = true)
    (hok : (GeneratedCode.sync request.target lines).failure = none) :
    (neededAt request.level catalog).Pairwise (Precedes (request.sync lines)) ↔
      (neededAt request.level catalog).Pairwise
        (Fits (RunStep.removeAll runtimeFamily lines)) := by
  have hf : request.fails = false := by
    rw [sync_failure, hp, Bool.true_and] at hok
    simpa using hok
  rw [List.pairwise_iff_forall_sublist, List.pairwise_iff_forall_sublist,
    ← bare_of_unmarked hmarkers]
  refine forall_congr' fun helper => forall_congr' fun caller => ?_
  exact imp_congr_right fun hsub => precedes_sync_iff hp hf hsub lines

theorem neededAt_netInstallIncluded : neededAt .netInstallIncluded catalog =
    [runAndCaptureOutput, extractMajorVersion, isDotnetRuntimeInstalled] ++ [needsDotNet] := rfl

/-- The last routine of the catalog that a level needs may be the author's. -/
theorem declared_in_order_iff_lastSupplied :
    let lines := ["[Setup]", "[Code]", "FUNCTION NeedsDotNet: Boolean;", "begin", "end;"]
    let request : Request := ⟨8, .netInstallIncluded⟩
    (∀ line ∈ lines, Marker.isMarker line = false) ∧ request.level.providesRuntime = true ∧
      (GeneratedCode.sync request.target lines).failure = none ∧
      (neededAt request.level catalog).Pairwise (Precedes (request.sync lines)) := by
  intro lines request
  have hmarkers : ∀ line ∈ lines, Marker.isMarker line = false := by decide +kernel
  have hok : (GeneratedCode.sync request.target lines).failure = none := by
    have hf : request.fails = false := Request.fails_of_hasText (by decide +kernel)
    rw [sync_failure, hf]
    rfl
  have habove : ∀ line ∈ aboveCode (RunStep.removeAll runtimeFamily lines),
      looksLikeHeading line = false := by decide +kernel
  have hheadings : ∀ line ∈ lines, looksLikeHeading line = true →
      declares needsDotNet line = true := by decide +kernel
  have hcopied : ∀ helper ∈ [runAndCaptureOutput, extractMajorVersion, isDotnetRuntimeInstalled],
      helper ∈ catalog ∧ helper ≠ needsDotNet := by
    simp [catalog, runAndCaptureOutput, extractMajorVersion, isDotnetRuntimeInstalled,
      needsDotNet, marked]
  -- every pair has a copied helper, and nothing stands above the code section
  have hfits : ∀ helper ∈ [runAndCaptureOutput, extractMajorVersion, isDotnetRuntimeInstalled],
      ∀ caller ∈ catalog, Fits (RunStep.removeAll runtimeFamily lines) helper caller := by
    intro helper hhelper caller hcaller
    have hlacks : lacks (RunStep.removeAll runtimeFamily lines) helper = true :=
      lacks_of_headings (hcopied helper hhelper).1 (by simp [catalog]) (hcopied helper hhelper).2
        fun line hl => hheadings line ((RunStep.removeAll_sublist _ _).subset hl)
    rw [Fits, if_pos hlacks]
    exact lacks_of_no_heading hcaller habove
  refine ⟨hmarkers, rfl, hok, (declared_in_order_iff hmarkers rfl hok).2 ?_⟩
  rw [neededAt_netInstallIncluded, List.pairwise_append]
  refine ⟨List.pairwise_of_forall_mem_list fun helper hhelper caller hcaller =>
    hfits helper hhelper caller (hcopied caller hcaller).1, List.pairwise_singleton _ _, ?_⟩
  intro helper hhelper caller hcaller
  rw [List.mem_singleton.1 hcaller]
  exact hfits helper hhelper needsDotNet (by simp [catalog])

/-- A helper that the author put into the code section is declared below the copy of the routine
that calls it. -/
theorem helper_declared_below_caller :
    let lines := ["[Code]", "function ExtractMajorVersion(const Version: String): Integer;",
      "begin", "  Result := 8;", "end;"]
    let request : Request := ⟨8, .netInstallIncluded⟩
    (∀ line ∈ lines, Marker.isMarker line = false) ∧ request.level.providesRuntime = true ∧
      (GeneratedCode.sync request.target lines).failure = none ∧
      ¬ Precedes (request.sync lines) extractMajorVersion needsDotNet ∧
      ¬ (neededAt request.level catalog).Pairwise (Precedes (request.sync lines)) := by
  intro lines request
  have hmarkers : ∀ line ∈ lines, Marker.isMarker line = false := by decide +kernel
  have hbare : bare lines = lines := by
    rw [bare_of_unmarked hmarkers]
    decide +kernel
  have hf : request.fails = false := Request.fails_of_hasText (by decide +kernel)
  have hsub : [extractMajorVersion, needsDotNet].Sublist (neededAt request.level catalog) :=
    .cons _ (.cons_cons _ (.cons _ (.cons_cons _ (List.nil_sublist _))))
  have hheadings : ∀ line ∈ lines, looksLikeHeading line = true →
      declares extractMajorVersion line = true := by decide +kernel
  have hsupplied : lacks lines extractMajorVersion = false := by
    rw [lacks_eq, Bool.not_eq_false', List.any_eq_true]
    exact ⟨_, List.mem_cons_of_mem _ (List.mem_cons_self ..), carries_self _⟩
  have hlacking : lacks lines needsDotNet = true := by
    refine lacks_of_headings (by simp [catalog]) (by simp [catalog]) ?_ hheadings
    simp [needsDotNet, extractMajorVersion, marked]
  have hnot : ¬ Precedes (request.sync lines) extractMajorVersion needsDotNet := by
    rw [precedes_sync_iff rfl hf hsub, hbare, Fits, hsupplied, hlacking]
    decide +kernel
  refine ⟨hmarkers, rfl, ?_, hnot, ?_⟩
  · rw [sync_failure, hf]
    rfl
  · intro hall
    exact hnot (List.pairwise_iff_forall_sublist.1 hall hsub)

end SetupForge.GeneratedCode
