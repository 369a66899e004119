import SetupForge.Proofs.Cleanup.Copies
import SetupForge.Proofs.Pascal.BlockBalance
import SetupForge.Proofs.Pascal.Scanner

/-! # Values pasted into generated routines

The values of the placeholders are pasted between quotes as they are. A filled routine ends its
block on its last line exactly if each of its lines still ends in code and opens as many blocks
more than it closes as it did before; a quote in a value can break this. As long as it holds,
the cleanup takes out the routine and nothing else.
-/

namespace SetupForge

namespace Text

theorem cut?_eq_none_of_not_mem {part text : List Char} {c : Char} (hc : c ∈ part)
    (h : c ∉ text) : cut? part text = none := by
  cases hcut : cut? part text with
  | none => rfl
  | some pieces =>
      rw [eq_append_of_cut? hcut] at h
      simp [hc] at h

theorem occursIn_of_append {part more text : List Char} (h : occursIn (part ++ more) text = true) :
    occursIn part text = true := by
  have hstarts : ∀ text : List Char, (part ++ more).isPrefixOf text = true →
      part.isPrefixOf text = true := by
    intro text hp
    rw [List.isPrefixOf_iff_prefix] at hp ⊢
    exact (List.prefix_append part more).trans hp
  induction text with
  | nil =>
      simp only [occursIn, List.isEmpty_iff, List.append_eq_nil_iff] at h ⊢
      exact h.1
  | cons c text ih =>
      simp only [occursIn, Bool.or_eq_true] at h ⊢
      exact h.imp (hstarts _) ih

end Text

open Text

namespace Pascal

/-- How many blocks a line of this effect opens more than it closes. -/
def Effect.shift (effect : Effect) : Int := effect.opens.toInt - effect.closes.toInt

/-- How many blocks a text opens more than it closes, if it starts and ends in code. -/
def shift? (text : List Char) : Option Int := (effect? text).map Effect.shift

/-! ## Lines inside a comment -/

variable {comment : Comment} {used : Bool} {depth n : Nat} {lines above : List String}

/-- Lines in which a comment does not end neither open nor close a block. -/
theorem blockLength?_commented
    (h : ∀ line ∈ lines, Text.cut? comment.closer line.toList = none)
    (hopen : (used && depth == 0) = false) :
    blockLength? (some comment) used depth lines = none := by
  induction lines with
  | nil => rfl
  | cons line lines ih =>
      have hcode : code (some comment) line.toList = ([], some comment) := by
        rw [code_eq_read, Scanner.read_comment, h line (by simp)]
      have hnone : opensBlock [] = false := by decide
      have hrest := ih fun line hl => h line (List.mem_cons_of_mem _ hl)
      simp [blockLength?, hcode, hnone, depthAfter_nil, hopen, hrest]

theorem exists_blockLength?_of_append (h : ∀ line ∈ above, (code none line.toList).2 = none)
    (hn : blockLength? none used depth (above ++ lines) = some n) (hle : above.length ≤ n) :
    ∃ used depth, blockLength? none used depth lines = some (n - above.length) := by
  induction above generalizing used depth n with
  | nil => exact ⟨used, depth, hn⟩
  | cons line above ih =>
      rw [List.length_cons] at hle ⊢
      rw [List.cons_append, blockLength?, h line (by simp)] at hn
      split at hn
      · simp only [Option.some.injEq] at hn
        omega
      · obtain ⟨m, hm, rfl⟩ := Option.map_eq_some_iff.1 hn
        have hrest := ih (fun line hl => h line (List.mem_cons_of_mem _ hl)) hm (by omega)
        rwa [Nat.add_sub_add_right]

/-- Behind a line that leaves a comment open, no block ends as long as nothing ends the comment. -/
theorem length_le_of_commented (h : ∀ line ∈ above, (code none line.toList).2 = none)
    {line : String} (hline : (code none line.toList).2 = some comment)
    (hlines : ∀ line ∈ lines, Text.cut? comment.closer line.toList = none)
    (hn : blockLength? none used depth (above ++ line :: lines) = some n) :
    n ≤ above.length := by
  by_contra hlt
  obtain ⟨used, depth, hrest⟩ := exists_blockLength?_of_append h hn (by omega)
  rw [blockLength?, hline] at hrest
  split at hrest
  · simp only [Option.some.injEq] at hrest
    omega
  · rename_i hopen
    rw [blockLength?_commented hlines (Bool.not_eq_true _ ▸ hopen)] at hrest
    simp at hrest

theorem effect?_eq_none_iff {text : List Char} :
    effect? text = none ↔ ∃ comment, (code none text).2 = some comment := by
  unfold effect?
  split
  · rename_i scanned hcode
    simp [hcode]
  · rename_i scanned comment hcode
    simp [hcode]

/-- Whether a block ends on its last line does not depend on what stands around it. -/
theorem blockEnd?_append_iff {block below : List String} (hpos : 0 < block.length) :
    blockEnd? (above ++ (block ++ below)) above.length = some (above.length + (block.length - 1)) ↔
      blockLength? none false 0 block = some (block.length - 1) := by
  rw [blockEnd?_append_right, Option.map_eq_some_iff]
  constructor
  · rintro ⟨n, hn, hlast⟩
    obtain rfl : n = block.length - 1 := by omega
    have htake := blockLength?_take hn
    rwa [Nat.sub_add_cancel hpos, List.take_left] at htake
  · intro hclosed
    exact ⟨_, blockLength?_append hclosed below, Nat.add_comm _ _⟩

end Pascal

namespace Placeholder

variable {settings : RuntimeSettings} {major : Int}

theorem fill_of_not_occursIn {line : String} (h : occursIn ['{', 'R'] line.toList = false) :
    fill settings major line = line := by
  have hnone : ∀ placeholder, occursIn (token placeholder).toList line.toList = false := by
    intro placeholder
    obtain ⟨rest, htoken, -⟩ := toList_token placeholder
    by_contra hoccurs
    rw [Bool.not_eq_false, htoken] at hoccurs
    have hfirst : occursIn ['{', 'R'] line.toList = true := occursIn_of_append hoccurs
    rw [h] at hfirst
    simp at hfirst
  rw [← String.toList_inj, toList_fill]
  simp only [fillChars, all, List.foldl_cons, List.foldl_nil, replace, replaceAll,
    replaceFrom_of_not_occursIn _ (hnone _)]

end Placeholder

namespace Routine

variable {settings : RuntimeSettings} {major : Int} {routine : Routine}

/-- The values that are pasted into the lines of a routine leave every line to end in code and to
open as many blocks more than it closes as without them. -/
def Steady (settings : RuntimeSettings) (major : Int) (routine : Routine) : Prop :=
  ∀ line ∈ routine.lines,
    Pascal.shift? (Placeholder.fill settings major line).toList = Pascal.shift? line.toList

instance : Decidable (Steady settings major routine) :=
  inferInstanceAs (Decidable (∀ line ∈ routine.lines, _))

inductive Fixed (routine : Routine) : Prop where
  | intro (text : List String) (lines_eq : routine.lines = Marker.line routine.name :: text)
      (name_plain : '{' ∉ routine.name.toList)
      (fixed : ∀ line ∈ text, occursIn ['{', 'R'] line.toList = false)

theorem Fixed.fill (h : Fixed routine) {line : String} (hl : line ∈ routine.lines) :
    Placeholder.fill settings major line = line := by
  obtain ⟨text, hlines, hname, hfixed⟩ := h
  rw [hlines, List.mem_cons] at hl
  rcases hl with rfl | hl
  · exact fill_markerLine hname
  · exact Placeholder.fill_of_not_occursIn (hfixed line hl)

theorem Fixed.map_fill (h : Fixed routine) :
    routine.lines.map (Placeholder.fill settings major) = routine.lines := by
  conv => rhs; rw [← List.map_id routine.lines]
  exact List.map_congr_left fun line hl => h.fill hl

/-! ## Routines with one line for values -/

/-- A text of some effect that neither opens nor closes a comment. -/
def isPlainText (text : List Char) (effect : Pascal.Effect) : Bool :=
  !text.contains '{' && !text.contains '}' && !text.contains '*' &&
    Pascal.effect? text == some effect

/-- A routine with one line for values, among plain lines of certain effects. It is one block
exactly if the values make the line open as many blocks as it closes. -/
structure Slotted (routine : Routine) (above : List String) (slot : String)
    (below : List String) (start rest : List Pascal.Effect) : Prop where
  lines_eq : routine.lines = Marker.line routine.name :: (above ++ slot :: below)
  name_plain : '{' ∉ routine.name.toList ∧ '}' ∉ routine.name.toList
  above_plain : List.Forall₂ (fun line effect => isPlainText line.toList effect = true) above start
  below_plain : List.Forall₂ (fun line effect => isPlainText line.toList effect = true) below rest
  slot_neutral : Pascal.effect? slot.toList = some .neutral
  rest_ne_nil : rest ≠ []
  closed_iff : ∀ opens closes,
    Pascal.shapeLength? false 0 (.neutral :: (start ++ ⟨opens, closes⟩ :: rest)) =
      some (start.length + rest.length + 1) ↔ (⟨opens, closes⟩ : Pascal.Effect).shift = 0

theorem isPlainText_iff {text : List Char} {effect : Pascal.Effect} :
    isPlainText text effect = true ↔
      '{' ∉ text ∧ '}' ∉ text ∧ '*' ∉ text ∧ Pascal.effect? text = some effect := by
  simp [isPlainText, and_assoc]

theorem isPlainText_of_mem {lines : List String} {shape : List Pascal.Effect}
    (h : List.Forall₂ (fun line effect => isPlainText line.toList effect = true) lines shape)
    {line : String} (hl : line ∈ lines) : ∃ effect, isPlainText line.toList effect = true := by
  obtain ⟨i, hi, rfl⟩ := List.getElem_of_mem hl
  have hlen := h.length_eq
  exact ⟨shape[i], h.get hi (by omega)⟩

namespace Slotted

variable {above below : List String} {slot : String} {start rest : List Pascal.Effect}

theorem length_lines (h : Slotted routine above slot below start rest) :
    routine.lines.length - 1 = above.length + below.length + 1 := by
  rw [h.lines_eq, List.length_cons, List.length_append, List.length_cons]
  omega

theorem fill_of_mem (h : Slotted routine above slot below start rest) {line : String}
    (hl : line ∈ above ++ below) : Placeholder.fill settings major line = line := by
  have hplain : ∃ effect, isPlainText line.toList effect = true := by
    rcases List.mem_append.1 hl with hl | hl
    · exact isPlainText_of_mem h.above_plain hl
    · exact isPlainText_of_mem h.below_plain hl
  obtain ⟨effect, heffect⟩ := hplain
  exact fill_of_not_mem (isPlainText_iff.1 heffect).1

theorem map_fill (h : Slotted routine above slot below start rest) :
    routine.lines.map (Placeholder.fill settings major) =
      Marker.line routine.name :: (above ++ Placeholder.fill settings major slot :: below) := by
  have habove : above.map (Placeholder.fill settings major) = above.map id :=
    List.map_congr_left fun line hl => h.fill_of_mem (List.mem_append_left _ hl)
  have hbelow : below.map (Placeholder.fill settings major) = below.map id :=
    List.map_congr_left fun line hl => h.fill_of_mem (List.mem_append_right _ hl)
  rw [h.lines_eq, List.map_cons, List.map_append, List.map_cons, habove, hbelow, List.map_id,
    List.map_id, fill_markerLine h.name_plain.1]

/-- A line that leaves a comment open keeps the lines from being one block. -/
theorem blockLength?_of_effect?_eq_none (h : Slotted routine above slot below start rest)
    {line : String} (hline : Pascal.effect? line.toList = none) :
    Pascal.blockLength? none false 0 (Marker.line routine.name :: (above ++ line :: below)) ≠
      some (above.length + below.length + 1) := by
  obtain ⟨comment, hpending⟩ := Pascal.effect?_eq_none_iff.1 hline
  have habove : ∀ line ∈ Marker.line routine.name :: above,
      (Pascal.code none line.toList).2 = none := by
    intro line hl
    rcases List.mem_cons.1 hl with rfl | hl
    · exact (Pascal.code_of_effect? (effect?_markerLine h.name_plain.2)).1
    · obtain ⟨effect, heffect⟩ := isPlainText_of_mem h.above_plain hl
      exact (Pascal.code_of_effect? (isPlainText_iff.1 heffect).2.2.2).1
  have hbelow : ∀ line ∈ below, Text.cut? comment.closer line.toList = none := by
    intro line hl
    obtain ⟨effect, heffect⟩ := isPlainText_of_mem h.below_plain hl
    obtain ⟨-, hbrace, hstar, -⟩ := isPlainText_iff.1 heffect
    cases comment with
    | brace => exact cut?_eq_none_of_not_mem (by simp [Pascal.Comment.closer]) hbrace
    | parenStar => exact cut?_eq_none_of_not_mem (by simp [Pascal.Comment.closer]) hstar
  have hpos : 0 < below.length := by
    rw [h.below_plain.length_eq]
    exact List.length_pos_iff.2 h.rest_ne_nil
  intro hlast
  rw [← List.cons_append] at hlast
  have hle := Pascal.length_le_of_commented habove hpending hbelow hlast
  rw [List.length_cons] at hle
  omega

/-- Whatever stands in the slot, the lines are one block exactly if it ends in code and opens as
many blocks as it closes. -/
theorem blockLength?_iff (h : Slotted routine above slot below start rest) (line : String) :
    Pascal.blockLength? none false 0 (Marker.line routine.name :: (above ++ line :: below)) =
      some (above.length + below.length + 1) ↔ Pascal.shift? line.toList = some 0 := by
  cases hline : Pascal.effect? line.toList with
  | none =>
      have hshift : Pascal.shift? line.toList ≠ some 0 := by simp [Pascal.shift?, hline]
      exact iff_of_false (h.blockLength?_of_effect?_eq_none hline) hshift
  | some effect =>
      obtain ⟨opens, closes⟩ := effect
      have heffects : List.Forall₂ (fun line effect => Pascal.effect? line.toList = some effect)
          (Marker.line routine.name :: (above ++ line :: below))
          (.neutral :: (start ++ ⟨opens, closes⟩ :: rest)) :=
        .cons (effect?_markerLine h.name_plain.2) (List.rel_append
          (h.above_plain.imp fun _ _ hplain => (isPlainText_iff.1 hplain).2.2.2)
          (.cons hline (h.below_plain.imp fun _ _ hplain => (isPlainText_iff.1 hplain).2.2.2)))
      rw [Pascal.blockLength?_eq_shapeLength? heffects, h.above_plain.length_eq,
        h.below_plain.length_eq, h.closed_iff opens closes, Pascal.shift?, hline,
        Option.map_some, Option.some.injEq]

/-- Only the line for values can make the values of a routine unsteady. -/
theorem steady_iff (h : Slotted routine above slot below start rest) :
    Steady settings major routine ↔
      Pascal.shift? (Placeholder.fill settings major slot).toList = some 0 := by
  have hslot : Pascal.shift? slot.toList = some 0 := by
    rw [Pascal.shift?, h.slot_neutral]
    rfl
  rw [Steady, h.lines_eq, List.forall_mem_cons, List.forall_mem_append, List.forall_mem_cons, hslot,
    fill_markerLine h.name_plain.1]
  constructor
  · exact fun hsteady => hsteady.2.2.1
  · intro hfilled
    refine ⟨rfl, fun line hl => ?_, hfilled, fun line hl => ?_⟩
    · rw [h.fill_of_mem (List.mem_append_left _ hl)]
    · rw [h.fill_of_mem (List.mem_append_right _ hl)]

end Slotted

/-! ## The catalog -/

section Catalog

open Pascal.Effect

theorem not_occursIn_ofList {text : List Char} (h : occursIn ['{', 'R'] text = false) :
    occursIn ['{', 'R'] (String.ofList text).toList = false := by
  rwa [String.toList_ofList]

theorem effect?_ofList {text : List Char} {effect : Pascal.Effect}
    (h : Pascal.effect? text = some effect) :
    Pascal.effect? (String.ofList text).toList = some effect := by
  rwa [String.toList_ofList]

theorem isPlainText_ofList {text : List Char} {effect : Pascal.Effect}
    (h : isPlainText text effect = true) :
    isPlainText (String.ofList text).toList effect = true := by
  rwa [String.toList_ofList]

set_option maxRecDepth 4000

theorem fixed_runAndCaptureOutput : Fixed runAndCaptureOutput := by
  refine ⟨_, rfl, by decide, ?_⟩
  repeat refine List.forall_mem_cons.2 ⟨not_occursIn_ofList (by decide), ?_⟩
  simp

theorem fixed_extractMajorVersion : Fixed extractMajorVersion := by
  refine ⟨_, rfl, by decide, ?_⟩
  repeat refine List.forall_mem_cons.2 ⟨not_occursIn_ofList (by decide), ?_⟩
  simp

theorem fixed_isDotnetRuntimeInstalled : Fixed isDotnetRuntimeInstalled := by
  refine ⟨_, rfl, by decide, ?_⟩
  repeat refine List.forall_mem_cons.2 ⟨not_occursIn_ofList (by decide), ?_⟩
  simp

theorem exists_slotted_needsDotNet :
    ∃ above slot below start rest, Slotted needsDotNet above slot below start rest := by
  refine ⟨[_, _], _, [_], [neutral, opening], [closing], rfl, by decide, ?_, ?_, ?_, by simp,
    by decide⟩
  · repeat refine .cons (isPlainText_ofList (by decide)) ?_
    exact .nil
  · repeat refine .cons (isPlainText_ofList (by decide)) ?_
    exact .nil
  · exact effect?_ofList (by decide)

theorem exists_slotted_prepareToInstall :
    ∃ above slot below start rest, Slotted prepareToInstall above slot below start rest := by
  refine ⟨[_, _, _, _, _, _], _, [_, _, _, _, _],
    [neutral, opening, neutral, neutral, opening, opening],
    [neutral, neutral, closing, closing, closing], rfl, by decide, ?_, ?_, ?_, by simp, by decide⟩
  · repeat refine .cons (isPlainText_ofList (by decide)) ?_
    exact .nil
  · repeat refine .cons (isPlainText_ofList (by decide)) ?_
    exact .nil
  · exact effect?_ofList (by decide)

end Catalog

/-- A routine of the catalog has no placeholders, or it has one line for values. -/
theorem fixed_or_exists_slotted (h : routine ∈ catalog) :
    Fixed routine ∨
      ∃ above slot below start rest, Slotted routine above slot below start rest := by
  simp only [catalog, List.mem_cons, List.not_mem_nil, or_false] at h
  rcases h with rfl | rfl | rfl | rfl | rfl
  · exact Or.inl fixed_runAndCaptureOutput
  · exact Or.inl fixed_extractMajorVersion
  · exact Or.inl fixed_isDotnetRuntimeInstalled
  · exact Or.inr exists_slotted_needsDotNet
  · exact Or.inr exists_slotted_prepareToInstall

/-- A filled routine of the catalog is one block exactly if its values are steady. -/
theorem blockLength?_map_fill_iff (h : routine ∈ catalog) :
    Pascal.blockLength? none false 0 (routine.lines.map (Placeholder.fill settings major)) =
      some (routine.lines.length - 1) ↔ Steady settings major routine := by
  rcases fixed_or_exists_slotted h with hfixed | ⟨above, slot, below, start, rest, hslotted⟩
  · have hsteady : Steady settings major routine := by
      intro line hl
      rw [hfixed.fill hl]
    -- without placeholders all values give the same lines, those of the default settings included
    have hquoteless : Placeholder.Quoteless {} major := Placeholder.quoteless_default
    have hclosed := (isBlock_map_fill h hquoteless).blockLength?_append []
    rw [List.append_nil, hfixed.map_fill] at hclosed
    rw [hfixed.map_fill]
    exact iff_of_true hclosed hsteady
  · rw [hslotted.map_fill, hslotted.length_lines, hslotted.blockLength?_iff, hslotted.steady_iff]

theorem steady_of_quoteless (h : routine ∈ catalog) (hq : Placeholder.Quoteless settings major) :
    Steady settings major routine := by
  rw [← blockLength?_map_fill_iff h]
  have hclosed := (isBlock_map_fill h hq).blockLength?_append []
  rwa [List.append_nil, List.length_map] at hclosed

theorem Steady.isBlock (hsteady : Steady settings major routine) (h : routine ∈ catalog) :
    IsBlock (routine.lines.map (Placeholder.fill settings major)) := by
  have hclosed := (blockLength?_map_fill_iff h).2 hsteady
  obtain ⟨head, body, shape, hlaid⟩ := exists_laid_of_mem_catalog h
  rw [hlaid.map_fill] at hclosed ⊢
  refine .intro _ _ _ (isMarker_markerLine _) ?_ ?_
  · intro line hl
    rcases List.mem_cons.1 hl with rfl | hl
    · exact hlaid.isMarker_head
    · obtain ⟨raw, hraw, rfl⟩ := List.mem_map.1 hl
      obtain ⟨effect, heffect⟩ := hlaid.exists_effect hraw
      exact isMarker_fill heffect
  · rw [hclosed, hlaid.lines_eq]
    simp

/-! ## Cleaning filled routines -/

open Passage in
/-- Among unmarked lines the cleanup takes out blocks of the catalog and the blank lines directly
below each of them, and nothing else. -/
theorem removeGenerated_passages {passages : List Passage} {top : List String}
    (hblock : ∀ passage ∈ passages, IsBlock passage.block)
    (hcopy : ∀ passage ∈ passages, copiesAny catalog passage.block = true)
    (htop : ∀ line ∈ top, Marker.isMarker line = false)
    (hbelow : ∀ passage ∈ passages, ∀ line ∈ passage.below, Marker.isMarker line = false) :
    (removeGenerated catalog
      (top ++ passages.flatMap fun passage => passage.block ++ passage.below)).1.lines =
        top ++ passages.flatMap (fun passage => passage.below.dropWhile isBlank) ∧
    (removeGenerated catalog
      (top ++ passages.flatMap fun passage => passage.block ++ passage.below)).2 =
        passages.length := by
  have hsig : ∀ routine ∈ catalog, ∃ signature, routine.signature? = some signature ∧
      Calm signature passages ∧ Leads signature top passages := by
    intro routine hr
    obtain ⟨signature, hs⟩ := Option.isSome_iff_exists.1 (signature?_of_mem_catalog routine hr)
    exact ⟨signature, hs, calm_of_unmarked hbelow,
      leads_of_quiet (quiet_of_unmarked htop) (endsUnmarked_of_unmarked htop) passages⟩
  have hbefore : remaining (fun _ => false) passages =
      passages.flatMap fun passage => passage.block ++ passage.below := rfl
  have hafter : remaining (fun block => false || copiesAny catalog block) passages =
      passages.flatMap fun passage => passage.below.dropWhile isBlank :=
    List.flatMap_congr fun passage hp => rest_of_gone (hcopy passage hp)
  obtain ⟨hlines, -, hcount⟩ := removeGenerated_remaining (fun _ => false) hsig hblock
  rw [hbefore] at hlines hcount
  refine ⟨by rw [hlines, hafter], ?_⟩
  rw [hcount, List.countP_eq_length.2 (by simpa using hcopy)]

/-- A filled routine of the catalog ends its block on its last line exactly if its values are
steady, and then the cleanup takes out exactly such routines and the blank lines directly below
them. Values without quotes are steady. -/
theorem filled_closed_iff (settings : RuntimeSettings) (major : Int) :
    (∀ routine ∈ catalog,
      (∀ warned, ∃ text notes,
        Placeholder.fillLines settings false warned major routine.lines = .ok (text, notes)) ∧
      ∀ strict warned text notes,
        Placeholder.fillLines settings strict warned major routine.lines = .ok (text, notes) →
          ∀ above below, Pascal.blockEnd? (above ++ (text ++ below)) above.length =
            some (above.length + (text.length - 1)) ↔ Steady settings major routine) ∧
    (∀ top, ∀ passages : List Passage, (∀ line ∈ top, Marker.isMarker line = false) →
      (∀ passage ∈ passages, (∀ line ∈ passage.below, Marker.isMarker line = false) ∧
        ∃ routine ∈ catalog, Steady settings major routine ∧
          passage.block = routine.lines.map (Placeholder.fill settings major)) →
      let cleaned := removeGenerated catalog
        (top ++ passages.flatMap fun passage => passage.block ++ passage.below)
      cleaned.1.lines = top ++ passages.flatMap (fun passage => passage.below.dropWhile isBlank) ∧
        cleaned.2 = passages.length) ∧
    (Placeholder.Quoteless settings major → ∀ routine ∈ catalog,
      Steady settings major routine) := by
  refine ⟨fun routine hr => ⟨?_, ?_⟩, ?_, fun hq routine hr => steady_of_quoteless hr hq⟩
  · intro warned
    rcases Placeholder.fillLines_cases settings false warned major routine.lines with
      ⟨notes, hfill⟩ | ⟨hstrict, -⟩
    · exact ⟨_, notes, hfill⟩
    · simp at hstrict
  · intro strict warned text notes hfill above below
    rcases Placeholder.fillLines_cases settings strict warned major routine.lines with
      ⟨notes', hfilled⟩ | ⟨-, -, hfailed⟩
    · rw [hfill] at hfilled
      obtain ⟨rfl, -⟩ := Prod.mk.inj (Except.ok.inj hfilled)
      have hpos : 0 < routine.lines.length := by
        obtain ⟨head, body, shape, hlaid⟩ := exists_laid_of_mem_catalog hr
        rw [hlaid.lines_eq]
        simp
      rw [← blockLength?_map_fill_iff hr, Pascal.blockEnd?_append_iff (by simpa using hpos),
        List.length_map]
    · rw [hfill] at hfailed
      simp at hfailed
  · intro top passages htop hpassages
    refine removeGenerated_passages ?_ ?_ htop fun passage hp => (hpassages passage hp).1
    · intro passage hp
      obtain ⟨-, routine, hr, hsteady, hblock⟩ := hpassages passage hp
      rw [hblock]
      exact hsteady.isBlock hr
    · intro passage hp
      obtain ⟨-, routine, hr, -, hblock⟩ := hpassages passage hp
      rw [hblock]
      exact copiesAny_map_fill hr

/-- An address with one quote leaves the string literal open to its words: here a block is opened
that nothing closes. -/
theorem filled_unclosed_by_quote :
    let settings : RuntimeSettings :=
      { downloadUrl := "https://example.com/it's/begin/setup.exe" }
    prepareToInstall ∈ catalog ∧
      Pascal.blockEnd? (prepareToInstall.lines.map (Placeholder.fill settings 8)) 0 = none := by
  refine ⟨by simp [catalog], ?_⟩
  decide +kernel

end Routine

end SetupForge
