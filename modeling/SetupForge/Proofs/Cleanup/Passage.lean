import Mathlib.Data.List.DropRight
import SetupForge.Proofs.Cleanup.Sweep

/-! # Blocks among other lines

Lines that are divided into generated blocks and what stands below each of them. A sweep
takes out exactly the blocks of its signature and the blank lines directly below them; the
cleanup does so for every signature of its catalog.
-/

namespace SetupForge

open Text Routine

/-- No marker stands directly above a line with the signature. -/
def Quiet (signature : String) (lines : List String) : Prop :=
  ∀ i, opensCopy signature (lines.drop i) = false

/-- Below a marker directly above a line with the signature no block ends. -/
def Stuck (signature : String) (lines : List String) : Prop :=
  ∀ i, opensCopy signature (lines.drop i) = true →
    Pascal.blockLength? none false 0 (lines.drop i) = none

def EndsUnmarked (lines : List String) : Prop :=
  ∀ line, lines.getLast? = some line → Marker.isMarker line = false

section Lines

variable {signature : String} {front lines : List String}

theorem Quiet.stuck (h : Quiet signature lines) : Stuck signature lines := by
  intro i hi
  rw [h i] at hi
  simp at hi

theorem quiet_of_unmarked (h : ∀ line ∈ lines, Marker.isMarker line = false) :
    Quiet signature lines := by
  intro i
  cases hd : lines.drop i with
  | nil => rfl
  | cons marker rest =>
      have hmem : marker ∈ lines := (List.drop_sublist i lines).subset (by rw [hd]; simp)
      cases rest with
      | nil => rfl
      | cons line rest => simp [opensCopy, h marker hmem]

theorem endsUnmarked_of_unmarked (h : ∀ line ∈ lines, Marker.isMarker line = false) :
    EndsUnmarked lines :=
  fun line hl => h line (List.mem_of_getLast? hl)

theorem EndsUnmarked.append (hf : EndsUnmarked front) (hl : EndsUnmarked lines) :
    EndsUnmarked (front ++ lines) := by
  intro line hline
  rw [List.getLast?_append] at hline
  cases hlast : lines.getLast? with
  | none =>
      rw [hlast] at hline
      exact hf line hline
  | some last =>
      rw [hlast] at hline
      simp only [Option.some_or, Option.some.injEq] at hline
      rw [← hline]
      exact hl last hlast

theorem EndsUnmarked.dropWhile (h : EndsUnmarked lines) (test : String → Bool) :
    EndsUnmarked (lines.dropWhile test) := by
  obtain ⟨above, habove⟩ := List.dropWhile_suffix test (l := lines)
  intro line hl
  refine h line ?_
  rw [← habove, List.getLast?_append, hl]
  rfl

theorem Quiet.dropWhile (h : Quiet signature lines) (test : String → Bool) :
    Quiet signature (lines.dropWhile test) := by
  obtain ⟨above, habove⟩ := List.dropWhile_suffix test (l := lines)
  intro i
  have := h (above.length + i)
  rwa [← habove, ← List.drop_drop, List.drop_left] at this

theorem Stuck.dropWhile (h : Stuck signature lines) (test : String → Bool) :
    Stuck signature (lines.dropWhile test) := by
  obtain ⟨above, habove⟩ := List.dropWhile_suffix test (l := lines)
  intro i hi
  have hdrop : lines.drop (above.length + i) = (lines.dropWhile test).drop i := by
    conv => lhs; rw [← habove, ← List.drop_drop, List.drop_left]
  rw [← hdrop] at hi ⊢
  exact h _ hi

/-- Lines below quiet ones that end unmarked open no copy among them. -/
theorem Quiet.opensCopy_append (hq : Quiet signature front) (he : EndsUnmarked front)
    {i : Nat} (hi : i < front.length) :
    opensCopy signature ((front ++ lines).drop i) = false := by
  rw [List.drop_append_of_le_length (Nat.le_of_lt hi)]
  have hquiet := hq i
  cases hd : front.drop i with
  | nil =>
      have := List.drop_eq_nil_iff.1 hd
      omega
  | cons marker rest =>
      cases rest with
      | nil =>
          have hlast : front.getLast? = some marker := by
            rw [← List.take_append_drop i front, hd]
            simp
          have hmark := he marker hlast
          cases lines with
          | nil => rfl
          | cons line lines => simp [opensCopy, hmark]
      | cons line rest =>
          rw [hd] at hquiet
          exact hquiet

theorem drop_append_of_length_le {i : Nat} (hi : front.length ≤ i) :
    (front ++ lines).drop i = lines.drop (i - front.length) := by
  rw [List.drop_append, List.drop_eq_nil_iff.2 hi, List.nil_append]

theorem Quiet.append (hq : Quiet signature front) (he : EndsUnmarked front)
    (hl : Quiet signature lines) : Quiet signature (front ++ lines) := by
  intro i
  rcases Nat.lt_or_ge i front.length with hi | hi
  · exact hq.opensCopy_append he hi
  · rw [drop_append_of_length_le hi]
    exact hl _

theorem Quiet.stuck_append (hq : Quiet signature front) (he : EndsUnmarked front)
    (hl : Stuck signature lines) : Stuck signature (front ++ lines) := by
  intro i hopen
  rcases Nat.lt_or_ge i front.length with hi | hi
  · rw [hq.opensCopy_append he hi] at hopen
    simp at hopen
  · rw [drop_append_of_length_le hi] at hopen ⊢
    exact hl _ hopen

end Lines

/-! ## Blocks -/

namespace Routine.IsBlock

variable {block : List String}

theorem endsUnmarked (h : IsBlock block) : EndsUnmarked block := by
  cases h with
  | intro marker head body _ hunmarked _ =>
      intro line hl
      rw [List.getLast?_cons_cons] at hl
      exact hunmarked line (List.mem_of_getLast? hl)

theorem quiet {signature : String} (h : IsBlock block)
    (hno : opensCopy signature block = false) : Quiet signature block := by
  cases h with
  | intro marker head body _ hunmarked _ =>
      intro i
      cases i with
      | zero => exact hno
      | succ i => exact quiet_of_unmarked hunmarked i

theorem blockLength?_append (h : IsBlock block) (below : List String) :
    Pascal.blockLength? none false 0 (block ++ below) = some (block.length - 1) := by
  cases h with
  | intro marker head body _ _ hclosed => exact Pascal.blockLength?_append hclosed below

theorem length_pos (h : IsBlock block) : 0 < block.length := by
  cases h
  simp

theorem dropWhile_append (h : IsBlock block) (below : List String) :
    (block ++ below).dropWhile isBlank = block ++ below := by
  cases h with
  | intro marker head body hmarked _ _ =>
      cases hb : isBlank marker with
      | true =>
          rw [Marker.not_isMarker_of_isBlank hb] at hmarked
          simp at hmarked
      | false => simp [hb]

end Routine.IsBlock

/-! ## Passages -/

structure Passage where
  block : List String
  below : List String

namespace Passage

variable {signature : String} {front : List String} {gone : List String → Bool}

/-- What is left of a passage: all of it, or without its block and the blank lines below. -/
def rest (gone : List String → Bool) (passage : Passage) : List String :=
  if gone passage.block then passage.below.dropWhile isBlank
  else passage.block ++ passage.below

theorem rest_of_gone {passage : Passage} (h : gone passage.block = true) :
    passage.rest gone = passage.below.dropWhile isBlank := by
  rw [rest, if_pos h]

theorem rest_of_not_gone {passage : Passage} (h : gone passage.block = false) :
    passage.rest gone = passage.block ++ passage.below := by
  rw [rest, h]
  rfl

def remaining (gone : List String → Bool) (passages : List Passage) : List String :=
  passages.flatMap (rest gone)

@[simp] theorem remaining_nil : remaining gone [] = [] := rfl

theorem remaining_cons (passage : Passage) (passages : List Passage) :
    remaining gone (passage :: passages) = passage.rest gone ++ remaining gone passages := rfl

/-- The lines between blocks open no copy and end unmarked; behind the last block a copy may
still be opened if its block does not end. -/
def Calm (signature : String) : List Passage → Prop
  | [] => True
  | [passage] => Stuck signature passage.below
  | passage :: next :: passages =>
      Quiet signature passage.below ∧ EndsUnmarked passage.below ∧
        Calm signature (next :: passages)

/-- The lines above some passages: quiet ones that end unmarked, or all that there are. -/
def Leads (signature : String) (front : List String) : List Passage → Prop
  | [] => Stuck signature front
  | _ :: _ => Quiet signature front ∧ EndsUnmarked front

theorem leads_of_quiet (hq : Quiet signature front) (he : EndsUnmarked front)
    (passages : List Passage) : Leads signature front passages := by
  cases passages with
  | nil => exact hq.stuck
  | cons _ _ => exact ⟨hq, he⟩

theorem calm_of_unmarked {passages : List Passage}
    (h : ∀ passage ∈ passages, ∀ line ∈ passage.below, Marker.isMarker line = false) :
    Calm signature passages := by
  induction passages with
  | nil => trivial
  | cons passage passages ih =>
      have hbelow := h passage (by simp)
      have htail := ih fun p hp => h p (List.mem_cons_of_mem _ hp)
      cases passages with
      | nil => exact (quiet_of_unmarked hbelow).stuck
      | cons next passages =>
          exact ⟨quiet_of_unmarked hbelow, endsUnmarked_of_unmarked hbelow, htail⟩

theorem Calm.tail {passage : Passage} {passages : List Passage}
    (h : Calm signature (passage :: passages)) : Calm signature passages := by
  cases passages with
  | nil => trivial
  | cons next passages => exact h.2.2

/-- Lines taken over from below a passage lead the passages behind it. -/
theorem Calm.leads {passage : Passage} {passages : List Passage} {text : List String}
    (h : Calm signature (passage :: passages)) (hq : Quiet signature front)
    (he : EndsUnmarked front)
    (hstuck : Stuck signature passage.below → Stuck signature text)
    (hquiet : Quiet signature passage.below → Quiet signature text)
    (hends : EndsUnmarked passage.below → EndsUnmarked text) :
    Leads signature (front ++ text) passages := by
  cases passages with
  | nil => exact hq.stuck_append he (hstuck h)
  | cons next passages =>
      exact ⟨hq.append he (hquiet h.1), he.append (hends h.2.1)⟩

theorem dropWhile_remaining {passages : List Passage}
    (hb : ∀ passage ∈ passages, IsBlock passage.block) :
    (remaining gone passages).dropWhile isBlank = remaining gone passages := by
  induction passages with
  | nil => rfl
  | cons passage passages ih =>
      have htail := ih fun p hp => hb p (List.mem_cons_of_mem _ hp)
      rw [remaining_cons, rest]
      split
      · rw [List.dropWhile_append, List.dropWhile_idempotent, htail]
        cases hd : passage.below.dropWhile isBlank with
        | nil => rfl
        | cons line lines => rfl
      · rw [List.append_assoc]
        exact (hb passage (by simp)).dropWhile_append _

theorem dropWhile_append_remaining {passages : List Passage} (below : List String)
    (hb : ∀ passage ∈ passages, IsBlock passage.block) :
    (below ++ remaining gone passages).dropWhile isBlank =
      below.dropWhile isBlank ++ remaining gone passages := by
  rw [List.dropWhile_append, dropWhile_remaining hb]
  cases hd : below.dropWhile isBlank with
  | nil => rfl
  | cons line lines => rfl

end Passage

/-! ## Sweeping passages -/

namespace Sweep

open Passage

variable {signature : String} {gone : List String → Bool}

/-- The next step takes out the first block below lines without copies. -/
theorem step_block (name : String) {sweep : Sweep} {front block below : List String}
    (hlines : sweep.lines = front ++ (block ++ below)) (hb : IsBlock block)
    (hopen : opensCopy signature block = true) (hq : Quiet signature front)
    (he : EndsUnmarked front) (hc : sweep.cursor ≤ front.length + 1) :
    ∃ after, step name signature sweep = some after ∧
      after.lines = front ++ below.dropWhile isBlank ∧ after.cursor = front.length ∧
        after.removed = sweep.removed + 1 := by
  have hpos := hb.length_pos
  have hopen' : opensCopy signature (block ++ below) = true := by
    cases hb with
    | intro marker head body _ _ _ => exact hopen
  have hmarker : marker? signature sweep.cursor sweep.lines = some front.length := by
    rw [marker?_eq_some_iff, hlines, List.drop_left]
    refine ⟨by omega, hopen', ?_⟩
    intro i _ hi
    exact hq.opensCopy_append he hi
  have hend : Pascal.blockEnd? sweep.lines front.length =
      some (block.length - 1 + front.length) := by
    rw [hlines, Pascal.blockEnd?_append_right, hb.blockLength?_append]
    rfl
  have hdrop : dropBlock front.length (block.length - 1 + front.length) sweep.lines =
      front ++ below.dropWhile isBlank := by
    have hlen : block.length - 1 + front.length + 1 = front.length + block.length := by omega
    rw [dropBlock, hlines, List.take_left, hlen, ← List.drop_drop, List.drop_left,
      List.drop_left]
  refine ⟨_, by simp only [step, hmarker, hend]; rfl, hdrop, rfl, rfl⟩

theorem finish_of_stuck (name : String) {sweep : Sweep} (h : Stuck signature sweep.lines) :
    (finish name signature sweep).lines = sweep.lines ∧
      (finish name signature sweep).removed = sweep.removed := by
  refine finish_induct (motive := fun after =>
    after.lines = sweep.lines ∧ after.removed = sweep.removed) ?_ ⟨rfl, rfl⟩
  rintro before after hs ⟨hlines, hremoved⟩
  obtain ⟨marker, hm, ⟨-, rfl⟩ | ⟨last, hlast, -⟩⟩ := step_cases hs
  · exact ⟨hlines, hremoved⟩
  · obtain ⟨-, hopen, -⟩ := marker?_eq_some_iff.1 hm
    rw [hlines] at hopen hlast
    rw [Pascal.blockEnd?, h marker hopen] at hlast
    simp at hlast

/-- A sweep takes out the blocks of its signature with the blank lines below them. -/
theorem finish_remaining (name : String) {front : List String} {passages : List Passage}
    {sweep : Sweep}
    (hlines : sweep.lines = front ++ remaining gone passages)
    (hb : ∀ passage ∈ passages, IsBlock passage.block) (hcalm : Calm signature passages)
    (hlead : Leads signature front passages) (hc : sweep.cursor ≤ front.length + 1) :
    (finish name signature sweep).lines =
        front ++ remaining (fun block => gone block || opensCopy signature block) passages ∧
      (finish name signature sweep).removed = sweep.removed + passages.countP
        fun passage => !gone passage.block && opensCopy signature passage.block := by
  -- what the sweep has passed moves into `front`, whether it stays or is taken out
  induction passages generalizing front sweep with
  | nil =>
      rw [remaining_nil, List.append_nil] at hlines
      rw [← hlines] at hlead
      obtain ⟨hfinal, hremoved⟩ := finish_of_stuck name hlead
      rw [hfinal, hremoved, hlines]
      simp
  | cons passage passages ih =>
      have hblock := hb passage (by simp)
      have hb' := fun p hp => hb p (List.mem_cons_of_mem passage hp)
      obtain ⟨hq, he⟩ := hlead
      rw [remaining_cons] at hlines
      rw [remaining_cons, List.countP_cons]
      cases hg : gone passage.block with
      | true =>
          have hlead' := hcalm.leads hq he (fun h => h.dropWhile isBlank)
            (fun h => h.dropWhile isBlank) fun h => h.dropWhile isBlank
          rw [rest_of_gone hg, ← List.append_assoc] at hlines
          obtain ⟨hfinal, hremoved⟩ := ih hlines hb' hcalm.tail hlead'
            (by rw [List.length_append]; omega)
          refine ⟨?_, by rw [hremoved]; simp⟩
          rw [hfinal, rest_of_gone (by simp [hg]), List.append_assoc]
      | false =>
          rw [rest_of_not_gone hg] at hlines
          cases ho : opensCopy signature passage.block with
          | false =>
              have hlead' := hcalm.leads (hq.append he (hblock.quiet ho))
                (he.append hblock.endsUnmarked) id id id
              have hlines' : sweep.lines = front ++ passage.block ++ passage.below ++
                  remaining gone passages := by
                rw [hlines]
                simp only [List.append_assoc]
              obtain ⟨hfinal, hremoved⟩ := ih hlines' hb' hcalm.tail hlead'
                (by simp only [List.length_append]; omega)
              refine ⟨?_, by rw [hremoved]; simp⟩
              rw [hfinal, rest_of_not_gone (by simp [hg, ho])]
              simp only [List.append_assoc]
          | true =>
              rw [List.append_assoc] at hlines
              obtain ⟨after, hs, hafter, hcursor, hcount⟩ :=
                step_block name hlines hblock ho hq he hc
              rw [dropWhile_append_remaining passage.below hb', ← List.append_assoc] at hafter
              have hlead' := hcalm.leads hq he (fun h => h.dropWhile isBlank)
                (fun h => h.dropWhile isBlank) fun h => h.dropWhile isBlank
              obtain ⟨hfinal, hremoved⟩ := ih hafter hb' hcalm.tail hlead'
                (by simp only [List.length_append]; omega)
              rw [finish_of_step hs]
              refine ⟨?_, by rw [hremoved, hcount]; simp; omega⟩
              rw [hfinal, rest_of_gone (by simp [ho]), List.append_assoc]

end Sweep

/-! ## Cleaning passages -/

namespace Routine

open Passage

def copiesAny (routines : List Routine) (block : List String) : Bool :=
  routines.any fun routine => routine.signature?.any fun signature => opensCopy signature block

theorem countP_or_split (passages : List Passage) (a b c : List String → Bool) :
    (passages.countP fun p => !a p.block && b p.block) +
        (passages.countP fun p => !(a p.block || b p.block) && c p.block) =
      passages.countP fun p => !a p.block && (b p.block || c p.block) := by
  induction passages with
  | nil => rfl
  | cons p passages ih =>
      simp only [List.countP_cons, ← ih]
      cases a p.block <;> cases b p.block <;> cases c p.block <;> simp <;> omega

/-- The cleanup takes out every copy of a routine of its catalog, with the blank lines below
it, and nothing else. -/
theorem removeGenerated_remaining {routines : List Routine} {front : List String}
    {passages : List Passage} (gone : List String → Bool)
    (hs : ∀ routine ∈ routines, ∃ signature, routine.signature? = some signature ∧
      Calm signature passages ∧ Leads signature front passages)
    (hb : ∀ passage ∈ passages, IsBlock passage.block) :
    (removeGenerated routines (front ++ remaining gone passages)).1.lines =
        front ++ remaining (fun block => gone block || copiesAny routines block) passages ∧
      (removeGenerated routines (front ++ remaining gone passages)).1.failure = none ∧
      (removeGenerated routines (front ++ remaining gone passages)).2 = passages.countP
        fun passage => !gone passage.block && copiesAny routines passage.block := by
  induction routines generalizing gone with
  | nil => simp [removeGenerated, copiesAny]
  | cons routine routines ih =>
      obtain ⟨signature, hsig, hcalm, hlead⟩ := hs routine (by simp)
      have hs' := fun r hr => hs r (List.mem_cons_of_mem routine hr)
      have hany : ∀ block, copiesAny (routine :: routines) block =
          (opensCopy signature block || copiesAny routines block) := by
        intro block
        simp [copiesAny, hsig]
      obtain ⟨hlines, hremoved⟩ := Sweep.finish_remaining routine.name
        (show ({ lines := front ++ remaining gone passages } : Sweep).lines = _ from rfl)
        hb hcalm hlead (Nat.zero_le _)
      rw [← Sweep.run_eq_finish] at hlines hremoved
      obtain ⟨hfinal, hfailure, hcount⟩ := ih
        (fun block => gone block || opensCopy signature block) hs'
      rw [removeGenerated, hsig]
      simp only [hlines, hremoved, hfinal, hfailure, hcount, hany, Bool.or_assoc, Nat.zero_add,
        true_and]
      exact countP_or_split passages gone (opensCopy signature) (copiesAny routines)

theorem removeGenerated_of_stuck {routines : List Routine} {lines : List String}
    (h : ∀ routine ∈ routines, ∃ signature, routine.signature? = some signature ∧
      Stuck signature lines) :
    (removeGenerated routines lines).1.lines = lines := by
  have hnone : ∀ routine ∈ routines, ∃ signature, routine.signature? = some signature ∧
      Calm signature [] ∧ Leads signature lines [] := by
    intro routine hr
    obtain ⟨signature, hs, hstuck⟩ := h routine hr
    exact ⟨signature, hs, trivial, hstuck⟩
  obtain ⟨hlines, -⟩ := removeGenerated_remaining (fun _ => false) hnone (by simp)
  simpa using hlines

theorem removeGenerated_failure {routines : List Routine}
    (h : ∀ routine ∈ routines, routine.signature?.isSome) (lines : List String) :
    (removeGenerated routines lines).1.failure = none := by
  induction routines generalizing lines with
  | nil => rfl
  | cons routine routines ih =>
      have hs := h routine (by simp)
      have h' := fun r hr => h r (List.mem_cons_of_mem routine hr)
      obtain ⟨signature, hsig⟩ := Option.isSome_iff_exists.1 hs
      rw [removeGenerated, hsig]
      exact ih h' _

end Routine

end SetupForge
