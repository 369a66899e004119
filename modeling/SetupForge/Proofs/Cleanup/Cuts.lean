import Mathlib.Data.List.TakeWhile
import SetupForge.Proofs.Cleanup.Sweep

/-! # Where the cleanup cuts

Every block that the cleanup takes out is a cut: a range of the lines as they stand then, and
the blank lines directly below it. The same cuts applied to the numbers of the lines tell which
lines are kept and which stood in a block that was taken out.
-/

namespace SetupForge

open Text Routine

/-- A block that is taken out, up to its last line, and the line that follows next. -/
structure Cut where
  first : Nat
  last : Nat
  next : Nat
deriving DecidableEq, Repr

namespace Cut

variable {α β : Type}

def block (cut : Cut) (xs : List α) : List α :=
  (xs.drop cut.first).take (cut.last + 1 - cut.first)

def blanks (cut : Cut) (xs : List α) : List α :=
  (xs.drop (cut.last + 1)).take (cut.next - (cut.last + 1))

def remove (cut : Cut) (xs : List α) : List α := xs.take cut.first ++ xs.drop cut.next

def removeAll : List Cut → List α → List α
  | [], xs => xs
  | cut :: cuts, xs => removeAll cuts (cut.remove xs)

def blocks : List Cut → List α → List (List α)
  | [], _ => []
  | cut :: cuts, xs => cut.block xs :: blocks cuts (cut.remove xs)

theorem map_remove (f : α → β) (cut : Cut) (xs : List α) :
    (cut.remove xs).map f = cut.remove (xs.map f) := by
  simp [remove, List.map_take, List.map_drop]

theorem map_block (f : α → β) (cut : Cut) (xs : List α) :
    (cut.block xs).map f = cut.block (xs.map f) := by
  simp [block, List.map_take, List.map_drop]

theorem map_blanks (f : α → β) (cut : Cut) (xs : List α) :
    (cut.blanks xs).map f = cut.blanks (xs.map f) := by
  simp [blanks, List.map_take, List.map_drop]

theorem removeAll_append (cuts more : List Cut) (xs : List α) :
    removeAll (cuts ++ more) xs = removeAll more (removeAll cuts xs) := by
  induction cuts generalizing xs with
  | nil => rfl
  | cons cut cuts ih => exact ih _

theorem blocks_append (cuts more : List Cut) (xs : List α) :
    blocks (cuts ++ more) xs = blocks cuts xs ++ blocks more (removeAll cuts xs) := by
  induction cuts generalizing xs with
  | nil => rfl
  | cons cut cuts ih => simp [blocks, removeAll, ih]

theorem length_blocks (cuts : List Cut) (xs : List α) : (blocks cuts xs).length = cuts.length := by
  induction cuts generalizing xs with
  | nil => rfl
  | cons cut cuts ih => rw [blocks, List.length_cons, List.length_cons, ih]

/-- A cut that is in order: its lines follow one another. -/
def InOrder (cut : Cut) : Prop := cut.first ≤ cut.last ∧ cut.last < cut.next

theorem split {cut : Cut} (h : cut.InOrder) (xs : List α) :
    xs = xs.take cut.first ++ (cut.block xs ++ (cut.blanks xs ++ xs.drop cut.next)) := by
  obtain ⟨hfirst, hnext⟩ := h
  have hblanks : cut.blanks xs ++ xs.drop cut.next = xs.drop (cut.last + 1) := by
    have hdrop : xs.drop cut.next =
        (xs.drop (cut.last + 1)).drop (cut.next - (cut.last + 1)) := by
      rw [List.drop_drop]
      congr 1
      omega
    rw [blanks, hdrop, List.take_append_drop]
  have hblock : cut.block xs ++ xs.drop (cut.last + 1) = xs.drop cut.first := by
    have hdrop : xs.drop (cut.last + 1) =
        (xs.drop cut.first).drop (cut.last + 1 - cut.first) := by
      rw [List.drop_drop]
      congr 1
      omega
    rw [block, hdrop, List.take_append_drop]
  rw [hblanks, hblock, List.take_append_drop]

theorem remove_sublist {cut : Cut} (h : cut.InOrder) (xs : List α) :
    (cut.remove xs).Sublist xs := by
  conv => rhs; rw [split h xs]
  rw [remove]
  refine (List.Sublist.refl _).append ?_
  exact (List.sublist_append_right _ _).trans (List.sublist_append_right _ _)

/-- A line is kept, stands in the block or goes with it. -/
theorem mem_cases {cut : Cut} (h : cut.InOrder) {xs : List α} {x : α} (hx : x ∈ xs) :
    x ∈ cut.remove xs ∨ x ∈ cut.block xs ∨ x ∈ cut.blanks xs := by
  rw [split h xs, List.mem_append, List.mem_append, List.mem_append] at hx
  rw [remove, List.mem_append]
  rcases hx with hx | hx | hx | hx
  · exact Or.inl (Or.inl hx)
  · exact Or.inr (Or.inl hx)
  · exact Or.inr (Or.inr hx)
  · exact Or.inl (Or.inr hx)

/-- Among lines that differ no line is both kept and taken. -/
theorem not_mem_remove {cut : Cut} (h : cut.InOrder) {xs : List α} (hnodup : xs.Nodup) {x : α}
    (hx : x ∈ cut.block xs) : x ∉ cut.remove xs := by
  rw [split h xs] at hnodup
  obtain ⟨-, hrest, habove⟩ := List.nodup_append.1 hnodup
  obtain ⟨-, -, hbelow⟩ := List.nodup_append.1 hrest
  rw [remove, List.mem_append]
  rintro (hkept | hkept)
  · exact habove x hkept x (List.mem_append_left _ hx) rfl
  · exact hbelow x hx x (List.mem_append_right _ hkept) rfl

/-! ## The balance of cuts -/

/-- Cuts among numbered lines lose only blank lines besides the blocks that they take out. -/
structure Balanced (text : α → String) (cuts : List Cut) (xs : List α) : Prop where
  sublist : (removeAll cuts xs).Sublist xs
  mem_iff : ∀ x ∈ xs, isBlank (text x) = false →
    (x ∈ removeAll cuts xs ↔ ∀ block ∈ blocks cuts xs, x ∉ block)

variable {text : α → String} {xs : List α}

theorem balanced_nil : Balanced text [] xs :=
  ⟨List.Sublist.refl _, fun _ hx _ => by simpa [removeAll, blocks] using hx⟩

theorem Balanced.cons {cut : Cut} {cuts : List Cut} (h : Balanced text cuts (cut.remove xs))
    (horder : cut.InOrder) (hblank : ∀ x ∈ cut.blanks xs, isBlank (text x) = true)
    (hnodup : xs.Nodup) : Balanced text (cut :: cuts) xs := by
  refine ⟨h.sublist.trans (remove_sublist horder xs), ?_⟩
  intro x hx htext
  rw [removeAll, blocks, List.forall_mem_cons]
  rcases mem_cases horder hx with hkept | htaken | hgone
  · have hno : x ∉ cut.block xs := fun htaken => not_mem_remove horder hnodup htaken hkept
    rw [h.mem_iff x hkept htext]
    exact (and_iff_right hno).symm
  · -- a number that is taken out once cannot come back
    have hno := not_mem_remove horder hnodup htaken
    constructor
    · intro hkept
      exact absurd (h.sublist.subset hkept) hno
    · rintro ⟨hout, -⟩
      exact absurd htaken hout
  · rw [hblank x hgone] at htext
    simp at htext

theorem Balanced.append {cuts more : List Cut} (h : Balanced text cuts xs)
    (hmore : Balanced text more (removeAll cuts xs)) : Balanced text (cuts ++ more) xs := by
  refine ⟨?_, ?_⟩
  · rw [removeAll_append]
    exact hmore.sublist.trans h.sublist
  · intro x hx htext
    rw [removeAll_append, blocks_append, List.forall_mem_append, ← h.mem_iff x hx htext]
    constructor
    · intro hkept
      have hin := hmore.sublist.subset hkept
      exact ⟨hin, (hmore.mem_iff x hin htext).1 hkept⟩
    · rintro ⟨hin, hno⟩
      exact (hmore.mem_iff x hin htext).2 hno

end Cut

/-! ## The cuts of a sweep -/

namespace Sweep

variable {name signature : String} {α : Type} {text : α → String}

def cut? (signature : String) (sweep : Sweep) : Option Cut :=
  (marker? signature sweep.cursor sweep.lines).bind fun marker =>
    (Pascal.blockEnd? sweep.lines marker).map fun last =>
      ⟨marker, last, last + 1 + ((sweep.lines.drop (last + 1)).takeWhile isBlank).length⟩

def cuts (name signature : String) (sweep : Sweep) : List Cut :=
  match _h : step name signature sweep with
  | none => []
  | some after => (cut? signature sweep).toList ++ cuts name signature after
termination_by sweep.work.toNat
decreasing_by
  have hlt := work_lt_of_step _h
  have hpos := work_pos_of_step _h
  omega

theorem cuts_of_step {before after : Sweep} (h : step name signature before = some after) :
    cuts name signature before = (cut? signature before).toList ++ cuts name signature after := by
  rw [cuts]
  split
  · rename_i hnone
    rw [h] at hnone
    simp at hnone
  · rename_i after' hsome
    rw [h, Option.some.injEq] at hsome
    rw [hsome]

theorem cuts_of_step_eq_none {sweep : Sweep} (h : step name signature sweep = none) :
    cuts name signature sweep = [] := by
  rw [cuts]
  split
  · rfl
  · rename_i after hsome
    rw [h] at hsome
    simp at hsome

/-- Lines from a marker to the end of its block, where the marker stood directly above a line
with the signature. -/
def IsCopy (signature : String) (lines : List String) : Prop :=
  (∃ below, opensCopy signature (lines ++ below) = true) ∧
    Pascal.blockLength? none false 0 lines = some (lines.length - 1)

theorem drop_length_takeWhile (test : String → Bool) (lines : List String) :
    lines.drop (lines.takeWhile test).length = lines.dropWhile test := by
  have hsplit : lines.takeWhile test ++ lines.dropWhile test = lines :=
    List.takeWhile_append_dropWhile
  calc lines.drop (lines.takeWhile test).length
      _ = (lines.takeWhile test ++ lines.dropWhile test).drop
            (lines.takeWhile test).length := by rw [hsplit]
      _ = lines.dropWhile test := List.drop_left

theorem step_cut {before after : Sweep} (h : step name signature before = some after) :
    (cut? signature before = none ∧ after.lines = before.lines ∧
        after.removed = before.removed) ∨
      ∃ cut, cut? signature before = some cut ∧ cut.InOrder ∧
        after.lines = cut.remove before.lines ∧ after.removed = before.removed + 1 ∧
          IsCopy signature (cut.block before.lines) ∧
            ∀ line ∈ cut.blanks before.lines, isBlank line = true := by
  obtain ⟨marker, hm, ⟨hnone, rfl⟩ | ⟨last, hlast, rfl⟩⟩ := step_cases h
  · exact Or.inl ⟨by simp [cut?, hm, hnone], rfl, rfl⟩
  · have hcut : cut? signature before = some ⟨marker, last,
        last + 1 + ((before.lines.drop (last + 1)).takeWhile isBlank).length⟩ := by
      simp [cut?, hm, hlast]
    have hnext : (before.lines.drop (last + 1)).dropWhile isBlank = before.lines.drop
        (last + 1 + ((before.lines.drop (last + 1)).takeWhile isBlank).length) := by
      rw [← drop_length_takeWhile isBlank (before.lines.drop (last + 1)), List.drop_drop]
    obtain ⟨hle, hlt⟩ := Pascal.blockEnd?_bounds hlast
    refine Or.inr ⟨_, hcut, ⟨hle, by simp only; omega⟩, ?_, rfl, ?_, ?_⟩
    · exact congrArg (before.lines.take marker ++ ·) hnext
    · obtain ⟨-, hopen, -⟩ := marker?_eq_some_iff.1 hm
      simp only [Pascal.blockEnd?, Option.map_eq_some_iff] at hlast
      obtain ⟨n, hn, rfl⟩ := hlast
      have hlength : n + marker + 1 - marker = n + 1 := by omega
      have htaken := Pascal.blockLength?_take hn
      have hbound := Pascal.blockLength?_lt hn
      rw [Cut.block, hlength]
      refine ⟨⟨(before.lines.drop marker).drop (n + 1), ?_⟩, ?_⟩
      · rwa [List.take_append_drop]
      · have hshort : ((before.lines.drop marker).take (n + 1)).length = n + 1 :=
          List.length_take_of_le hbound
        rw [htaken, hshort, Nat.add_sub_cancel]
    · intro line hl
      rw [Cut.blanks, Nat.add_sub_cancel_left,
        ← List.prefix_iff_eq_take.1 (List.takeWhile_prefix isBlank)] at hl
      exact List.mem_takeWhile_imp hl

/-- The cuts of a sweep, applied to the numbers of its lines. -/
theorem finish_cuts (name signature : String) (sweep : Sweep) (xs : List α)
    (hlines : sweep.lines = xs.map text) (hnodup : xs.Nodup) :
    (finish name signature sweep).lines =
        (Cut.removeAll (cuts name signature sweep) xs).map text ∧
      (finish name signature sweep).removed =
        sweep.removed + (cuts name signature sweep).length ∧
      Cut.Balanced text (cuts name signature sweep) xs ∧
      ∀ block ∈ Cut.blocks (cuts name signature sweep) xs,
        IsCopy signature (block.map text) := by
  cases hs : step name signature sweep with
  | none =>
      rw [cuts_of_step_eq_none hs, finish_of_step_eq_none hs]
      exact ⟨hlines, rfl, Cut.balanced_nil, by simp [Cut.blocks]⟩
  | some after =>
      have hlt := work_lt_of_step hs
      have hpos := work_pos_of_step hs
      rw [cuts_of_step hs, finish_of_step hs]
      rcases step_cut hs with ⟨hnone, hsame, hremoved⟩ |
        ⟨cut, hcut, horder, hafter, hremoved, hcopy, hblank⟩
      · rw [hnone, Option.toList_none, List.nil_append, ← hremoved]
        exact finish_cuts name signature after xs (hsame.trans hlines) hnodup
      · have hafter' : after.lines = (cut.remove xs).map text := by
          rw [hafter, hlines, Cut.map_remove]
        have hnodup' := hnodup.sublist (Cut.remove_sublist horder xs)
        obtain ⟨hfinal, hcount, hbalanced, hblocks⟩ :=
          finish_cuts name signature after (cut.remove xs) hafter' hnodup'
        rw [hcut, Option.toList_some, List.singleton_append]
        refine ⟨hfinal, ?_, ?_, ?_⟩
        · rw [hcount, hremoved, List.length_cons]
          omega
        · refine hbalanced.cons horder ?_ hnodup
          intro x hx
          refine hblank (text x) ?_
          rw [hlines, ← Cut.map_blanks]
          exact List.mem_map_of_mem hx
        · rw [Cut.blocks, List.forall_mem_cons, Cut.map_block, ← hlines]
          exact ⟨hcopy, hblocks⟩
termination_by sweep.work.toNat
decreasing_by all_goals omega

end Sweep

end SetupForge
