import Mathlib.Data.List.Forall2
import SetupForge.Pascal.Block
import SetupForge.Proofs.Pascal.CodeText

/-! # The shape of a block

A line that starts and ends in code changes the depth in a way that its code text decides.
The shape of a block is the list of these changes, and the shape alone says where the block
ends. What follows the end of a block does not move it.
-/

namespace SetupForge.Pascal

structure Effect where
  opens : Bool
  closes : Bool
deriving DecidableEq, Repr

namespace Effect

def neutral : Effect := ⟨false, false⟩

def opening : Effect := ⟨true, false⟩

def closing : Effect := ⟨false, true⟩

def depthAfter (effect : Effect) (depth : Nat) : Nat :=
  let deeper := if effect.opens then depth + 1 else depth
  if effect.closes then deeper - 1 else deeper

end Effect

def effect? (text : List Char) : Option Effect :=
  match code none text with
  | (scanned, none) => some ⟨opensBlock scanned, closesBlock scanned⟩
  | (_, some _) => none

/-- The number of lines before the one that ends a block, from the effects of its lines. -/
def shapeLength? (used : Bool) (depth : Nat) : List Effect → Option Nat
  | [] => none
  | effect :: shape =>
      if (used || effect.opens) && effect.depthAfter depth == 0 then some 0
      else (shapeLength? (used || effect.opens) (effect.depthAfter depth) shape).map (· + 1)

theorem code_of_effect? {text : List Char} {effect : Effect} (h : effect? text = some effect) :
    (code none text).2 = none ∧ opensBlock (code none text).1 = effect.opens ∧
      ∀ depth, depthAfter (code none text).1 depth = effect.depthAfter depth := by
  unfold effect? at h
  split at h
  · rename_i scanned hs
    cases h
    rw [hs]
    exact ⟨rfl, rfl, fun _ => rfl⟩
  · simp at h

theorem effect?_congr {text other : List Char} (h : code none text = code none other) :
    effect? text = effect? other := by
  unfold effect?
  rw [h]

/-- The effects of the lines decide where their block ends. -/
theorem blockLength?_eq_shapeLength? {lines : List String} {shape : List Effect}
    (h : List.Forall₂ (fun line effect => effect? line.toList = some effect) lines shape)
    (used : Bool) (depth : Nat) :
    blockLength? none used depth lines = shapeLength? used depth shape := by
  induction h generalizing used depth with
  | nil => rfl
  | cons he _ ih =>
      obtain ⟨hpending, hopens, hdepth⟩ := code_of_effect? he
      rw [blockLength?, shapeLength?]
      simp only [hpending, hopens, hdepth, ih]

/-- The lines up to the end of a block decide where it ends. -/
theorem blockLength?_of_take_eq {pending : Option Comment} {used : Bool} {depth n : Nat}
    {lines other : List String} (h : blockLength? pending used depth lines = some n)
    (hsame : other.take (n + 1) = lines.take (n + 1)) :
    blockLength? pending used depth other = some n := by
  induction lines generalizing pending used depth n other with
  | nil => simp [blockLength?] at h
  | cons line lines ih =>
      cases other with
      | nil => simp at hsame
      | cons first other =>
          rw [List.take_succ_cons, List.take_succ_cons, List.cons.injEq] at hsame
          obtain ⟨rfl, hrest⟩ := hsame
          rw [blockLength?] at h ⊢
          split at h
          · rename_i hend
            rw [if_pos hend]
            exact h
          · rename_i hend
            rw [if_neg hend]
            simp only [Option.map_eq_some_iff] at h ⊢
            obtain ⟨m, hm, rfl⟩ := h
            exact ⟨m, ih hm hrest, rfl⟩

/-- Lines below the end of a block do not move it. -/
theorem blockLength?_append {pending : Option Comment} {used : Bool} {depth n : Nat}
    {lines : List String} (h : blockLength? pending used depth lines = some n)
    (below : List String) : blockLength? pending used depth (lines ++ below) = some n :=
  blockLength?_of_take_eq h (List.take_append_of_le_length (blockLength?_lt h))

theorem blockLength?_take {pending : Option Comment} {used : Bool} {depth n : Nat}
    {lines : List String} (h : blockLength? pending used depth lines = some n) :
    blockLength? pending used depth (lines.take (n + 1)) = some n :=
  blockLength?_of_take_eq h (by rw [List.take_take, Nat.min_self])

theorem blockEnd?_append_right (above lines : List String) :
    blockEnd? (above ++ lines) above.length =
      (blockLength? none false 0 lines).map (· + above.length) := by
  rw [blockEnd?, List.drop_left]

end SetupForge.Pascal
