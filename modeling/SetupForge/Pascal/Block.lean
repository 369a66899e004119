import SetupForge.Pascal.Code
import SetupForge.Text.LetterCase
import SetupForge.Text.Word

/-! # Blocks of Pascal code

A line with an opening word goes one level down and a line with a closing word one
level up, never above the level outside. A block ends on the line that comes back to
that level after some line has gone down.
-/

namespace SetupForge.Pascal

def openers : List String := ["begin", "try", "case"]

def closers : List String := ["end"]

/-- Whether code text holds one of some words, case ignored. -/
def holdsWord (wanted : List String) (code : List Char) : Bool :=
  (Text.words code).any fun word => wanted.any fun name => Text.sameWord name.toList word

def opensBlock (code : List Char) : Bool := holdsWord openers code

def closesBlock (code : List Char) : Bool := holdsWord closers code

/-- The depth after a line of code text: up by one if it opens a block, then down by one if it
closes one, but not below zero. -/
def depthAfter (text : List Char) (depth : Nat) : Nat :=
  let deeper := if opensBlock text then depth + 1 else depth
  if closesBlock text then deeper - 1 else deeper

/-- The number of lines before the one that ends the block, from inside a comment or from code
and at some depth; `used` says whether a block has been opened. -/
def blockLength? (pending : Option Comment) (used : Bool) (depth : Nat) :
    List String → Option Nat
  | [] => none
  | line :: lines =>
      let scan := code pending line.toList
      if (used || opensBlock scan.1) && depthAfter scan.1 depth == 0 then some 0
      else
        (blockLength? scan.2 (used || opensBlock scan.1) (depthAfter scan.1 depth) lines).map
          (· + 1)

/-- The position of the line that ends the block opened at or after a position. -/
def blockEnd? (lines : List String) (start : Nat) : Option Nat :=
  (blockLength? none false 0 (lines.drop start)).map (· + start)

/-- The position of the line that ends the block opened at or after an integer position. No
block starts at a negative one. -/
def blockEndAt? (lines : List String) (start : Int) : Option Nat :=
  if start < 0 then none else blockEnd? lines start.toNat

theorem blockLength?_lt {pending : Option Comment} {used : Bool} {depth n : Nat}
    {lines : List String} (h : blockLength? pending used depth lines = some n) :
    n < lines.length := by
  induction lines generalizing pending used depth n with
  | nil => simp [blockLength?] at h
  | cons line lines ih =>
      rw [blockLength?] at h
      split at h
      · simp only [Option.some.injEq] at h
        subst h
        simp
      · simp only [Option.map_eq_some_iff] at h
        obtain ⟨m, hm, rfl⟩ := h
        have := ih hm
        simp only [List.length_cons]
        omega

theorem blockEnd?_bounds {lines : List String} {start last : Nat}
    (h : blockEnd? lines start = some last) : start ≤ last ∧ last < lines.length := by
  simp only [blockEnd?, Option.map_eq_some_iff] at h
  obtain ⟨n, hn, rfl⟩ := h
  have := blockLength?_lt hn
  simp only [List.length_drop] at this
  omega

end SetupForge.Pascal
