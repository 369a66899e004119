import SetupForge.Text.CompositionTable
import SetupForge.Text.MarkTable

/-! # Composed texts

The same letter with its marks can be written in several ways. In a composed text every letter
stands with as many of its marks as one character can hold, and the marks after it are in
their order. Only characters that a host label can hold are looked at.
-/

namespace SetupForge.Text

/-- The place of a mark in the order of marks, or zero for a character that keeps its place. -/
def markOrder (c : Char) : Nat :=
  ((markOrderTable.find? fun entry => entry.1.holds c.toNat).map (·.2)).getD 0

def parts? (c : Char) : Option (Char × Char) :=
  (compositionTable.find? fun entry => entry.2.2 == c.toNat).map fun entry =>
    (Char.ofNat entry.1, Char.ofNat entry.2.1)

def composite? (first second : Char) : Option Char :=
  (compositionTable.find? fun entry => entry.1 == first.toNat && entry.2.1 == second.toNat).map
    fun entry => Char.ofNat entry.2.2

def takeApartFuel : Nat → Char → List Char
  | 0, c => [c]
  | fuel + 1, c =>
      match parts? c with
      | some (first, second) => takeApartFuel fuel first ++ [second]
      | none => [c]

def maxMarks : Nat := 3

def takeApart (c : Char) : List Char := takeApartFuel maxMarks c

/-- Puts a character after others, the latest first. A mark goes before the marks that come later
in the order. -/
def putInOrder (c : Char) : List Char → List Char
  | [] => [c]
  | last :: before =>
      if markOrder c ≠ 0 ∧ markOrder c < markOrder last then last :: putInOrder c before
      else c :: last :: before

/-- The text with all marks apart and in order. -/
def apart (text : List Char) : List Char :=
  ((text.flatMap takeApart).foldl (fun before c => putInOrder c before) []).reverse

/-- A text while its letters are joined with their marks, the latest character first. -/
structure Joining where
  /-- What stands before the letter that marks can still join. -/
  settled : List Char := []
  letter : Option Char := none
  /-- The marks after the letter that did not join it. -/
  marks : List Char := []

namespace Joining

def reversed (joining : Joining) : List Char :=
  joining.marks ++ joining.letter.toList ++ joining.settled

/-- Joins a character with the letter before it if no mark between them prevents it. -/
def add (joining : Joining) (c : Char) : Joining :=
  let order := markOrder c
  let isFree := joining.marks.head?.all fun mark => markOrder mark < order
  let joined? := if isFree then joining.letter.bind fun letter => composite? letter c else none
  match joined? with
  | some joined => { joining with letter := some joined }
  | none =>
      if order = 0 then { settled := joining.reversed, letter := some c }
      else { joining with marks := c :: joining.marks }

end Joining

def composed (text : List Char) : List Char :=
  ((apart text).foldl Joining.add {}).reversed.reverse

def isComposed (text : List Char) : Bool := composed text == text

end SetupForge.Text
