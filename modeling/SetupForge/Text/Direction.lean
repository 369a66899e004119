import SetupForge.Text.DirectionTable
import SetupForge.Text.MarkTable

/-! # Writing direction

Letters have a direction, and a word that mixes directions can be shown in several ways. A word
with letters from right to left is unambiguous if such a letter starts it, none is from left to
right, and its numbers are of one kind.
-/

namespace SetupForge.Text

inductive Direction where
  | left
  | right
  | number
  /-- A digit of a number between letters that are written from right to left. -/
  | arabicNumber
  /-- A mark, which has the direction of the character before it. -/
  | mark
  | neutral
deriving DecidableEq, Repr

/-- Whether a character is a mark without a place of its own. -/
def isNonspacing (c : Char) : Bool := inRanges nonspacingTable c.toNat

def isMark (c : Char) : Bool := isNonspacing c || inRanges spacingTable c.toNat

def direction (c : Char) : Direction :=
  let code := c.toNat
  if c.isDigit || inRanges numberTable code then .number
  else if code < 0x80 then (if c.isAlpha then .left else .neutral)
  else if inRanges rightTable code then .right
  else if inRanges arabicNumberTable code then .arabicNumber
  else if isNonspacing c && !directedMarks.contains code then .mark
  else if inRanges neutralTable code then .neutral
  else .left

def Direction.canEnd (direction : Direction) : Bool :=
  direction == .right || direction == .number || direction == .arabicNumber

/-- Whether a word can be shown in one way only. -/
def isUnambiguous (word : List Char) : Bool :=
  let directions := word.map direction
  if directions.contains .right || directions.contains .arabicNumber then
    directions.head? == some .right && !directions.contains .left &&
      ((directions.reverse.find? (· != .mark)).map Direction.canEnd).getD false &&
      !(directions.contains .number && directions.contains .arabicNumber)
  else true

/-! ## Joining -/

/-- Whether letters join across a character as if it were not there. -/
def isTransparent (c : Char) : Bool :=
  (isNonspacing c && c.toNat != 0x1171e) || c.toNat == 0x1e94b

def joinsNext (c : Char) : Bool :=
  inRanges joinsBothTable c.toNat || inRanges joinsNextTable c.toNat

def joinsPrevious (c : Char) : Bool :=
  inRanges joinsBothTable c.toNat || inRanges joinsPreviousTable c.toNat

def firstLetter? (text : List Char) : Option Char := text.find? fun c => !isTransparent c

/-- Whether a joiner or its opposite has an effect between two texts, the one before it given
from its end: the letters around it would join. -/
def wouldJoin (before after : List Char) : Bool :=
  ((firstLetter? before).map joinsNext).getD false &&
    ((firstLetter? after).map joinsPrevious).getD false

end SetupForge.Text
