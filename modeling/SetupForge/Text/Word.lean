import SetupForge.Text.NameTable
import SetupForge.Text.WordTable

/-! # Words and names

A word character is a letter, a digit or an underscore. A word is a maximal run
of word characters. A name starts with a letter or an underscore; marks may follow as well.
-/

namespace SetupForge.Text

def isWordChar (c : Char) : Bool :=
  if c.toNat < 0x80 then c.isAlphanum || c == '_' else inRanges wordTable c.toNat

def isNameChar (c : Char) : Bool :=
  (isWordChar c && !inRanges unnamedTable c.toNat) || inRanges nameMarkTable c.toNat

def opensName (c : Char) : Bool :=
  isNameChar c && !c.isDigit && !inRanges unstartedTable c.toNat

def isName : List Char → Bool
  | [] => false
  | c :: text => opensName c && text.all isNameChar

def startsWord : List Char → Bool
  | [] => false
  | c :: _ => isWordChar c

/-- The maximal runs of word characters of a text, in order. -/
def words : List Char → List (List Char)
  | [] => []
  | c :: text =>
      if isWordChar c then
        if startsWord text then
          match words text with
          | [] => [[c]]
          | word :: rest => (c :: word) :: rest
        else [c] :: words text
      else words text

end SetupForge.Text
