import SetupForge.Text.Composed
import SetupForge.Text.Direction
import SetupForge.Text.LabelTable
import SetupForge.Text.LetterCase
import SetupForge.Text.Punycode
import SetupForge.Text.Quoted

/-! # Labels of a host name

A host name has labels with dots between them. A label of ASCII characters stands as it is, in
lowercase. Any other label has to be a word by the rules for international names, and is
written in ASCII characters after a mark of its own.
-/

namespace SetupForge.Address

open Text

def encodedMark : List Char := "xn--".toList

def longestLabel : Nat := 63

def isLabelChar (c : Char) : Bool :=
  if c.toNat < 0x80 then c.isLower || c.isDigit || c = '-'
  else isPrintable c && lowerLetter c = c && inRanges labelTable c.toNat

/-- The order of the marks that cancel the vowel of a letter. -/
def vowelCancelling : Nat := 9

/-- Whether a text ends in a mark that cancels a vowel, the text given from its end. -/
def cancelsVowel : List Char → Bool
  | c :: _ => markOrder c == vowelCancelling
  | [] => false

def isArabicDigit (c : Char) : Bool := 0x660 ≤ c.toNat && c.toNat ≤ 0x669

def isEasternArabicDigit (c : Char) : Bool := 0x6f0 ≤ c.toNat && c.toNat ≤ 0x6f9

def startsIn (ranges : List CodeRange) : List Char → Bool
  | c :: _ => inRanges ranges c.toNat
  | [] => false

/-- Whether a character fits into a label between two texts, the one before it given from its
end. Joiners, punctuation and Arabic digits depend on what is around them. -/
def fits (label before : List Char) (c : Char) (after : List Char) : Bool :=
  if c = '\u200c' then cancelsVowel before || wouldJoin before after
  else if c = '\u200d' then cancelsVowel before
  else if c = '·' then before.head? == some 'l' && after.head? == some 'l'
  else if c = '\u0375' then startsIn greekTable after
  else if c = '\u05f3' ∨ c = '\u05f4' then startsIn hebrewTable before
  else if c = '\u30fb' then label.any fun c => c ≠ '\u30fb' && inRanges japaneseTable c.toNat
  else if isArabicDigit c then !label.any isEasternArabicDigit
  else if isEasternArabicDigit c then !label.any isArabicDigit
  else isLabelChar c

def allFit (label before : List Char) : List Char → Bool
  | [] => true
  | c :: text => fits label before c text && allFit label (c :: before) text

def hyphensFit (label : List Char) : Bool :=
  (label.drop 2).take 2 != ['-', '-'] && label.head? != some '-' && label.getLast? != some '-'

def isLabel (label : List Char) : Bool :=
  !label.isEmpty && isComposed label && hyphensFit label && !label.head?.any isMark &&
    allFit label [] label && isUnambiguous label

def encodedLabel? (label : List Char) : Option (List Char) :=
  let label := lowerChars label
  if isLabel label then
    let encoded :=
      if label.all fun c => c.toNat < 0x80 then label
      else encodedMark ++ Punycode.encode label
    if encoded.length ≤ longestLabel then some encoded else none
  else none

def labelText? (label : List Char) : Option (List Char) :=
  if label.all fun c => c.toNat < 0x80 then some (label.map Char.toLower)
  else encodedLabel? label

end SetupForge.Address
