import SetupForge.Text.LetterTable

/-! # Lowercase and comparison without regard to case

Two comparisons are in use. Names are compared by their lowercase texts. Patterns
compare letter by letter: two letters agree when their lowercase letters are equal
or belong to the same uppercase letter.
-/

namespace SetupForge.Text

def lowerLetter (c : Char) : Char :=
  if c.toNat < 0x80 then c.toLower
  else
    match capitalTable.find? (·.holds c.toNat) with
    | some run => Char.ofNat (c.toNat + run.shift).toNat
    | none => c

def isCased (c : Char) : Bool :=
  if c.toNat < 0x80 then c.isAlpha else inRanges casedTable c.toNat

/-- Whether the search for a cased neighbour passes over a character. -/
def isCaseIgnorable (c : Char) : Bool :=
  if c.toNat < 0x80 then c ∈ ['\'', '.', ':', '^', '`'] else inRanges caseIgnorableTable c.toNat

/-- Whether the next character that counts is a cased one. -/
def meetsCased : List Char → Bool
  | [] => false
  | c :: text => if isCaseIgnorable c then meetsCased text else isCased c

/-- Lowercases a text; `afterCased` says whether a cased character stands before it. A capital
sigma at the end of a word becomes the final sigma, and a dotted capital I keeps its dot. -/
def lowerFrom (afterCased : Bool) : List Char → List Char
  | [] => []
  | c :: text =>
      let next := if isCaseIgnorable c then afterCased else isCased c
      if c = 'Σ' then
        (if afterCased && !meetsCased text then 'ς' else 'σ') :: lowerFrom next text
      else if c = 'İ' then 'i' :: '\u0307' :: lowerFrom next text
      else lowerLetter c :: lowerFrom next text

def lowerChars (text : List Char) : List Char := lowerFrom false text

def lower (text : String) : String := String.ofList (lowerChars text.toList)

/-- The other lowercase letters that share an uppercase letter with a lowercase letter. -/
def siblings (c : Char) : List Char :=
  match siblingTable.find? (·.1 == c.toNat) with
  | some entry => entry.2.map Char.ofNat
  | none => []

/-- Whether a letter of a text agrees with a letter of a pattern when case is ignored. -/
def sameLetter (pattern c : Char) : Bool :=
  let wanted := lowerLetter pattern
  let found := lowerLetter c
  found == wanted || found ∈ siblings wanted

/-- What follows a leading occurrence of the pattern, case ignored. -/
def dropLeadingAnyCase? : (pattern text : List Char) → Option (List Char)
  | [], text => some text
  | _ :: _, [] => none
  | p :: pattern, c :: text =>
      if sameLetter p c then dropLeadingAnyCase? pattern text else none

def sameWord (pattern text : List Char) : Bool := dropLeadingAnyCase? pattern text == some []

@[simp] theorem lowerChars_nil : lowerChars [] = [] := rfl

@[simp] theorem toList_lower (text : String) : (lower text).toList = lowerChars text.toList := by
  simp [lower]

@[simp] theorem sameLetter_self (c : Char) : sameLetter c c = true := by
  simp [sameLetter]

@[simp] theorem dropLeadingAnyCase?_append_self (pattern text : List Char) :
    dropLeadingAnyCase? pattern (pattern ++ text) = some text := by
  induction pattern with
  | nil => rfl
  | cons p pattern ih => simp [dropLeadingAnyCase?, ih]

end SetupForge.Text
