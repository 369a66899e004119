/-! # Blank characters and trimming -/

namespace SetupForge.Text

/-- The blank characters: the ASCII spaces and separators, and the Unicode ones. -/
def isBlankChar (c : Char) : Bool :=
  let code := c.toNat
  (9 ≤ code && code ≤ 13) || (28 ≤ code && code ≤ 32) || code == 0x85 || code == 0xa0 ||
    code == 0x1680 || (0x2000 ≤ code && code ≤ 0x200a) || code == 0x2028 || code == 0x2029 ||
    code == 0x202f || code == 0x205f || code == 0x3000

def dropBlanks (text : List Char) : List Char := text.dropWhile isBlankChar

def dropTrailingBlanks (text : List Char) : List Char := (dropBlanks text.reverse).reverse

def trimChars (text : List Char) : List Char := dropTrailingBlanks (dropBlanks text)

def trim (text : String) : String := String.ofList (trimChars text.toList)

def trimEnd (text : String) : String := String.ofList (dropTrailingBlanks text.toList)

def isBlank (line : String) : Bool := line.toList.all isBlankChar

@[simp] theorem dropBlanks_nil : dropBlanks [] = [] := rfl

theorem dropBlanks_cons (c : Char) (text : List Char) :
    dropBlanks (c :: text) = if isBlankChar c then dropBlanks text else c :: text := by
  cases h : isBlankChar c <;> simp [dropBlanks, h]

theorem dropBlanks_eq_nil_iff {text : List Char} :
    dropBlanks text = [] ↔ ∀ c ∈ text, isBlankChar c = true := by
  induction text with
  | nil => simp
  | cons c text ih => cases h : isBlankChar c <;> simp [dropBlanks_cons, h, ih]

@[simp] theorem isBlank_empty : isBlank "" = true := rfl

@[simp] theorem toList_trim (text : String) : (trim text).toList = trimChars text.toList := by
  simp [trim]

end SetupForge.Text
