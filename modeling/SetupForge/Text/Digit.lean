import SetupForge.Text.Blank

/-! # Decimal digits and integers as text -/

namespace SetupForge.Text

/-- The zeros of the decimal digit blocks outside ASCII; nine further digits follow each. -/
def zeroTable : List Nat := [
  0x660, 0x6f0, 0x7c0, 0x966, 0x9e6, 0xa66, 0xae6, 0xb66, 0xbe6, 0xc66, 0xce6, 0xd66, 0xde6,
  0xe50, 0xed0, 0xf20, 0x1040, 0x1090, 0x17e0, 0x1810, 0x1946, 0x19d0, 0x1a80, 0x1a90, 0x1b50,
  0x1bb0, 0x1c40, 0x1c50, 0xa620, 0xa8d0, 0xa900, 0xa9d0, 0xa9f0, 0xaa50, 0xabf0, 0xff10,
  0x104a0, 0x10d30, 0x11066, 0x110f0, 0x11136, 0x111d0, 0x112f0, 0x11450, 0x114d0, 0x11650,
  0x116c0, 0x11730, 0x118e0, 0x11950, 0x11c50, 0x11d50, 0x11da0, 0x16a60, 0x16ac0, 0x16b50,
  0x1d7ce, 0x1d7d8, 0x1d7e2, 0x1d7ec, 0x1d7f6, 0x1e140, 0x1e2f0, 0x1e950, 0x1fbf0]

def asciiDigit? (c : Char) : Option Nat :=
  if c.isDigit then some (c.toNat - '0'.toNat) else none

def digit? (c : Char) : Option Nat :=
  if c.toNat < 0x80 then asciiDigit? c
  else (zeroTable.find? fun start => start ≤ c.toNat && c.toNat ≤ start + 9).map (c.toNat - ·)

/-- The ASCII digit of the same value as a decimal digit; other characters as they are. -/
def asAsciiDigit (c : Char) : Char :=
  match digit? c with
  | some digit => Nat.digitChar digit
  | none => c

/-- The number that digits write in a base, most significant first. -/
def ofDigits (base : Nat) (digits : List Nat) : Nat :=
  digits.foldl (fun value digit => value * base + digit) 0

def maxIntegerDigits : Nat := 4300

/-- Whether an integer has a text, which too many digits keep it from having. -/
def hasText (n : Int) : Bool := n.natAbs < Nat.pow 10 maxIntegerDigits

/-- Digits with single underscores between them, read to the end of the text. -/
def groupedDigits? : List Char → Option (List Nat)
  | [] => none
  | c :: text =>
      match digit? c with
      | none => none
      | some digit =>
          match text with
          | [] => some [digit]
          | '_' :: text => (groupedDigits? text).map (digit :: ·)
          | text => (groupedDigits? text).map (digit :: ·)

/-- A number's text without the blanks around it. In a text of ASCII characters the separators
do not count as blanks. -/
def trimNumber (text : List Char) : List Char :=
  if text.all fun c => c.toNat < 0x80 then
    let isSpace (c : Char) : Bool := (9 ≤ c.toNat && c.toNat ≤ 13) || c = ' '
    ((text.dropWhile isSpace).reverse.dropWhile isSpace).reverse
  else trimChars text

/-- The integer a text stands for: blanks around it, a sign, and grouped digits. -/
def integer? (text : String) : Option Int :=
  let (negative, body) : Bool × List Char :=
    match trimNumber text.toList with
    | '-' :: body => (true, body)
    | '+' :: body => (false, body)
    | body => (false, body)
  match groupedDigits? body with
  | none => none
  | some digits =>
      if digits.length > maxIntegerDigits then none
      else
        let size : Int := ofDigits 10 digits
        some (if negative then -size else size)

def padded (width number : Nat) : String :=
  let digits := Nat.toDigits 10 number
  String.ofList (List.replicate (width - digits.length) '0' ++ digits)

@[simp] theorem ofDigits_nil (base : Nat) : ofDigits base [] = 0 := rfl

theorem ofDigits_append_singleton (base : Nat) (digits : List Nat) (digit : Nat) :
    ofDigits base (digits ++ [digit]) = ofDigits base digits * base + digit := by
  simp [ofDigits]

end SetupForge.Text
