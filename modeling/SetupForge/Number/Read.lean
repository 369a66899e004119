import SetupForge.Number.Binary64
import SetupForge.Text.Digit

/-! # Reading floating-point numbers -/

namespace SetupForge.Binary64

def readExponent? (text : List Char) : Option Int :=
  let (negative, digits) :=
    match text with
    | '-' :: digits => (true, digits)
    | '+' :: digits => (false, digits)
    | digits => (false, digits)
  if digits.isEmpty then none
  else
    match digits.mapM Text.asciiDigit? with
    | none => none
    | some values =>
        let size : Int := Text.ofDigits 10 values
        some (if negative then -size else size)

def readUnsigned? (negative : Bool) (text : List Char) : Option Binary64 :=
  let isExponentMark (c : Char) : Bool := c = 'e' || c = 'E'
  let mantissa := text.takeWhile fun c => !isExponentMark c
  let exponent? : Option Int :=
    match text.dropWhile fun c => !isExponentMark c with
    | [] => some 0
    | _ :: rest => readExponent? rest
  let whole := mantissa.takeWhile (· ≠ '.')
  let fraction := (mantissa.dropWhile (· ≠ '.')).drop 1
  match exponent?, whole.mapM Text.asciiDigit?, fraction.mapM Text.asciiDigit? with
  | some exponent, some whole, some fraction =>
      if whole.isEmpty && fraction.isEmpty then none
      else
        some (ofDecimal negative (Text.ofDigits 10 (whole ++ fraction))
          (exponent - fraction.length))
  | _, _, _ => none

def read? (text : List Char) : Option Binary64 :=
  match text with
  | '-' :: text => readUnsigned? true text
  | '+' :: text => readUnsigned? false text
  | text => readUnsigned? false text

/-- The numbers that are written as words, in lowercase. -/
def words : List (String × Binary64) :=
  [("inf", .infinite false), ("infinity", .infinite false), ("nan", .notNumber)]

/-- The number that a text stands for: blanks around it, a sign, and a decimal with digits of any
script, or a word for what is no finite number. -/
def ofText? (text : List Char) : Option Binary64 :=
  let plain := (Text.trimNumber text).map Text.asAsciiDigit
  let unsigned :=
    match plain with
    | '-' :: rest | '+' :: rest => rest
    | _ => plain
  match words.lookup (String.ofList (unsigned.map Char.toLower)) with
  | some value => some (if plain.head? = some '-' then value.negate else value)
  | none => read? plain

example : (read? "-1.50e+3".toList).map toString = some "-1500.0" := by decide +kernel
example : read? "e5".toList = none := by decide +kernel
example : ofText? " -Infinity ".toList = some (.infinite true) := by decide +kernel

end SetupForge.Binary64
