/-! # Faults of JSON text -/

namespace SetupForge.Json

inductive FaultKind where
  | valueExpected
  | nameExpected
  | colonExpected
  | commaExpected
  | extraData
  | unterminatedText
  | controlCharacter
  | invalidEscape
  | invalidCodeEscape
  | unexpectedMark
  /-- An integer of more digits than may be read. -/
  | tooManyDigits
  /-- Lists and mappings inside each other beyond all measure. -/
  | tooDeep
deriving DecidableEq, Repr

def FaultKind.words : FaultKind → String
  | .valueExpected => "Expecting value"
  | .nameExpected => "Expecting property name enclosed in double quotes"
  | .colonExpected => "Expecting ':' delimiter"
  | .commaExpected => "Expecting ',' delimiter"
  | .extraData => "Extra data"
  | .unterminatedText => "Unterminated string starting at"
  | .controlCharacter => "Invalid control character at"
  | .invalidEscape => "Invalid \\escape"
  | .invalidCodeEscape => "Invalid \\uXXXX escape"
  | .unexpectedMark => "Unexpected UTF-8 BOM (decode using utf-8-sig)"
  | .tooManyDigits => "Too many digits"
  | .tooDeep => "Too many values inside each other"

/-- A fault and how many characters of the text stand from it on. -/
structure Fault where
  kind : FaultKind
  remaining : Nat
deriving DecidableEq, Repr

/-- The number of the line after some text, and of the column in it, both from one. -/
def place (before : List Char) : Nat × Nat :=
  (before.count '\n' + 1, (before.reverse.takeWhile (· ≠ '\n')).length + 1)

def Fault.message (text : List Char) (fault : Fault) : String :=
  let position := text.length - fault.remaining
  let (line, column) := place (text.take position)
  s!"{fault.kind.words}: line {line} column {column} (char {position})"

end SetupForge.Json
