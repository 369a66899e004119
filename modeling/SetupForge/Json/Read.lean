import SetupForge.Json.Fault
import SetupForge.Number.Read
import SetupForge.Value.Basic

/-! # Reading JSON

Every reader takes the text from some place on and gives what it read and the text after
it, or a fault. The fuel bounds how deep and how far values are read; the length of the
text is enough, as every value takes at least one character.
-/

namespace SetupForge.Json

open Text (asciiDigit? ofDigits maxIntegerDigits)

def faultAt (kind : FaultKind) (rest : List Char) : Except Fault (α × List Char) :=
  .error ⟨kind, rest.length⟩

def isSpace (c : Char) : Bool := c = ' ' || c = '\t' || c = '\n' || c = '\r'

def dropSpace (text : List Char) : List Char := text.dropWhile isSpace

def hexDigit? (c : Char) : Option Nat :=
  if c.isDigit then some (c.toNat - '0'.toNat)
  else if 'a' ≤ c ∧ c ≤ 'f' then some (c.toNat - 'a'.toNat + 10)
  else if 'A' ≤ c ∧ c ≤ 'F' then some (c.toNat - 'A'.toNat + 10)
  else none

def hexValue? (digits : List Char) : Option Nat :=
  (digits.mapM hexDigit?).map (ofDigits 16)

def shortEscape? : Char → Option Char
  | '"' => some '"'
  | '\\' => some '\\'
  | '/' => some '/'
  | 'b' => some '\x08'
  | 'f' => some '\x0c'
  | 'n' => some '\n'
  | 'r' => some '\r'
  | 't' => some '\t'
  | _ => none

/-- Whether a code is the first half of a pair. -/
def isHighHalf (code : Nat) : Bool := 0xd800 ≤ code && code < 0xdc00

def isLowHalf (code : Nat) : Bool := 0xdc00 ≤ code && code < 0xe000

/-- The character of a code; half of a pair alone reads as the replacement character. -/
def charOfCode (code : Nat) : Char :=
  if code.isValidChar then Char.ofNat code else '\ufffd'

/-- Reads the four digits of a code escape, `text` starting at the `u`. At least one character
has to follow them. -/
def readCode (text : List Char) : Except Fault (Nat × List Char) :=
  let digits := (text.drop 1).take 4
  let rest := text.drop 5
  if rest.isEmpty then faultAt .invalidCodeEscape text
  else
    match hexValue? digits with
    | none => faultAt .invalidCodeEscape text
    | some code => .ok (code, rest)

/-- Reads a code escape, `text` starting at the `u`; two escapes can write one character. -/
def readCodeEscape (text : List Char) : Except Fault (Char × List Char) := do
  let (code, rest) ← readCode text
  match rest with
  | '\\' :: 'u' :: tail =>
      if isHighHalf code && 4 < tail.length then
        match hexValue? (tail.take 4) with
        | none => faultAt .invalidCodeEscape ('u' :: tail)
        | some low =>
            if isLowHalf low then
              .ok (Char.ofNat (0x10000 + (code - 0xd800) * 0x400 + (low - 0xdc00)), tail.drop 4)
            else .ok (charOfCode code, rest)
      else .ok (charOfCode code, rest)
  | _ => .ok (charOfCode code, rest)

/-- Reads the characters of a text up to its closing quote. `start` is the text from the opening
quote on, where a text that does not end is reported. -/
def readCharsFuel (start : List Char) : Nat → List Char → Except Fault (List Char × List Char)
  | 0, _ => faultAt .unterminatedText start
  | _ + 1, [] => faultAt .unterminatedText start
  | fuel + 1, '"' :: rest => let _ := fuel; .ok ([], rest)
  | fuel + 1, '\\' :: rest =>
      match rest with
      | [] => faultAt .unterminatedText start
      | 'u' :: _ => do
          let (c, rest) ← readCodeEscape rest
          let (chars, rest) ← readCharsFuel start fuel rest
          .ok (c :: chars, rest)
      | letter :: tail =>
          match shortEscape? letter with
          | none => faultAt .invalidEscape ('\\' :: rest)
          | some c => do
              let (chars, rest) ← readCharsFuel start fuel tail
              .ok (c :: chars, rest)
  | fuel + 1, c :: rest =>
      if c.toNat < 0x20 then faultAt .controlCharacter (c :: rest)
      else do
        let (chars, rest) ← readCharsFuel start fuel rest
        .ok (c :: chars, rest)

def readText (start rest : List Char) : Except Fault (String × List Char) := do
  let (chars, rest) ← readCharsFuel start (rest.length + 1) rest
  .ok (String.ofList chars, rest)

def takeDigits (text : List Char) : List Char × List Char :=
  (text.takeWhile Char.isDigit, text.dropWhile Char.isDigit)

def takeFraction (text : List Char) : List Char × List Char :=
  match text with
  | '.' :: rest =>
      let (digits, rest) := takeDigits rest
      if digits.isEmpty then ([], text) else ('.' :: digits, rest)
  | _ => ([], text)

def takeExponent (text : List Char) : List Char × List Char :=
  match text with
  | mark :: rest =>
      if mark = 'e' ∨ mark = 'E' then
        let (sign, rest) : List Char × List Char :=
          match rest with
          | '-' :: rest => (['-'], rest)
          | '+' :: rest => (['+'], rest)
          | rest => ([], rest)
        let (digits, rest) := takeDigits rest
        if digits.isEmpty then ([], text) else (mark :: sign ++ digits, rest)
      else ([], text)
  | [] => ([], text)

/-- Reads a number: an integer, unless it has a point or an exponent. -/
def readNumber (text : List Char) : Except Fault (Value × List Char) :=
  let (negative, unsigned) : Bool × List Char :=
    match text with
    | '-' :: rest => (true, rest)
    | rest => (false, rest)
  let (whole, rest) : List Char × List Char :=
    match unsigned with
    | '0' :: rest => (['0'], rest)
    | rest => takeDigits rest
  if whole.isEmpty then faultAt .valueExpected text
  else
    let (fraction, rest) := takeFraction rest
    let (exponent, rest) := takeExponent rest
    if fraction.isEmpty && exponent.isEmpty then
      if maxIntegerDigits < whole.length then faultAt .tooManyDigits text
      else
        let size : Int := ofDigits 10 (whole.filterMap asciiDigit?)
        .ok (.integer (if negative then -size else size), rest)
    else
      match Binary64.readUnsigned? negative (whole ++ fraction ++ exponent) with
      | some number => .ok (.real number, rest)
      | none => faultAt .valueExpected text

def words : List (List Char × Value) := [
  ("null".toList, .null),
  ("true".toList, .bool true),
  ("false".toList, .bool false),
  ("NaN".toList, .real .notNumber),
  ("Infinity".toList, .real (.infinite false)),
  ("-Infinity".toList, .real (.infinite true))]

def word? (text : List Char) : Option (List Char × Value) :=
  words.find? fun entry => entry.1.isPrefixOf text

/-- How many lists and mappings can be inside each other. Each takes one of the thousand calls that
can be inside each other, and this is the number that is left where the reading of a text starts. -/
def deepest : Nat := 985

mutual

/-- Reads a value, `room` being how many more lists and mappings may open inside each other. -/
def readValueFuel : Nat → (room : Nat) → List Char → Except Fault (Value × List Char)
  | 0, _, text => faultAt .valueExpected text
  | _ + 1, _, [] => faultAt .valueExpected []
  | _ + 1, _, '"' :: rest => do
      let (text, rest) ← readText ('"' :: rest) rest
      .ok (.text text, rest)
  | _ + 1, 0, text@('[' :: _) => faultAt .tooDeep text
  | _ + 1, 0, text@('\x7b' :: _) => faultAt .tooDeep text
  | fuel + 1, room + 1, '[' :: rest =>
      match dropSpace rest with
      | ']' :: rest => .ok (.list [], rest)
      | rest => do
          let (items, rest) ← readItemsFuel fuel room rest
          .ok (.list items, rest)
  | fuel + 1, room + 1, '\x7b' :: rest =>
      match dropSpace rest with
      | '\x7d' :: rest => .ok (.mapping [], rest)
      | rest => do
          let (pairs, rest) ← readPairsFuel fuel room rest
          .ok (.mapping (Value.ofPairs pairs), rest)
  | _ + 1, _, text =>
      match word? text with
      | some (word, value) => .ok (value, text.drop word.length)
      | none => readNumber text

def readItemsFuel : Nat → (room : Nat) → List Char → Except Fault (List Value × List Char)
  | 0, _, text => faultAt .valueExpected text
  | fuel + 1, room, text => do
      let (item, rest) ← readValueFuel fuel room text
      match dropSpace rest with
      | ']' :: rest => .ok ([item], rest)
      | ',' :: rest => do
          let (items, rest) ← readItemsFuel fuel room (dropSpace rest)
          .ok (item :: items, rest)
      | rest => faultAt .commaExpected rest

def readPairsFuel : Nat → (room : Nat) → List Char →
    Except Fault (List (Value × Value) × List Char)
  | 0, _, text => faultAt .nameExpected text
  | fuel + 1, room, '"' :: text => do
      let (name, rest) ← readText ('"' :: text) text
      match dropSpace rest with
      | ':' :: rest => do
          let (value, rest) ← readValueFuel fuel room (dropSpace rest)
          match dropSpace rest with
          | '\x7d' :: rest => .ok ([(.text name, value)], rest)
          | ',' :: rest => do
              let (pairs, rest) ← readPairsFuel fuel room (dropSpace rest)
              .ok ((.text name, value) :: pairs, rest)
          | rest => faultAt .commaExpected rest
      | rest => faultAt .colonExpected rest
  | _ + 1, _, text => faultAt .nameExpected text

end

/-- Reads a text that holds one value and nothing else. -/
def read (text : List Char) : Except Fault Value :=
  match text with
  | '\ufeff' :: _ => .error ⟨.unexpectedMark, text.length⟩
  | _ =>
      match readValueFuel (text.length + 1) deepest (dropSpace text) with
      | .error fault => .error fault
      | .ok (value, rest) =>
          match dropSpace rest with
          | [] => .ok value
          | rest => .error ⟨.extraData, rest.length⟩

end SetupForge.Json
