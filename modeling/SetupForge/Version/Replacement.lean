import SetupForge.Failure
import SetupForge.Text.Digit
import SetupForge.Text.Word

/-! # Replacement texts

A replacement text stands for itself, apart from what follows a backslash: escapes of
control characters, octal codes, and references to the text that is replaced.
-/

namespace SetupForge.Replacement

open Text

inductive Part where
  | character (c : Char)
  | whole
deriving DecidableEq, Repr

def escape? : Char → Option Char
  | 'a' => some '\x07'
  | 'b' => some '\x08'
  | 'f' => some '\x0c'
  | 'n' => some '\n'
  | 'r' => some '\r'
  | 't' => some '\t'
  | 'v' => some '\x0b'
  | '\\' => some '\\'
  | _ => none

def isOctal (c : Char) : Bool := '0' ≤ c && c ≤ '7'

/-- The character of an octal code, of which eight bits count. -/
def octal (digits : List Char) : Char :=
  Char.ofNat (ofDigits 8 (digits.filterMap asciiDigit?) % 256)

def greatestCode : Nat := 255

/-- Reads the name of a group in angle brackets. Only the whole text, group zero, exists. -/
def readGroup (text : List Char) : Except Failure (Part × List Char) :=
  match text with
  | '<' :: text =>
      let name := text.takeWhile (· ≠ '>')
      match text.dropWhile (· ≠ '>') with
      | [] => .error .malformedReplacement
      | _ :: rest =>
          if isName name then .error (.indexOutOfRange none)
          else if integer? (String.ofList name) == some 0 then .ok (.whole, rest)
          else .error .malformedReplacement
  | _ => .error .malformedReplacement

/-- Reads a code of up to three octal digits that starts with a zero. -/
def readCode (text : List Char) : Part × List Char :=
  let digits := (text.take 3).takeWhile isOctal
  (.character (octal digits), text.drop digits.length)

/-- Reads digits that do not start with a zero: three octal digits are a code, and any others
would be a group that does not exist. -/
def readDigits (text : List Char) : Except Failure (Part × List Char) :=
  let digits := (text.take 3).takeWhile isOctal
  if digits.length = 3 ∧ ofDigits 8 (digits.filterMap asciiDigit?) ≤ greatestCode then
    .ok (.character (octal digits), text.drop 3)
  else .error .malformedReplacement

def readEscape (text : List Char) : Except Failure (List Part × List Char) :=
  match text with
  | [] => .error .malformedReplacement
  | 'g' :: rest => (readGroup rest).map fun (part, rest) => ([part], rest)
  | c :: rest =>
      if c = '0' then
        let (part, rest) := readCode text
        .ok ([part], rest)
      else if c.isDigit then (readDigits text).map fun (part, rest) => ([part], rest)
      else
        match escape? c with
        | some meant => .ok ([.character meant], rest)
        | none =>
            if c.isAlpha then .error .malformedReplacement
            else .ok ([.character '\\', .character c], rest)

def readFuel : Nat → List Char → Except Failure (List Part)
  | 0, _ => .ok []
  | _ + 1, [] => .ok []
  | fuel + 1, '\\' :: text => do
      let (parts, rest) ← readEscape text
      let more ← readFuel fuel rest
      .ok (parts ++ more)
  | fuel + 1, c :: text => do
      let more ← readFuel fuel text
      .ok (.character c :: more)

def read (text : List Char) : Except Failure (List Part) := readFuel text.length text

def fill (parts : List Part) (replaced : List Char) : List Char :=
  parts.flatMap fun
    | .character c => [c]
    | .whole => replaced

theorem readFuel_of_not_mem {text : List Char} (h : '\\' ∉ text) (fuel : Nat)
    (hf : text.length ≤ fuel) : readFuel fuel text = .ok (text.map .character) := by
  induction text generalizing fuel with
  | nil => cases fuel <;> rfl
  | cons c text ih =>
      simp only [List.mem_cons, not_or] at h
      cases fuel with
      | zero => simp at hf
      | succ fuel =>
          have hc : c ≠ '\\' := fun e => h.1 e.symm
          rw [readFuel]
          · simp [ih h.2 fuel (by simpa using hf), bind, Except.bind]
          · exact hc

/-- A text without a backslash stands for itself. -/
theorem read_of_not_mem {text : List Char} (h : '\\' ∉ text) :
    read text = .ok (text.map .character) := readFuel_of_not_mem h _ (Nat.le_refl _)

@[simp] theorem fill_map_character (text replaced : List Char) :
    fill (text.map .character) replaced = text := by
  induction text with
  | nil => rfl
  | cons c text ih => simpa [fill] using ih

end SetupForge.Replacement
