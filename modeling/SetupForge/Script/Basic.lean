import SetupForge.Text.Lines
import SetupForge.Text.Utf8
import SetupForge.Text.Windows1252

/-! # Setup scripts

A script is a list of lines and the encoding of the file it came from. Positions
count from zero. Editing by an integer position counts negative ones from the end.
-/

namespace SetupForge

inductive Encoding where
  /-- UTF-8 without a mark. -/
  | utf8
  /-- UTF-8 behind a byte order mark. -/
  | utf8Marked
  | windows1252
deriving DecidableEq, Repr

def Encoding.name : Encoding → String
  | .utf8 => "utf-8"
  | .utf8Marked => "utf-8-sig"
  | .windows1252 => "cp1252"

def Encoding.encode : Encoding → List Char → Bytes
  | .utf8, text => Utf8.encode text
  | .utf8Marked, text => Utf8.mark ++ Utf8.encode text
  | .windows1252, text => Windows1252.encode text

structure Script where
  lines : List String := []
  encoding : Encoding := .utf8
deriving DecidableEq, Repr

namespace Script

def ofText (text : List Char) (encoding : Encoding := .utf8) : Script :=
  ⟨(Text.scriptLines text).map String.ofList, encoding⟩

/-- The lines joined by CRLF, without a line end after the last. -/
def toText (script : Script) : List Char :=
  Text.joinLines (script.lines.map String.toList)

/-- Reads the bytes of a script file. Bytes that are not UTF-8 are read as Windows-1252. -/
def ofBytes (bytes : Bytes) : Script :=
  let (marked, body) := Utf8.dropMark bytes
  match Utf8.decode? body with
  | some text => ofText text (if marked then .utf8Marked else .utf8)
  | none => ofText (Windows1252.decode body) .windows1252

def toBytes (script : Script) : Bytes := script.encoding.encode script.toText

/-- The position that an integer index means, counting negative ones from the end. -/
def position? (length : Nat) (index : Int) : Option Nat :=
  let position := if index < 0 then index + length else index
  if 0 ≤ position ∧ position < length then some position.toNat else none

/-- The position of a cut that an integer index means, kept within the lines. -/
def cutPosition (length : Nat) (index : Int) : Nat :=
  min (if index < 0 then index + length else index).toNat length

def get? (script : Script) (index : Int) : Option String :=
  (position? script.lines.length index).bind (script.lines[·]?)

def set? (script : Script) (index : Int) (line : String) : Option Script :=
  (position? script.lines.length index).map fun i =>
    { script with lines := script.lines.set i line }

def erase? (script : Script) (index : Int) : Option Script :=
  (position? script.lines.length index).map fun i =>
    { script with lines := script.lines.eraseIdx i }

/-- Inserts lines before a position from zero to the number of lines. -/
def insert? (script : Script) (index : Int) (new : List String) : Option Script :=
  if 0 ≤ index ∧ index ≤ script.lines.length then
    some { script with
      lines := script.lines.take index.toNat ++ new ++ script.lines.drop index.toNat }
  else none

/-- Removes the lines from one index to another, both included. -/
def eraseRange (script : Script) (first last : Int) : Script :=
  if last < first then script
  else
    let start := cutPosition script.lines.length first
    let stop := cutPosition script.lines.length (last + 1)
    { script with lines := script.lines.take start ++ script.lines.drop (max start stop) }

def push (script : Script) (line : String) : Script :=
  { script with lines := script.lines ++ [line] }

@[simp] theorem lines_ofText (text : List Char) (encoding : Encoding) :
    (ofText text encoding).lines = (Text.scriptLines text).map String.ofList := rfl

end Script

/-! ## Editing lines at natural positions -/

namespace Lines

/-- The position of the first line from `start` on that satisfies a test. -/
def indexFrom? (test : String → Bool) (start : Nat) (lines : List String) : Option Nat :=
  ((lines.drop start).findIdx? test).map (· + start)

def insertAt (position : Nat) (new lines : List String) : List String :=
  lines.take position ++ new ++ lines.drop position

/-- Removes the lines from one position to another, both included. -/
def removeRange (first last : Nat) (lines : List String) : List String :=
  lines.take first ++ lines.drop (last + 1)

/-- The lines between two positions, both included. -/
def slice (first last : Nat) (lines : List String) : List String :=
  (lines.take (last + 1)).drop first

theorem indexFrom?_lt {test : String → Bool} {start i : Nat} {lines : List String}
    (h : indexFrom? test start lines = some i) : start ≤ i ∧ i < lines.length := by
  simp only [indexFrom?, Option.map_eq_some_iff] at h
  obtain ⟨j, hj, rfl⟩ := h
  obtain ⟨hlt, -⟩ := List.findIdx?_eq_some_iff_getElem.1 hj
  simp only [List.length_drop] at hlt
  omega

theorem sublist_insertAt (position : Nat) (new lines : List String) :
    lines.Sublist (insertAt position new lines) := by
  have h := List.take_append_drop position lines
  conv => lhs; rw [← h]
  simp only [insertAt, List.append_assoc]
  exact List.Sublist.append (List.Sublist.refl _) (List.sublist_append_right _ _)

theorem removeRange_sublist {first last : Nat} (h : first ≤ last) (lines : List String) :
    (removeRange first last lines).Sublist lines := by
  have h' := List.take_append_drop first lines
  conv => rhs; rw [← h']
  refine List.Sublist.append (List.Sublist.refl _) ?_
  have : lines.drop (last + 1) = (lines.drop first).drop (last + 1 - first) := by
    rw [List.drop_drop]; congr 1; omega
  rw [this]
  exact List.drop_sublist _ _

end Lines

end SetupForge
