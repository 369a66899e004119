import SetupForge.Script.Basic
import SetupForge.Text.Blank
import SetupForge.Text.LetterCase

/-! # Sections of a script

A section starts at a line that reads `[name]` once trimmed, case ignored, and ends
before the next line that opens with a bracketed header. The unnamed section is what
stands before the first header.
-/

namespace SetupForge.Section

open Text

/-- Whether a trimmed line starts with a bracketed, nonempty header. -/
def opensHeader : List Char → Bool
  | '[' :: text =>
      !(text.takeWhile (· ≠ ']')).isEmpty && (text.dropWhile (· ≠ ']')).head? == some ']'
  | _ => false

def isHeader (line : String) : Bool := opensHeader (trimChars line.toList)

def header (name : String) : String := "[" ++ name ++ "]"

/-- Whether a line is the header of a name; blanks at the ends of either and case are ignored. -/
def isHeaderFor (name line : String) : Bool := lower (trim line) == lower (header (trim name))

/-- Whether a name means the lines before the first header. -/
def isUnnamed (name : String) : Bool := isBlank name

/-- The position of a section's first line: its header, or the start of the script. -/
def start? (name : String) (lines : List String) : Option Nat :=
  if isUnnamed name then (if lines.isEmpty then none else some 0)
  else Lines.indexFrom? (isHeaderFor name) 0 lines

/-- The position before the next header from `start` on, or that of the last line. -/
def endFrom (start : Nat) (lines : List String) : Nat :=
  match Lines.indexFrom? isHeader start lines with
  | some next => next - 1
  | none => lines.length - 1

def end? (name : String) (lines : List String) : Option Nat :=
  if isUnnamed name then
    match lines with
    | [] => none
    | first :: _ => if isHeader first then none else some (endFrom 0 lines)
  else (start? name lines).map fun start => endFrom (start + 1) lines

/-- The lines of a section, without its header. -/
def body? (name : String) (lines : List String) : Option (List String) :=
  match start? name lines, end? name lines with
  | some start, some last =>
      some (Lines.slice (if isUnnamed name then start else start + 1) last lines)
  | _, _ => none

/-- Whether a section is missing or holds blank lines only. -/
def isEmpty (name : String) (lines : List String) : Bool :=
  match body? name lines with
  | none => true
  | some body => body.all isBlank

/-- The position of a section's first line, after adding its header at the end if it is missing. -/
def ensure (name : String) (lines : List String) : Nat × List String :=
  match start? name lines with
  | some start => (start, lines)
  | none => (lines.length, lines ++ [header name])

/-- Inserts a header before the header of another section, or at the end when that is missing. -/
def insertBefore (name before : String) (lines : List String) : Nat × List String :=
  match if isUnnamed before then none else start? before lines with
  | some position => (position, Lines.insertAt position [header name] lines)
  | none => (lines.length, lines ++ [header name])

def clear (name : String) (lines : List String) : List String :=
  match start? name lines, end? name lines with
  | some start, some last =>
      if isUnnamed name || last < start + 1 then lines
      else Lines.removeRange (start + 1) last lines
  | _, _ => lines

def remove (name : String) (lines : List String) : List String :=
  match start? name lines, end? name lines with
  | some start, some last =>
      if isUnnamed name then lines else Lines.removeRange start last lines
  | _, _ => lines

theorem start?_eq {name : String} (hname : Text.isBlank name = false) (lines : List String) :
    start? name lines = Lines.indexFrom? (isHeaderFor name) 0 lines := by
  rw [start?, isUnnamed, hname]
  rfl

theorem start?_lt {name : String} {lines : List String} {i : Nat}
    (h : start? name lines = some i) : i < lines.length := by
  unfold start? at h
  split at h
  · split at h
    · simp at h
    · have : lines ≠ [] := by simpa using ‹¬ lines.isEmpty = true›
      simp only [Option.some.injEq] at h
      subst h
      exact List.length_pos_iff.2 this
  · exact (Lines.indexFrom?_lt h).2

theorem sublist_insertBefore (name before : String) (lines : List String) :
    lines.Sublist (insertBefore name before lines).2 := by
  unfold insertBefore
  split
  · exact Lines.sublist_insertAt _ _ _
  · simp

end SetupForge.Section
