import SetupForge.Text.Digit
import SetupForge.Yaml.Cursor

/-! # Block scalars

A block scalar holds the lines after its header that are indented far enough. In literal
style every line end stays; in folded style the end of a line that is followed by another
without extra indent becomes a space. The header says what happens to the line ends at
the end, and can give the indent.
-/

namespace SetupForge.Yaml

/-- What happens to the line ends after the last line. -/
inductive Chomp where
  | clip
  | strip
  | keep
deriving DecidableEq, Repr

structure BlockHeader where
  chomp : Chomp := .clip
  /-- How much further than its surroundings the text is indented, if the header says it. -/
  increment : Option Nat := none
deriving DecidableEq, Repr

def readChomp (cursor : Cursor) : Option Chomp × Cursor :=
  match cursor.head? with
  | some '+' => (some .keep, cursor.step)
  | some '-' => (some .strip, cursor.step)
  | _ => (none, cursor)

/-- Reads a digit of the header, if one is there; zero is refused. -/
def readIncrement (cursor : Cursor) : Except Fault (Option Nat × Cursor) :=
  match cursor.head?.bind Text.asciiDigit? with
  | none => .ok (none, cursor)
  | some 0 => .error .token
  | some digit => .ok (some digit, cursor.step)

/-- Reads a header: a sign and a digit in either order, and the rest of the line. -/
def readBlockHeader (cursor : Cursor) : Except Fault (BlockHeader × Cursor) := do
  let (before, cursor) := readChomp cursor
  let (increment, cursor) ← readIncrement cursor
  let (after, cursor) :=
    if before.isNone && increment.isSome then readChomp cursor else (none, cursor)
  if !endsWord cursor.head? then .error .token
  else
    match cursor.endLine? with
    | none => .error .token
    | some cursor => .ok (⟨(before.or after).getD .clip, increment⟩, cursor)

def skipIndent (indent : Nat) (cursor : Cursor) : Cursor :=
  cursor.skip (min (indent - cursor.column) (cursor.rest.takeWhile (· = ' ')).length)

def readBlockBreaksFuel (indent : Nat) : Nat → Cursor → List Char × Cursor
  | 0, cursor => ([], cursor)
  | fuel + 1, cursor =>
      let cursor := skipIndent indent cursor
      match cursor.lineBreak? with
      | none => ([], cursor)
      | some (c, cursor) =>
          let (breaks, cursor) := readBlockBreaksFuel indent fuel cursor
          (c :: breaks, cursor)

/-- Reads the breaks of empty lines, and the indent of the line after them. -/
def readBlockBreaks (indent : Nat) (cursor : Cursor) : List Char × Cursor :=
  readBlockBreaksFuel indent (cursor.rest.length + 1) cursor

/-- Reads the empty lines before the first line: their breaks, and the deepest column that their
spaces or those of the first line reach. -/
def measureIndentFuel : Nat → (deepest : Nat) → Cursor → List Char × Nat × Cursor
  | 0, deepest, cursor => ([], deepest, cursor)
  | fuel + 1, deepest, cursor =>
      let cursor := cursor.skipSpaces
      let deepest := max deepest cursor.column
      match cursor.lineBreak? with
      | none => ([], deepest, cursor)
      | some (c, cursor) =>
          let (breaks, deepest, cursor) := measureIndentFuel fuel deepest cursor
          (c :: breaks, deepest, cursor)

structure BlockLines where
  text : List Char
  /-- The end of the last line. -/
  last : List Char
  /-- The breaks of the empty lines after it. -/
  trailing : List Char
  cursor : Cursor

/-- What joins two lines that are separated by a line end and some empty lines. -/
def lineJoin (fold : Bool) (ending breaks : List Char) (first next : Option Char) : List Char :=
  let plain (c? : Option Char) : Bool := !((c?.map isTabOrSpace).getD false)
  if fold && ending == ['\n'] && plain first && plain next then
    (if breaks.isEmpty then [' '] else [])
  else ending

def readBlockLinesFuel (fold : Bool) (indent : Nat) : Nat → List Char → Cursor → BlockLines
  | 0, breaks, cursor => ⟨[], [], breaks, cursor⟩
  | fuel + 1, breaks, cursor =>
      if cursor.column = indent ∧ cursor.head?.isSome then
        let line := cursor.rest.takeWhile fun c => !isBreak c
        let after := cursor.skip line.length
        let (ending, after) : List Char × Cursor :=
          match after.lineBreak? with
          | some (c, after) => ([c], after)
          | none => ([], after)
        let (next, after) := readBlockBreaks indent after
        if after.column = indent ∧ after.head?.isSome then
          let more := readBlockLinesFuel fold indent fuel next after
          let join := lineJoin fold ending next cursor.head? after.head?
          { more with text := breaks ++ line ++ join ++ more.text }
        else ⟨breaks ++ line, ending, next, after⟩
      else ⟨[], [], breaks, cursor⟩

def readBlock (fold : Bool) (around : Int) (cursor : Cursor) :
    Except Fault (List Char × Cursor) := do
  let (header, cursor) ← readBlockHeader cursor.step
  let least := max (around + 1) 1
  let fuel := cursor.rest.length + 1
  let (indent, breaks, cursor) : Nat × List Char × Cursor :=
    match header.increment with
    | some increment =>
        let indent := (least + increment - 1).toNat
        (indent, readBlockBreaks indent cursor)
    | none =>
        let (breaks, deepest, cursor) := measureIndentFuel fuel 0 cursor
        (max least.toNat deepest, breaks, cursor)
  let lines := readBlockLinesFuel fold indent fuel breaks cursor
  let text := lines.text ++
    (if header.chomp = .strip then [] else lines.last) ++
    (if header.chomp = .keep then lines.trailing else [])
  .ok (text, lines.cursor)

end SetupForge.Yaml
