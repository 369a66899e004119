/-! # Places in a YAML text

A cursor stands between two characters of a text and knows its line and column, which
decide what is indented how far. The text has line feeds for all line ends of other
systems; three further characters end a line in YAML.
-/

namespace SetupForge.Yaml

inductive Fault where
  | character
  /-- No token can be read here, or one breaks off. -/
  | token
  /-- A token or key where none may stand. -/
  | placement
  /-- A node that its surroundings do not allow. -/
  | node
  /-- A directive that contradicts another, or a second document. -/
  | document
  /-- An anchor that is set twice, or used where it is not set. -/
  | anchor
  /-- A tag that means nothing here. -/
  | tag
  /-- A key that is no scalar, or a merge of something else than mappings. -/
  | key
  /-- A number, date or character that does not exist. -/
  | scalar
  /-- A number that is too large to be looked at. -/
  | oversized
  /-- A tagged number without a digit. -/
  | emptyNumber
  | word
  | stamp
  | kind
  /-- Nodes inside nodes beyond all measure. -/
  | depth
deriving DecidableEq, Repr

def isBreak (c : Char) : Bool := c = '\n' || c = '\u0085' || c = '\u2028' || c = '\u2029'

def isTabOrSpace (c : Char) : Bool := c = ' ' || c = '\t'

def endsLine : Option Char → Bool
  | none => true
  | some c => isBreak c

def endsWord (c? : Option Char) : Bool := endsLine c? || c? == some ' '

def isGap (c? : Option Char) : Bool := endsWord c? || c? == some '\t'

structure Cursor where
  rest : List Char
  /-- How many characters come before. -/
  index : Nat := 0
  line : Nat := 0
  column : Nat := 0

namespace Cursor

def head? (cursor : Cursor) : Option Char := cursor.rest.head?

def at? (cursor : Cursor) (distance : Nat) : Option Char := cursor.rest[distance]?

/-- Goes past one character. A byte order mark takes no column. -/
def step (cursor : Cursor) : Cursor :=
  match cursor.rest with
  | [] => cursor
  | c :: rest =>
      if isBreak c then ⟨rest, cursor.index + 1, cursor.line + 1, 0⟩
      else if c = '\ufeff' then ⟨rest, cursor.index + 1, cursor.line, cursor.column⟩
      else ⟨rest, cursor.index + 1, cursor.line, cursor.column + 1⟩

def skip : Nat → Cursor → Cursor
  | 0, cursor => cursor
  | count + 1, cursor => skip count cursor.step

def skipWhile (test : Char → Bool) (cursor : Cursor) : Cursor :=
  cursor.skip (cursor.rest.takeWhile test).length

def skipSpaces (cursor : Cursor) : Cursor := cursor.skipWhile (· = ' ')

def skipLine (cursor : Cursor) : Cursor := cursor.skipWhile fun c => !isBreak c

/-- Reads the end of a line: the character that it stands for in a scalar. -/
def lineBreak? (cursor : Cursor) : Option (Char × Cursor) :=
  match cursor.head? with
  | some c =>
      if isBreak c then some (if c = '\u0085' then '\n' else c, cursor.step) else none
  | none => none

def isAt (mark : String) (cursor : Cursor) : Bool :=
  mark.toList.isPrefixOf cursor.rest && isGap (cursor.at? mark.length)

/-- Whether a line starts or ends a document, if the cursor is at its start. -/
def isDocumentMark (cursor : Cursor) : Bool := cursor.isAt "---" || cursor.isAt "..."

/-- Goes past spaces, a comment and the end of the line; nothing else may stand there. -/
def endLine? (cursor : Cursor) : Option Cursor :=
  let cursor := cursor.skipSpaces
  let cursor := if cursor.head? == some '#' then cursor.skipLine else cursor
  if endsLine cursor.head? then some cursor.step else none

end Cursor

/-- What a line end and the breaks of the empty lines after it stand for: a single line end is a
space, and of several the first does not count. -/
def folded (first : Char) (breaks : List Char) : List Char :=
  if first ≠ '\n' then first :: breaks
  else if breaks.isEmpty then [' ']
  else breaks

end SetupForge.Yaml
