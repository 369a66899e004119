import SetupForge.Yaml.Cursor

/-! # Scalars without quotes

A plain scalar goes on over the words of its line and over further lines that are indented
far enough, up to a comment, a colon before a gap, or a bracket of the flow around it.
-/

namespace SetupForge.Yaml

def isFlowMark (c : Char) : Bool :=
  c = ',' || c = '?' || c = '[' || c = ']' || c = '\x7b' || c = '\x7d'

def endsKey (inFlow : Bool) (next : Option Char) : Bool :=
  isGap next || (inFlow && (next.map fun c => isFlowMark c && c != '?').getD false)

def plainWord (inFlow : Bool) : List Char → List Char
  | [] => []
  | c :: rest =>
      if isGap (some c) || (c = ':' && endsKey inFlow rest.head?) ||
          (inFlow && isFlowMark c) then []
      else c :: plainWord inFlow rest

def startsPlain (inFlow : Bool) (c : Char) (next : Option Char) : Bool :=
  !(isGap (some c) || "-?:,[]\x7b\x7d#&*!|>'\"%@\x60".toList.contains c) ||
    (!isGap next && (c = '-' || (!inFlow && (c = '?' || c = ':'))))

/-- Reads the breaks of the empty lines between two lines of a scalar and the spaces around them.
There are none if a document ends meanwhile. -/
def readPlainBreaksFuel : Nat → Cursor → Option (List Char) × Cursor
  | 0, cursor => (some [], cursor)
  | fuel + 1, cursor =>
      let cursor := cursor.skipSpaces
      match cursor.lineBreak? with
      | none => (some [], cursor)
      | some (c, cursor) =>
          if cursor.isDocumentMark then (none, cursor)
          else
            let (breaks, cursor) := readPlainBreaksFuel fuel cursor
            (breaks.map (c :: ·), cursor)

structure PlainGap where
  /-- What it stands for; empty where the scalar ends. -/
  text : List Char
  crosses : Bool
  cursor : Cursor

def readPlainGap (cursor : Cursor) : PlainGap :=
  let spaces := cursor.rest.takeWhile (· = ' ')
  let cursor := cursor.skip spaces.length
  match cursor.lineBreak? with
  | none => ⟨spaces, false, cursor⟩
  | some (c, cursor) =>
      if cursor.isDocumentMark then ⟨[], true, cursor⟩
      else
        match readPlainBreaksFuel (cursor.rest.length + 1) cursor with
        | (none, cursor) => ⟨[], true, cursor⟩
        | (some breaks, cursor) => ⟨folded c breaks, true, cursor⟩

def readPlainFuel (inFlow : Bool) (indent : Int) : Nat → PlainGap → PlainGap
  | 0, gap => { gap with text := [] }
  | fuel + 1, gap =>
      let word := if gap.cursor.head? == some '#' then [] else plainWord inFlow gap.cursor.rest
      if word.isEmpty then { gap with text := [] }
      else
        let next := readPlainGap (gap.cursor.skip word.length)
        if next.text.isEmpty || next.cursor.head? == some '#' ||
            (!inFlow && (next.cursor.column : Int) < indent) then
          { next with text := gap.text ++ word }
        else
          let last := readPlainFuel inFlow indent fuel next
          { last with text := gap.text ++ word ++ last.text }

/-- Reads a plain scalar: its text, whether the line after it has started, and the place after it.
Outside brackets further lines have to be indented as far as `indent`. -/
def readPlain (inFlow : Bool) (indent : Int) (cursor : Cursor) : PlainGap :=
  readPlainFuel inFlow indent (cursor.rest.length + 1) ⟨[], false, cursor⟩

end SetupForge.Yaml
