import SetupForge.Yaml.BlockText
import SetupForge.Yaml.PlainText
import SetupForge.Yaml.QuotedText
import SetupForge.Yaml.Token

/-! # From text to tokens

Indentation becomes tokens: a column further right opens a block collection, and a column
further left closes those that are open beyond it. A scalar turns out to be a key only
when a colon follows it on its line, so the place of every token that could be a key is
remembered until then.
-/

namespace SetupForge.Yaml

structure PendingKey where
  /-- How many tokens come before it. -/
  position : Nat
  index : Nat
  line : Nat
  column : Nat
  /-- Whether it can only be a key, as it stands at the indent of its block. -/
  required : Bool
deriving Repr

/-- How far a key may be from its colon. -/
def longestKey : Nat := 1024

structure Layout where
  cursor : Cursor
  tokens : List Token := []
  /-- The column of the innermost open block; -1 outside of all. -/
  indent : Int := -1
  outer : List Int := []
  /-- How many brackets are open. -/
  depth : Nat := 0
  keyAllowed : Bool := true
  /-- The tokens that could still be keys, by the number of brackets around them. -/
  pending : List (Nat × PendingKey) := []

namespace Layout

def inFlow (layout : Layout) : Bool := layout.depth != 0

def push (token : Token) (layout : Layout) : Layout :=
  { layout with tokens := layout.tokens ++ [token] }

def pushOver (count : Nat) (token : Token) (layout : Layout) : Layout :=
  { layout.push token with cursor := layout.cursor.skip count }

/-- The indents after closing every block beyond a column, and how many are closed. -/
def closeIndents (column : Int) : Int → List Int → Int × List Int × Nat
  | indent, [] => (indent, [], 0)
  | indent, around :: outer =>
      if column < indent then
        let (indent, outer, count) := closeIndents column around outer
        (indent, outer, count + 1)
      else (indent, around :: outer, 0)

def closeBlocks (column : Int) (layout : Layout) : Layout :=
  if layout.inFlow then layout
  else
    let (indent, outer, count) := closeIndents column layout.indent layout.outer
    { layout with indent, outer, tokens := layout.tokens ++ List.replicate count .blockEnd }

/-- Opens a block at a column if it is beyond the indent; the token goes to a position. -/
def openBlock (column : Nat) (position : Nat) (token : Token) (layout : Layout) : Layout :=
  if layout.indent < column then
    { layout with
      indent := column
      outer := layout.indent :: layout.outer
      tokens := layout.tokens.insertIdx position token }
  else layout

def isStale (layout : Layout) (key : PendingKey) : Bool :=
  key.line != layout.cursor.line || layout.cursor.index - key.index > longestKey

/-- Forgets the pending keys that are too far back; one that had to be a key is a fault. -/
def forgetStale (layout : Layout) : Except Fault Layout :=
  if layout.pending.any fun entry => layout.isStale entry.2 && entry.2.required then
    .error .placement
  else
    .ok { layout with pending := layout.pending.filter fun entry => !layout.isStale entry.2 }

/-- Forgets the pending key inside the brackets that are open; it must not be required. -/
def forgetKey (layout : Layout) : Except Fault Layout :=
  match layout.pending.lookup layout.depth with
  | none => .ok layout
  | some key =>
      if key.required then .error .placement
      else
        .ok { layout with pending := layout.pending.filter fun entry => entry.1 != layout.depth }

def rememberKey (layout : Layout) : Except Fault Layout :=
  if layout.keyAllowed then do
    let required := !layout.inFlow && layout.indent == (layout.cursor.column : Int)
    let layout ← layout.forgetKey
    let key : PendingKey :=
      { position := layout.tokens.length, index := layout.cursor.index
        line := layout.cursor.line, column := layout.cursor.column, required }
    .ok { layout with pending := (layout.depth, key) :: layout.pending }
  else .ok layout

/-- Goes past spaces, comments and line ends. Outside brackets a key can start on a new line. -/
def skipToTokenFuel : Nat → Layout → Layout
  | 0, layout => layout
  | fuel + 1, layout =>
      let cursor := layout.cursor.skipSpaces
      let cursor := if cursor.head? == some '#' then cursor.skipLine else cursor
      match cursor.lineBreak? with
      | none => { layout with cursor }
      | some (_, cursor) =>
          skipToTokenFuel fuel
            { layout with cursor, keyAllowed := layout.keyAllowed || !layout.inFlow }

/-- Goes to the next token; a byte order mark at the very start does not count. -/
def skipToToken (layout : Layout) : Layout :=
  let cursor := layout.cursor
  let cursor :=
    if cursor.index = 0 ∧ cursor.head? = some '\ufeff' then cursor.step else cursor
  skipToTokenFuel (cursor.rest.length + 1) { layout with cursor }

/-- Closes everything before a line that does not belong to a document's content. -/
def leaveContent (layout : Layout) : Except Fault Layout := do
  let layout ← (layout.closeBlocks (-1)).forgetKey
  .ok { layout with keyAllowed := false }

def takeDirective (layout : Layout) : Except Fault Layout := do
  let layout ← layout.leaveContent
  let (directive, cursor) ← readDirective layout.cursor
  .ok { layout.push (.directive directive) with cursor }

def takeDocumentMark (token : Token) (layout : Layout) : Except Fault Layout := do
  let layout ← layout.leaveContent
  .ok (layout.pushOver 3 token)

def takeOpening (token : Token) (layout : Layout) : Except Fault Layout := do
  let layout ← layout.rememberKey
  .ok { layout.pushOver 1 token with depth := layout.depth + 1, keyAllowed := true }

def takeClosing (token : Token) (layout : Layout) : Except Fault Layout := do
  let layout ← layout.forgetKey
  .ok { layout.pushOver 1 token with depth := layout.depth - 1, keyAllowed := false }

def takeFlowEntry (layout : Layout) : Except Fault Layout := do
  let layout ← layout.forgetKey
  .ok { layout.pushOver 1 .flowEntry with keyAllowed := true }

/-- Opens a block at the cursor, where a key has to be allowed, unless brackets are open. -/
def openHere (token : Token) (layout : Layout) : Except Fault Layout :=
  if layout.inFlow then .ok layout
  else if layout.keyAllowed then
    .ok (layout.openBlock layout.cursor.column layout.tokens.length token)
  else .error .placement

def takeBlockEntry (layout : Layout) : Except Fault Layout := do
  let layout ← (← layout.openHere .blockList).forgetKey
  .ok { layout.pushOver 1 .blockEntry with keyAllowed := true }

def takeKey (layout : Layout) : Except Fault Layout := do
  let layout ← (← layout.openHere .blockMapping).forgetKey
  .ok { layout.pushOver 1 .key with keyAllowed := !layout.inFlow }

/-- Reads the colon of a value. The pending key, if there is one, turns out to be a key. -/
def takeValue (layout : Layout) : Except Fault Layout :=
  match layout.pending.lookup layout.depth with
  | some key =>
      let layout := { layout with
        pending := layout.pending.filter fun entry => entry.1 != layout.depth
        tokens := layout.tokens.insertIdx key.position .key }
      let layout :=
        if layout.inFlow then layout else layout.openBlock key.column key.position .blockMapping
      .ok { layout.pushOver 1 .value with keyAllowed := false }
  | none => do
      let layout ← layout.openHere .blockMapping
      .ok { layout.pushOver 1 .value with keyAllowed := !layout.inFlow }

def takeNode (read : Cursor → Except Fault (Token × Cursor)) (layout : Layout) :
    Except Fault Layout := do
  let layout ← layout.rememberKey
  let (token, cursor) ← read layout.cursor
  .ok { layout.push token with cursor, keyAllowed := false }

def takeAnchor (token : String → Token) : Layout → Except Fault Layout :=
  takeNode fun cursor => do
    let (name, cursor) ← readAnchor cursor.step
    .ok (token name, cursor)

def takeQuoted (double : Bool) : Layout → Except Fault Layout :=
  takeNode fun cursor => do
    let (text, cursor) ← readQuoted double cursor
    .ok (.scalar (String.ofList text) false, cursor)

/-- Reads a block scalar; the next line can start with a key. -/
def takeBlock (fold : Bool) (layout : Layout) : Except Fault Layout := do
  let layout ← layout.forgetKey
  let (text, cursor) ← readBlock fold layout.indent layout.cursor
  .ok { layout.push (.scalar (String.ofList text) false) with cursor, keyAllowed := true }

/-- Reads a plain scalar; a key can follow if it goes up to the start of a line. -/
def takePlain (layout : Layout) : Except Fault Layout := do
  let layout ← layout.rememberKey
  let read := readPlain layout.inFlow (layout.indent + 1) layout.cursor
  .ok { layout.push (.scalar (String.ofList read.text) true) with
    cursor := read.cursor, keyAllowed := read.crosses }

def takeToken (c : Char) (layout : Layout) : Except Fault Layout :=
  let next := layout.cursor.at? 1
  let atStart := layout.cursor.column = 0
  if c = '%' ∧ atStart then layout.takeDirective
  else if atStart ∧ layout.cursor.isAt "---" then layout.takeDocumentMark .documentStart
  else if atStart ∧ layout.cursor.isAt "..." then layout.takeDocumentMark .documentEnd
  else if c = '[' then layout.takeOpening .flowList
  else if c = '\x7b' then layout.takeOpening .flowMapping
  else if c = ']' then layout.takeClosing .flowListEnd
  else if c = '\x7d' then layout.takeClosing .flowMappingEnd
  else if c = ',' then layout.takeFlowEntry
  else if c = '-' ∧ isGap next then layout.takeBlockEntry
  else if c = '?' ∧ (layout.inFlow || isGap next) then layout.takeKey
  else if c = ':' ∧ (layout.inFlow || isGap next) then layout.takeValue
  else if c = '*' then layout.takeAnchor .alias
  else if c = '&' then layout.takeAnchor .anchor
  else if c = '!' then layout.takeNode readTag
  else if c = '|' ∧ !layout.inFlow then layout.takeBlock false
  else if c = '>' ∧ !layout.inFlow then layout.takeBlock true
  else if c = '\'' then layout.takeQuoted false
  else if c = '"' then layout.takeQuoted true
  else if startsPlain layout.inFlow c next then layout.takePlain
  else .error .token

/-- Reads the next token and those that closing blocks make before it. There is no further layout
behind the end of the text. -/
def advance (layout : Layout) : Except Fault (Layout × Bool) := do
  let layout ← layout.skipToToken.forgetStale
  match layout.cursor.head? with
  | none =>
      let layout ← (layout.closeBlocks (-1)).forgetKey
      .ok (layout, false)
  | some c =>
      let layout ← (layout.closeBlocks layout.cursor.column).takeToken c
      .ok (layout, true)

/-- The tokens before all that could still be keys. -/
def settled (layout : Layout) : List Token :=
  match (layout.pending.map fun entry => entry.2.position).min? with
  | some position => layout.tokens.take position
  | none => layout.tokens

/-- The tokens when the text cannot be divided further: a token that could be a key is not known
before what follows it. -/
def brokenBy (fault : Fault) (layout : Layout) : List Token := layout.settled ++ [.broken fault]

def finishFuel : Nat → Layout → List Token
  | 0, layout => layout.tokens
  | fuel + 1, layout =>
      match layout.forgetStale with
      | .error fault => layout.brokenBy fault
      | .ok layout =>
          match layout.advance with
          | .error fault => layout.brokenBy fault
          | .ok (next, true) => finishFuel fuel next
          | .ok (next, false) => next.tokens

end Layout

def isPrintable (c : Char) : Bool :=
  let code := c.toNat
  c = '\t' || c = '\n' || c = '\r' || (0x20 ≤ code && code ≤ 0x7e) || code = 0x85 ||
    (0xa0 ≤ code && code ≤ 0xfffd) || 0x10000 ≤ code

/-- The tokens of a text. Every token takes at least one character. -/
def tokens (text : List Char) : List Token :=
  if text.all isPrintable then
    Layout.finishFuel (text.length + 2) { cursor := ⟨text, 0, 0, 0⟩ }
  else [.broken .character]

end SetupForge.Yaml
