import SetupForge.Json.Read
import SetupForge.Text.Utf8
import SetupForge.Yaml.Cursor

/-! # Tokens of YAML

What a text consists of, and how the tokens are read that start with an indicator and a
name: directives, anchors, aliases and tags.
-/

namespace SetupForge.Yaml

inductive Directive where
  | version (major : Nat)
  | tagHandle (handle start : String)
  | unknown
deriving DecidableEq, Repr

/-- A token. Indentation shows as the start and end of block collections. -/
inductive Token where
  | directive (directive : Directive)
  | documentStart
  | documentEnd
  | blockList
  | blockMapping
  | blockEnd
  | flowList
  | flowListEnd
  | flowMapping
  | flowMappingEnd
  | blockEntry
  | flowEntry
  | key
  | value
  | alias (name : String)
  | anchor (name : String)
  | tag (handle : Option String) (suffix : String)
  | scalar (text : String) (isPlain : Bool)
  /-- The place where a text cannot be divided further. -/
  | broken (fault : Fault)
deriving DecidableEq, Repr

def isNameChar (c : Char) : Bool := c.isAlphanum || c = '-' || c = '_'

/-- The characters besides gaps that can follow an anchor. -/
def followsAnchor (c : Char) : Bool := "?:,]\x7d%@\x60".toList.contains c

def readName (cursor : Cursor) : Except Fault (String × Cursor) :=
  let name := cursor.rest.takeWhile isNameChar
  if name.isEmpty then .error .token
  else .ok (String.ofList name, cursor.skip name.length)

def readAnchor (cursor : Cursor) : Except Fault (String × Cursor) := do
  let (name, cursor) ← readName cursor
  if isGap cursor.head? || (cursor.head?.map followsAnchor).getD false then .ok (name, cursor)
  else .error .token

def isTagChar (c : Char) : Bool := c.isAlphanum || "-;/?:@&=+$,_.!~*'()[]".toList.contains c

/-- The bytes that percent escapes at the start of a text write, and the text after them. -/
def readEscapedBytesFuel : Nat → List Char → Option (Bytes × List Char)
  | fuel + 1, '%' :: a :: b :: rest => do
      let value ← Json.hexValue? [a, b]
      let (bytes, rest) ← readEscapedBytesFuel fuel rest
      pure (UInt8.ofNat value :: bytes, rest)
  | _, '%' :: _ => none
  | _, rest => some ([], rest)

def tagTextFuel : Nat → List Char → Option (List Char × List Char)
  | 0, text => some ([], text)
  | _ + 1, [] => some ([], [])
  | fuel + 1, c :: rest =>
      if c = '%' then do
        let (bytes, after) ← readEscapedBytesFuel (rest.length + 1) (c :: rest)
        let chars ← Utf8.decode? bytes
        let (more, after) ← tagTextFuel fuel after
        pure (chars ++ more, after)
      else if isTagChar c then do
        let (more, after) ← tagTextFuel fuel rest
        pure (c :: more, after)
      else some ([], c :: rest)

def readTagText (cursor : Cursor) : Except Fault (String × Cursor) :=
  match tagTextFuel (cursor.rest.length + 1) cursor.rest with
  | none => .error .token
  | some (text, after) =>
      let size := cursor.rest.length - after.length
      if size = 0 then .error .token
      else .ok (String.ofList text, cursor.skip size)

/-- Reads a tag's handle: an exclamation mark, or a name between two. -/
def readHandle (cursor : Cursor) : Except Fault (String × Cursor) :=
  if cursor.head? != some '!' then .error .token
  else if cursor.at? 1 == some ' ' then .ok ("!", cursor.step)
  else
    let name := (cursor.rest.drop 1).takeWhile isNameChar
    if cursor.at? (name.length + 1) == some '!' then
      .ok (String.ofList ('!' :: name ++ ['!']), cursor.skip (name.length + 2))
    else .error .token

def hasHandle (text : List Char) : Bool :=
  (text.takeWhile fun c => !endsWord (some c)).contains '!'

def readTag (cursor : Cursor) : Except Fault (Token × Cursor) := do
  let (token, cursor) ←
    if cursor.at? 1 == some '<' then do
      let (text, cursor) ← readTagText (cursor.skip 2)
      if cursor.head? == some '>' then .ok (Token.tag none text, cursor.step)
      else .error .token
    else if isGap (cursor.at? 1) then .ok (Token.tag none "!", cursor.step)
    else do
      let (handle, cursor) ←
        if hasHandle (cursor.rest.drop 1) then readHandle cursor else .ok ("!", cursor.step)
      let (text, cursor) ← readTagText cursor
      .ok (Token.tag (some handle) text, cursor)
  if endsWord cursor.head? then .ok (token, cursor) else .error .token

def readNumber (cursor : Cursor) : Except Fault (Nat × Cursor) :=
  let digits := cursor.rest.takeWhile Char.isDigit
  if digits.isEmpty then .error .token
  else if Text.maxIntegerDigits < digits.length then .error .scalar
  else .ok (Text.ofDigits 10 (digits.filterMap Text.asciiDigit?), cursor.skip digits.length)

def readVersion (cursor : Cursor) : Except Fault (Directive × Cursor) := do
  let (major, cursor) ← readNumber cursor.skipSpaces
  if cursor.head? != some '.' then .error .token
  else
    let (_, cursor) ← readNumber cursor.step
    if endsWord cursor.head? then .ok (.version major, cursor) else .error .token

/-- Reads the handle that a directive declares and the start of the tags that it stands for. -/
def readTagHandle (cursor : Cursor) : Except Fault (Directive × Cursor) := do
  let (handle, cursor) ← readHandle cursor.skipSpaces
  if cursor.head? != some ' ' then .error .token
  else
    let (start, cursor) ← readTagText cursor.skipSpaces
    if endsWord cursor.head? then .ok (.tagHandle handle start, cursor) else .error .token

def readDirective (cursor : Cursor) : Except Fault (Directive × Cursor) := do
  let (name, cursor) ← readName cursor.step
  if !endsWord cursor.head? then .error .token
  else
    let (directive, cursor) ←
      match name with
      | "YAML" => readVersion cursor
      | "TAG" => readTagHandle cursor
      | _ => .ok (.unknown, cursor.skipLine)
    match cursor.endLine? with
    | some cursor => .ok (directive, cursor)
    | none => .error .token

end SetupForge.Yaml
