import SetupForge.Json.Read
import SetupForge.Yaml.Cursor

/-! # Scalars in quotes

In single quotes only the quote itself is escaped, by writing it twice. In double quotes a
backslash starts an escape. Line ends in both kinds are folded.
-/

namespace SetupForge.Yaml

/-- Reads the breaks of empty lines and the blanks around them, from the start of a line. -/
def readQuotedBreaksFuel : Nat → Cursor → Except Fault (List Char × Cursor)
  | 0, cursor => .ok ([], cursor)
  | fuel + 1, cursor =>
      if cursor.isDocumentMark then .error .token
      else
        let cursor := cursor.skipWhile isTabOrSpace
        match cursor.lineBreak? with
        | none => .ok ([], cursor)
        | some (c, cursor) => do
            let (breaks, cursor) ← readQuotedBreaksFuel fuel cursor
            .ok (c :: breaks, cursor)

def readQuotedBreaks (cursor : Cursor) : Except Fault (List Char × Cursor) :=
  readQuotedBreaksFuel (cursor.rest.length + 1) cursor

def readQuotedGap (cursor : Cursor) : Except Fault (List Char × Cursor) :=
  let blanks := cursor.rest.takeWhile isTabOrSpace
  let cursor := cursor.skip blanks.length
  match cursor.head? with
  | none => .error .token
  | some _ =>
      match cursor.lineBreak? with
      | none => .ok (blanks, cursor)
      | some (c, cursor) => do
          let (breaks, cursor) ← readQuotedBreaks cursor
          .ok (folded c breaks, cursor)

def shortEscape? : Char → Option Char
  | '0' => some '\x00'
  | 'a' => some '\x07'
  | 'b' => some '\x08'
  | 't' => some '\t'
  | '\t' => some '\t'
  | 'n' => some '\n'
  | 'v' => some '\x0b'
  | 'f' => some '\x0c'
  | 'r' => some '\r'
  | 'e' => some '\x1b'
  | ' ' => some ' '
  | '"' => some '"'
  | '\\' => some '\\'
  | '/' => some '/'
  | 'N' => some '\u0085'
  | '_' => some '\u00a0'
  | 'L' => some '\u2028'
  | 'P' => some '\u2029'
  | _ => none

def codeLength? : Char → Option Nat
  | 'x' => some 2
  | 'u' => some 4
  | 'U' => some 8
  | _ => none

def lastCode : Nat := 0x10ffff

/-- The last number that can be looked at as a code point. -/
def lastNumber : Nat := 0x7fffffff

def readCode (length : Nat) (cursor : Cursor) : Except Fault (List Char × Cursor) :=
  let digits := cursor.rest.take length
  match Json.hexValue? digits with
  | none => .error .token
  | some code =>
      if digits.length < length then .error .token
      else if lastNumber < code then .error .oversized
      else if lastCode < code then .error .scalar
      else .ok ([Json.charOfCode code], cursor.skip length)

def readEscape (cursor : Cursor) : Except Fault (List Char × Cursor) :=
  match cursor.head? with
  | none => .error .token
  | some c =>
      match shortEscape? c, codeLength? c, cursor.lineBreak? with
      | some meant, _, _ => .ok ([meant], cursor.step)
      | none, some length, _ => readCode length cursor.step
      | none, none, some (_, cursor) => readQuotedBreaks cursor
      | none, none, none => .error .token

def readQuotedFuel (double : Bool) : Nat → Cursor → Except Fault (List Char × Cursor)
  | 0, _ => .error .token
  | fuel + 1, cursor =>
      let followed (result : Except Fault (List Char × Cursor)) :
          Except Fault (List Char × Cursor) := do
        let (text, cursor) ← result
        let (more, cursor) ← readQuotedFuel double fuel cursor
        .ok (text ++ more, cursor)
      match cursor.head? with
      | none => .error .token
      | some c =>
          if isTabOrSpace c || isBreak c then followed (readQuotedGap cursor)
          else if double && c = '\\' then followed (readEscape cursor.step)
          else if !double && c = '\'' && cursor.at? 1 == some '\'' then
            followed (.ok ([c], cursor.skip 2))
          else if c = (if double then '"' else '\'') then .ok ([], cursor.step)
          else followed (.ok ([c], cursor.step))

def readQuoted (double : Bool) (cursor : Cursor) : Except Fault (List Char × Cursor) :=
  readQuotedFuel double (cursor.rest.length + 1) cursor.step

end SetupForge.Yaml
