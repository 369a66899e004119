import SetupForge.Deflate.Wrapped
import SetupForge.Text.Blank
import SetupForge.Text.LetterCase
import SetupForge.Text.Quoted
import SetupForge.Text.Search

/-! # Codings of a body

A header can name codings that were applied to a body, in order. They are undone from the last
to the first. A body whose only coding is not known stays as it is.
-/

namespace SetupForge.Download

inductive Coding where
  | members
  /-- A stream, or blocks without a header. -/
  | stream
deriving DecidableEq, Repr

def Coding.ofName? (name : List Char) : Option Coding :=
  if name = "gzip".toList ∨ name = "x-gzip".toList then some .members
  else if name = "deflate".toList then some .stream
  else none

def Coding.undo (coding : Coding) (body : Bytes) : Except Deflate.Fault Bytes :=
  match coding with
  | .members => Deflate.members body
  | .stream => Deflate.streamOrBlocks body

/-- The codings that a lowercase header names. In a list with a known coding, any other counts as
a stream. -/
def codingsOf (header : List Char) : List Coding :=
  let names := (Text.splitOn ',' header).map Text.trimChars
  match Coding.ofName? header with
  | some coding => [coding]
  | none =>
      if header.contains ',' && names.any fun name => (Coding.ofName? name).isSome then
        names.map fun name => (Coding.ofName? name).getD .stream
      else []

def maxCodings : Nat := 5

def undecodable (header : String) (fault : Deflate.Fault) : String :=
  let text :=
    s!"Received response with content-encoding: {header}, but failed to decode it."
  s!"({Text.quoted text}, error({Text.quoted fault.message}))"

/-- The body that codings were applied to, or why it cannot be read. -/
def decodeBody (header : String) (body : Bytes) : Except String Bytes :=
  let header := Text.lower header
  let codings := codingsOf header.toList
  if codings.length > maxCodings then
    .error s!"Too many content encodings in the chain: {codings.length} > {maxCodings}"
  else
    match codings.reverse.foldlM (fun body coding => coding.undo body) body with
    | .ok body => .ok body
    | .error fault => .error (undecodable header fault)

end SetupForge.Download
