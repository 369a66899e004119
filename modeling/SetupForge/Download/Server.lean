import SetupForge.Address.Normal
import SetupForge.Host

/-! # Which reply answers a request

Replies are kept by address. One answers a request of the same path if its scheme and authority
are the request's or empty, and if the request's query has all of its fields. Case,
parameters and fragments do not matter.
-/

namespace SetupForge.Download

open Address (read? requote plain)

abbrev Field := List Char × List Char

def plainField (text : List Char) : List Char :=
  plain (text.map fun c => if c = '+' then ' ' else c)

def fieldsOf (query : List Char) : List Field :=
  ((Text.splitOn '&' query).filter fun piece => !piece.isEmpty).map fun piece =>
    let (name, value) := Address.cutMark '=' piece
    (plainField name, plainField value)

/-- Whether some fields are among others, each as often. -/
def areAmong : List Field → List Field → Bool
  | [], _ => true
  | field :: fields, others => others.contains field && areAmong fields (others.erase field)

def nonemptyPath (path : List Char) : List Char := if path.isEmpty then ['/'] else path

def agrees (part other : List Char) : Bool := part.isEmpty || Text.lowerChars part == other

/-- Whether the reply that is kept for an address answers a lowercase request. -/
def answers (kept request : Address) : Bool :=
  agrees kept.scheme request.scheme && agrees kept.authority request.authority &&
    Text.lowerChars (requote (nonemptyPath kept.path)) == nonemptyPath request.path &&
    areAmong (fieldsOf (Text.lowerChars kept.query)) (fieldsOf request.query)

def reply? (web : List (String × Reply)) (address : List Char) : Option Reply :=
  match read? [] (Text.lowerChars address) with
  | none => none
  | some request =>
      (web.reverse.find? fun entry =>
        (read? [] entry.1.toList).any fun kept => answers kept request).map (·.2)

end SetupForge.Download
