import SetupForge.Address.Authority

/-! # The form in which an address is requested

Before a request an address takes a normal form: dot names of its path are worked off, its host
is normal, and characters that may not stand in it are escaped. Addresses of other schemes than
those of the web are requested as they are.
-/

namespace SetupForge.Address

open Text

/-- The names of a path without dots, and with every `..` taking away the name before it. -/
def settleNames (names : List (List Char)) : List (List Char) :=
  names.foldl (fun kept name =>
    if name = ['.'] then kept
    else if name = ['.', '.'] then kept.dropLast
    else kept ++ [name]) []

def endsInDots (path : List Char) : Bool :=
  "/.".toList.isSuffixOf path || "/..".toList.isSuffixOf path

def settlePath (path : List Char) : List Char :=
  let names := settleNames (splitOn '/' path)
  let names :=
    match path.head?, names with
    | some '/', [] => [[]]
    | some '/', (c :: name) :: rest => [] :: (c :: name) :: rest
    | _, names => names
  joinWith '/' (if endsInDots path then names ++ [[]] else names)

def webStart : List Char := "http".toList

def webSchemes : List (List Char) := ["http".toList, "https".toList]

/-- Whether an address starts with a scheme, which has no dot here, or with a slash. Any other
starts with its authority. -/
def startsWithScheme (text : List Char) : Bool :=
  let (scheme, _) := cutScheme text
  text.head? == some '/' || (!scheme.isEmpty && !scheme.contains '.')

def endsHost (c : Char) : Bool := endsAuthority c || c = '\\'

def rooted (path : List Char) : List Char := if path.head? == some '/' then path else '/' :: path

def normalWeb (text : List Char) : Except Fault (List Char) := do
  let source := if startsWithScheme text then text else '/' :: '/' :: text
  let address := divide endsHost source
  let isWeb := address.scheme.isEmpty || webSchemes.contains address.scheme
  let (user, hostPort) := cutUser address.authority
  let { host, port } ← readHostPort source hostPort
  requirePlain host
  let host ← if isWeb then normalHost host else .ok host
  if address.scheme.isEmpty then throw (.schemeMissing (String.ofList text))
  if host.isEmpty then throw (.hostMissing (String.ofList text))
  let host ← requestedHost host
  let normal (test : Char → Bool) (part : List Char) : List Char :=
    if isWeb then escape test part else part
  return requote (toChars {
    scheme := address.scheme
    authority := authorityText (normal isUserChar user) host port
    path := rooted (normal isPathChar (if isWeb then settlePath address.path else address.path))
    query := normal isQueryChar address.query
    fragment := normal isQueryChar address.fragment })

def normal (text : String) : Except Fault (List Char) :=
  let text := dropBlanks text.toList
  if text.contains ':' && !webStart.isPrefixOf (lowerChars text) then .ok text
  else normalWeb text

end SetupForge.Address
