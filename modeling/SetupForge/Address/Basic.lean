import SetupForge.Address.Host
import SetupForge.Path

/-! # Web addresses

An address has a scheme, an authority, a path, parameters of the path's last name, a query and
a fragment. What stands between two marks is empty if the marks are missing.
-/

namespace SetupForge

structure Address where
  scheme : List Char := []
  authority : List Char := []
  path : List Char := []
  parameters : List Char := []
  query : List Char := []
  fragment : List Char := []
deriving DecidableEq, Repr

namespace Address

/-! ## Taking apart -/

def isSchemeChar (c : Char) : Bool := c.isAlphanum || c = '+' || c = '-' || c = '.'

def cutScheme (text : List Char) : List Char × List Char :=
  let scheme := text.takeWhile (· ≠ ':')
  match text.dropWhile (· ≠ ':') with
  | _ :: rest =>
      if scheme.head?.any Char.isAlpha && scheme.all isSchemeChar then
        (scheme.map Char.toLower, rest)
      else ([], text)
  | [] => ([], text)

def cutMark (mark : Char) (text : List Char) : List Char × List Char :=
  (text.takeWhile (· ≠ mark), (text.dropWhile (· ≠ mark)).drop 1)

def endsAuthority (c : Char) : Bool := c = '/' || c = '?' || c = '#'

/-- The parts of an address whose authority ends before a character of some class. Parameters
stay in the path. -/
def divide (isEnd : Char → Bool) (text : List Char) : Address :=
  let (scheme, rest) := cutScheme text
  let (authority, rest) : List Char × List Char :=
    match rest with
    | '/' :: '/' :: rest =>
        (rest.takeWhile fun c => !isEnd c, rest.dropWhile fun c => !isEnd c)
    | rest => ([], rest)
  let (rest, fragment) := cutMark '#' rest
  let (path, query) := cutMark '?' rest
  { scheme, authority, path, query, fragment }

/-- An address without the characters that do not count: blanks and controls at its start, and
tabs and line ends. -/
def cleaned (text : List Char) : List Char :=
  (text.dropWhile fun c => c ≤ ' ').filter fun c => c ≠ '\t' ∧ c ≠ '\n' ∧ c ≠ '\r'

/-- Characters that stand for others, among them one that ends an authority or divides it. -/
def hiddenMarks : List Nat := [
  0x2047, 0x2048, 0x2049, 0x2100, 0x2101, 0x2105, 0x2106, 0x2a74, 0xfe13, 0xfe16, 0xfe55, 0xfe56,
  0xfe5f, 0xfe6b, 0xff03, 0xff0f, 0xff1a, 0xff1f, 0xff20]

/-- Whether an authority can be read: its brackets stand around an address, and it holds no
hidden marks. -/
def isReadable (authority : List Char) : Bool :=
  let opens := authority.contains '['
  let bracketed := ((authority.dropWhile (· ≠ '[')).drop 1).takeWhile (· ≠ ']')
  (opens == authority.contains ']') && (!opens || isMeaningful bracketed) &&
    authority.all fun c => !hiddenMarks.contains c.toNat

/-- The schemes in whose paths a semicolon starts parameters. -/
def parameterSchemes : List String := [
  "", "ftp", "hdl", "prospero", "http", "imap", "https", "shttp", "rtsp", "rtsps", "rtspu", "sip",
  "sips", "mms", "sftp", "tel"]

def cutParameters (path : List Char) : List Char × List Char :=
  let name := (path.reverse.takeWhile (· ≠ '/')).reverse
  let (bare, parameters) := cutMark ';' name
  (path.take (path.length - name.length) ++ bare, parameters)

/-- The parts of an address, of which one without a scheme gets the given one. Nothing is read if
the authority has no meaning. -/
def read? (scheme text : List Char) : Option Address :=
  let address := divide endsAuthority (cleaned text)
  let address := if address.scheme.isEmpty then { address with scheme } else address
  if !isReadable address.authority then none
  else if String.ofList address.scheme ∈ parameterSchemes then
    let (path, parameters) := cutParameters address.path
    some { address with path, parameters }
  else some address

/-! ## Putting together -/

/-- The schemes whose addresses have an authority, be it empty. -/
def authoritySchemes : List String := [
  "ftp", "http", "gopher", "nntp", "telnet", "imap", "wais", "file", "mms", "https", "shttp",
  "snews", "prospero", "rtsp", "rtsps", "rtspu", "rsync", "svn", "svn+ssh", "sftp", "nfs", "git",
  "git+ssh", "ws", "wss"]

/-- A part after its mark; an empty part is left out with its mark. -/
def marked (mark : Char) (part : List Char) : List Char :=
  if part.isEmpty then [] else mark :: part

def toChars (address : Address) : List Char :=
  let path := address.path ++ marked ';' address.parameters
  let hasAuthority :=
    !address.authority.isEmpty ||
      (String.ofList address.scheme ∈ authoritySchemes && !(['/', '/'].isPrefixOf path))
  let body :=
    if hasAuthority then
      '/' :: '/' :: address.authority ++
        (if path.isEmpty || path.head? == some '/' then path else '/' :: path)
    else path
  (if address.scheme.isEmpty then [] else address.scheme ++ [':']) ++ body ++
    marked '?' address.query ++ marked '#' address.fragment

/-! ## The file that an address names -/

def unnamedFile : String := "download.bin"

def fileName (address : Address) : String :=
  let name := (Path.ofString (String.ofList address.path)).fileName
  if name.isEmpty then unnamedFile else name

def fileName? (text : String) : Option String := (read? [] text.toList).map fileName

end Address

end SetupForge
