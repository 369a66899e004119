import SetupForge.Address.Basic
import SetupForge.Address.Label

/-! # Authorities

An authority names a host, with a user before an at sign and a port after a colon. Before a
request the host takes its normal form: labels and addresses in lowercase, and labels in ASCII
characters.
-/

namespace SetupForge.Address

open Text

inductive Fault where
  | schemeMissing (address : String)
  | hostMissing (address : String)
  | malformedHost (text : String)
  | portTooGreat (address : String)
  | hostChar (host : String) (c : Char)
  | malformedLabel (label : String)
  /-- A host that starts with a dot or a star, or that no rule for labels allows. -/
  | forbiddenHost
deriving DecidableEq, Repr

def Fault.message : Fault → String
  | .schemeMissing address =>
      s!"Invalid URL {quoted address}: No scheme supplied. " ++
        s!"Perhaps you meant https://{address}?"
  | .hostMissing address => s!"Invalid URL {quoted address}: No host supplied"
  | .malformedHost text => s!"Failed to parse: {quoted text} is not a valid host or port"
  | .portTooGreat address => s!"Failed to parse: {address}"
  | .hostChar host c =>
      s!"Failed to parse: Host {quoted host} contains invalid character " ++
        quoted (String.singleton c)
  | .malformedLabel label => s!"Failed to parse: Name '{label}' is not a valid IDNA label"
  | .forbiddenHost => "URL has an invalid label."

structure HostPort where
  host : List Char
  /-- Nothing stands for the usual port of the scheme. -/
  port : Option Nat := none
deriving DecidableEq, Repr

/-- Divides an authority at its last at sign. -/
def cutUser (authority : List Char) : List Char × List Char :=
  let host := (authority.reverse.takeWhile (· ≠ '@')).reverse
  ((authority.take (authority.length - host.length)).dropLast, host)

/-- Whether a text can name a host: escapes have to be complete, and no mark divides it. -/
def isHostName : List Char → Bool
  | [] => true
  | '%' :: a :: b :: text => (escaped? a b).isSome && isHostName text
  | c :: text => !"[]%:/?#".toList.contains c && isHostName text

/-- Divides a host and what follows it. A host in brackets may hold colons. -/
def cutHost? (text : List Char) : Option (List Char × List Char) :=
  match text with
  | '[' :: rest =>
      let inner := rest.takeWhile (· ≠ ']')
      match rest.dropWhile (· ≠ ']') with
      | _ :: after => if isBracketed inner then some ('[' :: inner ++ [']'], after) else none
      | [] => none
  | _ =>
      let host := text.takeWhile (· ≠ ':')
      if isHostName host then some (host, text.dropWhile (· ≠ ':')) else none

/-- The digits of a port with the colon before them; a line end after them does not count. -/
def portDigits? (text : List Char) : Option (List Char) :=
  let text := if text.getLast? == some '\n' then text.dropLast else text
  match text with
  | [] => some []
  | ':' :: digits => if digits.length ≤ 5 && digits.all Char.isDigit then some digits else none
  | _ => none

def lastPort : Nat := 65535

def readHostPort (source text : List Char) : Except Fault HostPort :=
  match (cutHost? text).bind fun (host, after) => (portDigits? after).map (host, ·) with
  | none => .error (.malformedHost (String.ofList text))
  | some (host, digits) =>
      let port := ofDigits 10 (digits.filterMap asciiDigit?)
      if port > lastPort then .error (.portTooGreat (String.ofList source))
      else .ok { host, port := if digits.isEmpty then none else some port }

def isControl (c : Char) : Bool := c ≤ ' ' || c = '\x7f'

def joinWith (mark : Char) : List (List Char) → List Char
  | [] => []
  | [text] => text
  | text :: texts => text ++ mark :: joinWith mark texts

def normalLabels (host : List Char) : Except Fault (List Char) := do
  let labels ← (splitOn '.' host).mapM fun label =>
    match labelText? label with
    | some text => .ok text
    | none => .error (.malformedLabel (String.ofList label))
  return joinWith '.' labels

def normalHost (host : List Char) : Except Fault (List Char) :=
  match host with
  | '[' :: rest => .ok ('[' :: normalBracketed rest.dropLast ++ [']'])
  | _ => if looksIpv4 host then .ok host else normalLabels host

def requirePlain (host : List Char) : Except Fault Unit :=
  match host.find? isControl with
  | some c => .error (.hostChar (String.ofList host) c)
  | none => .ok ()

/-- The host as it is requested: labels in ASCII characters. One that starts with a dot or a star
is refused. -/
def requestedHost (host : List Char) : Except Fault (List Char) :=
  if host.all fun c => c.toNat < 0x80 then
    if host.head? == some '.' || host.head? == some '*' then .error .forbiddenHost else .ok host
  else (normalLabels host).mapError fun _ => .forbiddenHost

/-- The text of an authority. A port that is zero is left out. -/
def authorityText (user host : List Char) (port : Option Nat) : List Char :=
  let port :=
    match port with
    | none | some 0 => []
    | some port => ':' :: s!"{port}".toList
  (if user.isEmpty then [] else user ++ ['@']) ++ host ++ port

end SetupForge.Address
