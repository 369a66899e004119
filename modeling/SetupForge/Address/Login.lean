import SetupForge.Address.Authority

/-! # Logins

The user of an authority can be a name with a password, which are sent along. When an address
leads to another, they are sent again to the same host only, and by the same way.
-/

namespace SetupForge.Address

open Text

/-- The name and the password of an address, if it has both and one of them is not empty. -/
def login? (address : Address) : Option (List Char × List Char) :=
  let (user, _) := cutUser address.authority
  let (name, password) := cutMark ':' user
  let login := (plain name, plain password)
  if user.contains ':' && login ≠ ([], []) then some login else none

/-- Whether a login can be sent, which takes one byte for each character. -/
def isSendable (login : List Char × List Char) : Bool :=
  (login.1 ++ login.2).all fun c => c.toNat < 0x100

def hostAndPort (address : Address) : List Char × List Char :=
  let (_, text) := cutUser address.authority
  match text.dropWhile (· ≠ '[') with
  | _ :: bracketed =>
      let (host, after) := cutMark ']' bracketed
      (host, (cutMark ':' after).2)
  | [] => cutMark ':' text

def hostText (address : Address) : List Char :=
  let (host, _) := hostAndPort address
  lowerChars (host.takeWhile (· ≠ '%')) ++ host.dropWhile (· ≠ '%')

def port? (address : Address) : Option (Option Nat) :=
  let (_, digits) := hostAndPort address
  if digits.isEmpty then some none
  else if digits.all Char.isDigit then
    let port := ofDigits 10 (digits.filterMap asciiDigit?)
    if port ≤ lastPort then some (some port) else none
  else none

def usualPort? (scheme : List Char) : Option Nat :=
  if scheme = "http".toList then some 80
  else if scheme = "https".toList then some 443
  else none

def isUsual (scheme : List Char) (port : Option Nat) : Bool :=
  port.isNone || port == usualPort? scheme

/-- Whether a login goes along from an address to another: to the same host and port by the same
scheme, or by the secure one. Nothing is told if a port cannot be read. -/
def keepsLogin? (current next : Address) : Option Bool :=
  if hostText current ≠ hostText next then some false
  else do
    let old ← port? current
    let new ← port? next
    let isUsualBoth := isUsual current.scheme old && isUsual next.scheme new
    let isSame := current.scheme = next.scheme
    let isSecured := current.scheme = "http".toList ∧ next.scheme = "https".toList
    pure (isUsualBoth && (isSame || isSecured) || (isSame && old == new))

end SetupForge.Address
