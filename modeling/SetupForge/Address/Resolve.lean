import SetupForge.Address.Normal

/-! # Addresses that lead to others

An address can be relative to the one where it is found. A redirection goes to such an address,
and keeps the fragment of the address before unless it has its own.
-/

namespace SetupForge.Address

open Text

/-- The schemes whose addresses can be relative to others. -/
def relativeSchemes : List String := [
  "", "ftp", "http", "gopher", "nntp", "imap", "wais", "file", "https", "shttp", "mms", "prospero",
  "rtsp", "rtsps", "rtspu", "sftp", "svn", "svn+ssh", "ws", "wss"]

def folderNames (path : List Char) : List (List Char) :=
  let names := splitOn '/' path
  if names.getLast? == some [] then names else names.dropLast

def withoutEmptyInner : List (List Char) → List (List Char)
  | [] => []
  | first :: rest =>
      first :: (rest.dropLast.filter fun name => !name.isEmpty) ++ rest.getLast?.toList

def resolvePath (base path : List Char) : List Char :=
  let names :=
    if path.head? == some '/' then splitOn '/' path
    else withoutEmptyInner (folderNames base ++ splitOn '/' path)
  let settled := settleNames names
  let last := names.getLast?.getD []
  let settled := if last = ['.'] ∨ last = ['.', '.'] then settled ++ [[]] else settled
  let resolved := joinWith '/' settled
  if resolved.isEmpty then ['/'] else resolved

def resolve (base address : Address) : Address :=
  if !address.authority.isEmpty then address
  else
    let address := { address with authority := base.authority }
    if address.path.isEmpty && address.parameters.isEmpty then
      { address with
        path := base.path
        parameters := base.parameters
        query := if address.query.isEmpty then base.query else address.query }
    else { address with path := resolvePath base.path address.path }

def resolveText? (base text : List Char) : Option (List Char) :=
  if text.isEmpty then some base
  else do
    let base ← read? [] base
    let address ← read? base.scheme text
    pure (if address.scheme = base.scheme ∧ String.ofList address.scheme ∈ relativeSchemes then
      (resolve base address).toChars
    else text)

/-- The address that a redirection leads to, and the fragment of it, which is the one before unless
the redirection has its own. -/
def redirect? (current fragment location : List Char) : Option (List Char × List Char) := do
  let base ← read? [] current
  let location :=
    if ['/', '/'].isPrefixOf location then base.scheme ++ ':' :: location else location
  let target ← read? [] location
  let fragment := if target.fragment.isEmpty then fragment else target.fragment
  let text := requote { target with fragment }.toChars
  let address ← if target.authority.isEmpty then resolveText? current text else some text
  pure (address, fragment)

end SetupForge.Address
