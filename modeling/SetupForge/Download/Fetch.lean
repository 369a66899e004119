import SetupForge.Address.Login
import SetupForge.Address.Resolve
import SetupForge.Download.Coding
import SetupForge.Download.Server

/-! # Requests

A request is answered by the server of its address. Redirections are followed, a limited
number of times, and answers that report an error count as failures.
-/

namespace SetupForge.Download

/-- An answer whose head was received. -/
structure Response where
  /-- Where the answer came from, after all redirections. -/
  address : List Char
  status : Nat
  reason : Option String
  headers : List (String × String)
  /-- The body, or why reading it fails. -/
  body : Except String Bytes
  /-- The part of the body that comes, without its codings, before reading fails. -/
  received : Bytes := []

namespace Response

/-- The value of a header; case does not matter, and several values have commas between them. -/
def header? (response : Response) (name : String) : Option String :=
  match response.headers.filter fun entry => Text.lower entry.1 == Text.lower name with
  | [] => none
  | entries => some (", ".intercalate (entries.map (·.2)))

def reasonText (response : Response) : String := response.reason.getD "None"

def redirections : List Nat := [301, 302, 303, 307, 308]

/-- A text that was sent as bytes, each of which was read as one character. -/
def sentText (text : List Char) : Except Failure (List Char) :=
  if text.all fun c => c.toNat < 0x100 then
    match Utf8.decode? (text.map fun c => UInt8.ofNat c.toNat) with
    | some text => .ok text
    | none => .error .notUtf8
  else .error .unencodable

def location? (response : Response) : Except Failure (Option (List Char)) :=
  if response.status ∈ redirections then
    match response.header? "Location" with
    | none => .ok none
    | some location => do
        let location ← sentText location.toList
        pure (if location.isEmpty then none else some location)
  else .ok none

def isChunked (response : Response) : Bool :=
  let header := Text.lowerChars ((response.header? "Transfer-Encoding").getD "").toList
  (Text.splitOn ',' header).any fun coding => Text.trimChars coding = "chunked".toList

/-- Whether a response tells several lengths that differ. What is no number does not count, and
nor do lengths of a response in pieces. -/
def contradictsLength (response : Response) : Bool :=
  match response.header? "Content-Length" with
  | none => false
  | some header =>
      let lengths? := (Text.splitOn ',' header.toList).mapM fun text =>
        Text.integer? (String.ofList text)
      match lengths? with
      | some (length :: lengths) => !response.isChunked && lengths.any (· != length)
      | _ => false

def statusError? (response : Response) : Option String :=
  let text (kind : String) : Option String :=
    some (s!"{response.status} {kind} Error: {response.reasonText} for url: " ++
      String.ofList response.address)
  if 400 ≤ response.status ∧ response.status < 500 then text "Client"
  else if 500 ≤ response.status ∧ response.status < 600 then text "Server"
  else none

def decoded (response : Response) : Except String Bytes :=
  match response.body with
  | .ok body => decodeBody ((response.header? "Content-Encoding").getD "") body
  | .error reason => .error reason

end Response

def unreachable : String := "unreachable"

def answer (web : List (String × Reply)) (address : List Char) : Except String Response :=
  match reply? web address with
  | none => .error unreachable
  | some (.failure reason) => .error reason
  | some (.interrupted problem status reason headers received) =>
      .ok { address, status, reason, headers, body := .error problem, received }
  | some (.response status reason headers body) =>
      .ok { address, status, reason, headers, body := .ok body }

structure Request where
  address : List Char
  /-- The fragment for addresses that come without one. -/
  fragment : List Char := []
  /-- Whether a name and a password are sent along. -/
  logsIn : Bool := false
deriving DecidableEq, Repr

namespace Request

def target (request : Request) : Except Failure Address :=
  match Address.read? [] request.address with
  | some address => .ok address
  | none => .error .unreadableAddress

/-- The first request for an address. A login has to be sendable. -/
def first (address : List Char) : Except Failure Request := do
  let target ← target { address }
  match target.login? with
  | none => pure { address, fragment := target.fragment }
  | some login =>
      if Address.isSendable login then
        pure { address, fragment := target.fragment, logsIn := true }
      else .error .unencodable

def next (request : Request) (location : List Char) : Except Failure Request :=
  match Address.redirect? request.address request.fragment location with
  | none => .error .unreadableAddress
  | some (address, fragment) => do
      let old ← request.target
      let new ← target { address }
      if request.logsIn then
        match Address.keepsLogin? old new with
        | some logsIn => pure { address, fragment, logsIn }
        | none => .error .unreadableAddress
      else pure { address, fragment }

def following? (request : Request) (response : Response) : Except Failure (Option Request) := do
  if response.contradictsLength then throw .contradictoryLength
  match ← response.location? with
  | none => pure none
  | some location => return some (← request.next location)

end Request

def maxRedirections : Nat := 30

inductive Turn where
  | ends (result : Except Failure (Except String Response))
  | redirects (next : Request)

-- kept folded, since unfolding would go down to the tables of letters
@[irreducible] def turn (web : List (String × Reply)) (request : Request) : Turn :=
  match answer web request.address with
  | .error reason => .ends (.ok (.error reason))
  | .ok response =>
      match request.following? response with
      | .error failure => .ends (.error failure)
      | .ok none => .ends (.ok (.ok response))
      | .ok (some next) => .redirects next

/-- Sends a request and follows at most `fuel` redirections; also gives the addresses that were
requested. -/
def fetchFuel (web : List (String × Reply)) :
    Nat → Request → Except Failure (Except String Response) × List (List Char)
  | 0, request =>
      match turn web request with
      | .ends result => (result, [request.address])
      | .redirects _ =>
          (.ok (.error s!"Exceeded {maxRedirections} redirects."), [request.address])
  | fuel + 1, request =>
      match turn web request with
      | .ends result => (result, [request.address])
      | .redirects next =>
          let (result, more) := fetchFuel web fuel next
          (result, request.address :: more)

/-- A result in which an answer that reports an error is a failure. -/
def checked (result : Except String Response) : Except String Response :=
  match result with
  | .error reason => .error reason
  | .ok response =>
      match response.statusError? with
      | some reason => .error reason
      | none => .ok response

def fetch (url : String) : Job (Except String Response) := do
  match Address.normal url with
  | .error fault => pure (.error fault.message)
  | .ok address => do
      let request ← (Request.first address : Except Failure Request)
      let host ← get
      let (result, requested) := fetchFuel host.web maxRedirections request
      set { host with requested := host.requested ++ requested.map String.ofList }
      match result with
      | .error failure => Job.fail failure
      | .ok result => pure (checked result)

theorem statusError?_eq_none_of_checked {result : Except String Response} {response : Response}
    (h : checked result = .ok response) : response.statusError? = none := by
  unfold checked at h
  split at h
  · simp at h
  · split at h
    · simp at h
    · simp_all

end SetupForge.Download
