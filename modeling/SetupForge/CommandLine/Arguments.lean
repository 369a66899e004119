import SetupForge.CommandLine.Grammar
import SetupForge.Text.Quoted
import SetupForge.Text.Search

/-! # Reading arguments

Arguments are told apart first: a separator, an option, or anything else. A long option may
be cut short as long as one option only begins that way, and may carry its value after an
equals sign; short options may be joined. Then the arguments are taken from left to right.
-/

namespace SetupForge.CommandLine

inductive Complaint where
  | missing (names : List String)
  | unrecognized (arguments : List String)
  | valueExpected (switch : Switch)
  | valueRefused (switch : Switch) (value : String)
  | valueIgnored (switch : Switch) (value : String)
  | ambiguous (argument : String) (candidates : List String)
  | unknownCommand (word : String)
deriving DecidableEq, Repr

def Complaint.message : Complaint → String
  | .missing names =>
      let list := ", ".intercalate names
      s!"the following arguments are required: {list}"
  | .unrecognized arguments =>
      let list := " ".intercalate arguments
      s!"unrecognized arguments: {list}"
  | .valueExpected switch => s!"argument {switch.title}: expected one argument"
  | .valueRefused switch value =>
      s!"argument {switch.title}: invalid int value: {Text.quoted value}"
  | .valueIgnored switch value =>
      s!"argument {switch.title}: ignored explicit argument {Text.quoted value}"
  | .ambiguous argument candidates =>
      let list := ", ".intercalate candidates
      s!"ambiguous option: {argument} could match {list}"
  | .unknownCommand word =>
      let list := ", ".intercalate (Verb.all.map fun verb => Text.quoted verb.name)
      s!"argument command: invalid choice: {Text.quoted word} (choose from {list})"

inductive Stop where
  | explained (grammar : Grammar)
  | versionAsked
  | refused (grammar : Grammar) (complaint : Complaint)
deriving DecidableEq, Repr

inductive Role where
  | plain
  | separator
  | stranger
  /-- An option, with what is written in one argument with it. -/
  | switch (switch : Switch) (isShort : Bool) (joined : Option (List Char))
deriving DecidableEq, Repr

structure Word where
  text : String
  role : Role
deriving DecidableEq, Repr

namespace Word

def isNegativeNumber (text : List Char) : Bool :=
  let body := if text.getLast? = some '\n' then text.dropLast else text
  match body with
  | '-' :: digits =>
      let whole := digits.takeWhile fun c => (Text.digit? c).isSome
      match digits.dropWhile fun c => (Text.digit? c).isSome with
      | [] => !whole.isEmpty
      | '.' :: fraction => !fraction.isEmpty && fraction.all fun c => (Text.digit? c).isSome
      | _ => false
  | _ => false

def splitEquals (text : List Char) : List Char × Option (List Char) :=
  match Text.cut? ['='] text with
  | some (name, value) => (name, some value)
  | none => (text, none)

/-- The long options that begin with a text. -/
def completions (grammar : Grammar) (start : List Char) : List (String × Switch) :=
  grammar.spelled.filter fun (spelling, _) => start.isPrefixOf spelling.toList

/-- What an argument is that starts with a dash and spells no option, and how it could be read
as one. -/
def candidates (grammar : Grammar) (text : List Char) : List (String × Role) :=
  match text with
  | '-' :: '-' :: _ =>
      let (start, joined) := splitEquals text
      (completions grammar start).map fun (spelling, switch) =>
        (spelling, .switch switch false joined)
  | '-' :: c :: rest =>
      let spelling := String.ofList ['-', c]
      match grammar.switch? spelling with
      | some switch => [(spelling, .switch switch true (some rest))]
      | none => []
  | _ => []

def isShortSpelling (spelling : List Char) : Bool := spelling[1]? != some '-'

def dashedRole (grammar : Grammar) (text : String) : Except Stop Role :=
  let (start, joined) := splitEquals text.toList
  match grammar.switch? text, joined.bind fun _ => grammar.switch? (String.ofList start) with
  | some switch, _ => .ok (.switch switch (isShortSpelling text.toList) none)
  | none, some switch => .ok (.switch switch (isShortSpelling start) joined)
  | none, none =>
      match candidates grammar text.toList with
      | [(_, role)] => .ok role
      | [] =>
          if text.length ≤ 1 || isNegativeNumber text.toList || ' ' ∈ text.toList then .ok .plain
          else .ok .stranger
      | several => .error (.refused grammar (.ambiguous text (several.map (·.1))))

def roleOf (grammar : Grammar) (text : String) : Except Stop Role :=
  match text.toList with
  | '-' :: _ => dashedRole grammar text
  | _ => .ok .plain

/-- Tells arguments apart; after a separator nothing is an option. -/
def classify (grammar : Grammar) : List String → Except Stop (List Word)
  | [] => .ok []
  | text :: rest =>
      if text = "--" then .ok (⟨text, .separator⟩ :: rest.map fun later => ⟨later, .plain⟩)
      else do
        let role ← roleOf grammar text
        return ⟨text, role⟩ :: (← classify grammar rest)

end Word

structure Arguments where
  /-- Options with their values, in order; one without a value has an empty text. -/
  given : List (Switch × String) := []
  /-- The operand and whatever it takes along. -/
  operand : List String := []
  extra : List String := []
deriving DecidableEq, Repr

namespace Arguments

def has (found : Arguments) (switch : Switch) : Bool := found.given.any (·.1 == switch)

def value? (found : Arguments) (switch : Switch) : Option String :=
  found.given.reverse.lookup switch

/-- Takes an option; some end the reading. -/
def take (grammar : Grammar) (found : Arguments) (switch : Switch) (value : String) :
    Except Stop Arguments :=
  match switch with
  | .help => .error (.explained grammar)
  | .version => .error .versionAsked
  | _ =>
      if switch.admits value then .ok { found with given := found.given ++ [(switch, value)] }
      else .error (.refused grammar (.valueRefused switch value))

def takeAll (grammar : Grammar) (found : Arguments) : List Switch → Except Stop Arguments
  | [] => .ok found
  | switch :: rest => do takeAll grammar (← take grammar found switch "") rest

def short? (grammar : Grammar) (c : Char) : Option Switch :=
  grammar.switch? (String.ofList ['-', c])

/-- Splits short options that are joined behind one; none of them takes a value. -/
def splitShort (grammar : Grammar) (switch : Switch) : List Char → Except Stop (List Switch)
  | [] => .error (.refused grammar (.valueIgnored switch ""))
  | c :: rest =>
      match short? grammar c with
      | none => .error (.refused grammar (.valueIgnored switch (String.ofList (c :: rest))))
      | some next =>
          if rest.isEmpty then .ok [switch, next]
          else (splitShort grammar next rest).map (switch :: ·)

/-- Takes an option that is written in one argument with a value or with other options. -/
def takeJoined (grammar : Grammar) (found : Arguments) (switch : Switch) (isShort : Bool)
    (joined : List Char) : Except Stop Arguments :=
  if switch.takesValue then take grammar found switch (String.ofList joined)
  else if isShort then do takeAll grammar found (← splitShort grammar switch joined)
  else .error (.refused grammar (.valueIgnored switch (String.ofList joined)))

def lacksOperand (grammar : Grammar) (found : Arguments) : Bool :=
  grammar.operand.name?.isSome && found.operand.isEmpty

def setAside (found : Arguments) (text : String) : Arguments :=
  { found with extra := found.extra ++ [text] }

def takeWords (grammar : Grammar) : List Word → Arguments → Except Stop Arguments
  | [], found => .ok found
  | ⟨text, .plain⟩ :: rest, found =>
      if lacksOperand grammar found then
        match grammar.operand, rest with
        | .leading _, rest => .ok { found with operand := text :: rest.map (·.text) }
        | _, ⟨_, .separator⟩ :: rest => takeWords grammar rest { found with operand := [text] }
        | _, rest => takeWords grammar rest { found with operand := [text] }
      else takeWords grammar rest (found.setAside text)
  | ⟨text, .separator⟩ :: rest, found =>
      if lacksOperand grammar found then
        match grammar.operand, rest with
        | .leading _, ⟨next, .plain⟩ :: rest =>
            .ok { found with operand := text :: next :: rest.map (·.text) }
        | _, ⟨next, .plain⟩ :: rest => takeWords grammar rest { found with operand := [next] }
        | _, rest => takeWords grammar rest (found.setAside text)
      else takeWords grammar rest (found.setAside text)
  | ⟨text, .stranger⟩ :: rest, found => takeWords grammar rest (found.setAside text)
  | ⟨_, .switch switch isShort (some joined)⟩ :: rest, found => do
      takeWords grammar rest (← takeJoined grammar found switch isShort joined)
  | ⟨_, .switch switch _ none⟩ :: rest, found => do
      if switch.takesValue then
        match rest with
        | ⟨value, .plain⟩ :: rest => takeWords grammar rest (← take grammar found switch value)
        | _ => .error (.refused grammar (.valueExpected switch))
      else takeWords grammar rest (← take grammar found switch "")

def missing (grammar : Grammar) (found : Arguments) : List String :=
  (if lacksOperand grammar found then grammar.operand.name?.toList else []) ++
    (grammar.switches.filter fun switch => switch.isRequired && !found.has switch).map (·.title)

def read (grammar : Grammar) (texts : List String) : Except Stop Arguments := do
  let found ← takeWords grammar (← Word.classify grammar texts) {}
  match missing grammar found with
  | [] => .ok found
  | names => .error (.refused grammar (.missing names))

end Arguments

end SetupForge.CommandLine
