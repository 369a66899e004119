import SetupForge.Host
import SetupForge.Text.Blank
import SetupForge.Text.LetterCase
import SetupForge.Text.Search

/-! # Files of variables

A file beside the settings can define variables, one statement a line: an optional `export`,
a key, and a value that may be quoted. Values can refer to variables in braces. Statements
that cannot be read are left out.
-/

namespace SetupForge.EnvFile

open Text

/-- A key, and its value if the statement gives one. -/
abbrev Binding := String × Option String

def endsLine (c : Char) : Bool := c = '\n' || c = '\r'

def isGap (c : Char) : Bool := isBlankChar c && !endsLine c

def dropGap (text : List Char) : List Char := text.dropWhile isGap

def dropExport (text : List Char) : List Char :=
  let word := "export".toList
  let rest := text.drop word.length
  if word.isPrefixOf text && (rest.head?.map isGap).getD false then dropGap rest else text

/-- Reads a key; a comment has none. A failure gives the text from which no key could be read. -/
def readKey (text : List Char) : Except (List Char) (Option String × List Char) :=
  match text with
  | '#' :: _ => .ok (none, text)
  | '\'' :: rest =>
      let key := rest.takeWhile (· ≠ '\'')
      match rest.dropWhile (· ≠ '\'') with
      | _ :: after => if key.isEmpty then .error text else .ok (some (String.ofList key), after)
      | [] => .error text
  | _ =>
      let inKey (c : Char) : Bool := c ≠ '=' && c ≠ '#' && !isBlankChar c
      let key := text.takeWhile inKey
      if key.isEmpty then .error text
      else .ok (some (String.ofList key), text.dropWhile inKey)

/-- Cuts a quoted value, without its opening quote, at its closing quote. A backslash takes the
character after it into the value. -/
def cutQuoted? (quote : Char) : List Char → Option (List Char × List Char)
  | [] => none
  | [c] => if c = quote then some ([], []) else none
  | c :: d :: text =>
      if c = quote then some ([], d :: text)
      else if c = '\\' then
        (cutQuoted? quote text).map fun (value, rest) => (c :: d :: value, rest)
      else (cutQuoted? quote (d :: text)).map fun (value, rest) => (c :: value, rest)

def singleEscape? : Char → Option Char
  | '\\' => some '\\'
  | '\'' => some '\''
  | _ => none

def doubleEscape? : Char → Option Char
  | '\\' => some '\\'
  | '\'' => some '\''
  | '"' => some '"'
  | 'a' => some '\x07'
  | 'b' => some '\x08'
  | 'f' => some '\x0c'
  | 'n' => some '\n'
  | 'r' => some '\r'
  | 't' => some '\t'
  | 'v' => some '\x0b'
  | _ => none

/-- Reads the escapes of a quoted value; a backslash before anything else stands for itself. -/
def unescape (escape? : Char → Option Char) : List Char → List Char
  | '\\' :: c :: text =>
      match escape? c with
      | some meant => meant :: unescape escape? text
      | none => '\\' :: unescape escape? (c :: text)
  | c :: text => c :: unescape escape? text
  | [] => []

def startsComment (text : List Char) : Bool :=
  match text with
  | c :: _ => isBlankChar c && (dropBlanks text).head? == some '#'
  | [] => false

def beforeComment : List Char → List Char
  | [] => []
  | c :: text => if startsComment (c :: text) then [] else c :: beforeComment text

/-- Reads a value and the blanks before it. Without quotes it goes up to the end of the line or a
comment. A failure gives the text from which no value could be read. -/
def readValue (text : List Char) : Except (List Char) (String × List Char) :=
  let start := dropGap text
  let quotedWith (quote : Char) (escape? : Char → Option Char) (rest : List Char) :
      Except (List Char) (String × List Char) :=
    match cutQuoted? quote rest with
    | some (value, rest) => .ok (String.ofList (unescape escape? value), rest)
    | none => .error start
  match start with
  | '\'' :: rest => quotedWith '\'' singleEscape? rest
  | '"' :: rest => quotedWith '"' doubleEscape? rest
  | _ =>
      let line := text.takeWhile fun c => !endsLine c
      .ok (String.ofList (trimChars (beforeComment line)), text.dropWhile fun c => !endsLine c)

def dropLine (text : List Char) : List Char :=
  (text.dropWhile fun c => !endsLine c).drop 1

/-- The text after a comment and the end of the line, if nothing else stands there. -/
def dropLineEnd (text : List Char) : Except (List Char) (List Char) :=
  let afterComment :=
    match dropGap text with
    | '#' :: rest => rest.dropWhile fun c => !endsLine c
    | _ => text
  match dropGap afterComment with
  | [] => .ok []
  | '\r' :: '\n' :: rest => .ok rest
  | c :: rest => if endsLine c then .ok rest else .error afterComment

def readAssigned (text : List Char) : Except (List Char) (Option String × List Char) :=
  match text with
  | '=' :: rest => (readValue rest).map fun (value, rest) => (some value, rest)
  | _ => .ok (none, text)

def readStatement (text : List Char) : Except (List Char) (Option Binding × List Char) := do
  let (key, rest) ← readKey (dropExport text)
  let (value, rest) ← readAssigned (dropGap rest)
  let rest ← dropLineEnd rest
  pure (key.map fun key => (key, value), rest)

def readFuel : Nat → List Char → List Binding
  | 0, _ => []
  | fuel + 1, text =>
      match dropBlanks text with
      | [] => []
      | text =>
          match readStatement text with
          | .ok (some binding, rest) => binding :: readFuel fuel rest
          | .ok (none, rest) => readFuel fuel rest
          | .error rest => readFuel fuel (dropLine rest)

def read (text : List Char) : List Binding := readFuel (text.length + 1) text

/-- A reference in braces at the start of a text: its name, its default, and what follows. -/
def reference? (text : List Char) : Option (List Char × List Char × List Char) :=
  match text with
  | '$' :: '\x7b' :: rest =>
      let inName (c : Char) : Bool := c ≠ '\x7d' && c ≠ ':'
      let name := rest.takeWhile inName
      match rest.dropWhile inName with
      | '\x7d' :: after => some (name, [], after)
      | ':' :: '-' :: rest =>
          match cut? ['\x7d'] rest with
          | some (default, after) => some (name, default, after)
          | none => none
      | _ => none
  | _ => none

def fillFuel (meaning : String → Option String) : Nat → List Char → List Char
  | 0, text => text
  | _ + 1, [] => []
  | fuel + 1, c :: text =>
      match reference? (c :: text) with
      | some (name, default, after) =>
          ((meaning (String.ofList name)).map String.toList).getD default ++
            fillFuel meaning fuel after
      | none => c :: fillFuel meaning fuel text

/-- Replaces the references of a value; variables of the environment come before earlier
bindings, and a key without a value means nothing. -/
def fill (environment : Environment) (earlier : List Binding) (value : String) : String :=
  let meaning (name : String) : Option String :=
    match environment.lookup name with
    | some value => some value
    | none => (earlier.lookup name).map (·.getD "")
  String.ofList (fillFuel meaning value.toList.length value.toList)

def put (binding : Binding) : List Binding → List Binding
  | [] => [binding]
  | other :: bindings =>
      if other.1 = binding.1 then binding :: bindings else other :: put binding bindings

/-- The bindings with their references replaced. Every key stands where it comes first and has
its last value. -/
def resolve (environment : Environment) (bindings : List Binding) : List Binding :=
  bindings.foldl (fun earlier (key, value) =>
    put (key, value.map (fill environment earlier)) earlier) []

/-- Whether an environment can hold a variable: its name has no equals sign, and neither it nor
the value has a character of code zero. -/
def isSettable (name value : String) : Bool :=
  name.toList.all (fun c => c ≠ '=' && c ≠ '\x00') && value.toList.all (· ≠ '\x00')

/-- Sets the variables of some bindings that are not defined already, in order, and stops at one
that an environment cannot hold. -/
def setAll (environment : Environment) : List Binding → Environment × Option Failure
  | [] => (environment, none)
  | (name, value?) :: bindings =>
      match environment.lookup name, value? with
      | none, some value =>
          if isSettable name value then setAll (environment ++ [(name, value)]) bindings
          else (environment, some .unsettableVariable)
      | _, _ => setAll environment bindings

/-- The environment with the variables of a file that it does not define already, up to the first
one that it cannot hold. -/
def extend (environment : Environment) (text : List Char) : Environment × Option Failure :=
  setAll environment (resolve environment (read text))

def switchName : String := "PYTHON_DOTENV_DISABLED"

def offWords : List String := ["1", "true", "t", "yes", "y"]

/-- Whether an environment turns the reading of files of variables off; case does not matter. -/
def isOff (environment : Environment) : Bool :=
  match environment.lookup switchName with
  | some value => offWords.any fun word => sameWord word.toList value.toList
  | none => false

end SetupForge.EnvFile
