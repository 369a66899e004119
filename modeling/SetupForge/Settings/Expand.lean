import SetupForge.Host

/-! # Variables in settings texts

A name between two percent signs stands for a variable of the environment. Names that are
not defined stay as they are written, with both signs.
-/

namespace SetupForge.Expand

def startsName (c : Char) : Bool := c.isAlpha || c == '_'

def continuesName (c : Char) : Bool := c.isAlphanum || c == '_' || c == '(' || c == ')'

/-- The name at the start of a text, if a percent sign follows it. -/
def token? : List Char → Option (List Char)
  | [] => none
  | c :: text =>
      if startsName c then
        let name := c :: text.takeWhile continuesName
        if (text.dropWhile continuesName).head? == some '%' then some name else none
      else none

/-- The home folder of the user, which is that of the account unless a variable says otherwise.
One that is written with a tilde says nothing. -/
def home (around : Surroundings) : Except Failure String :=
  match (around.environment.lookup "HOME").or around.accountHome with
  | none => .error .homeUnknown
  | some text =>
      match (text.toList.reverse.dropWhile (· = '/')).reverse with
      | [] => .ok "/"
      | '~' :: _ => .error .homeUnknown
      | names => .ok (Path.ofString (String.ofList names)).toString

/-- What stands for a variable, if it is defined. The user's profile is the home folder. -/
def value? (around : Surroundings) (name : String) : Except Failure (Option String) :=
  if name.toUpper == "USERPROFILE" then (home around).map some
  else .ok (around.environment.lookup name)

/-- Expands a text after passing over `skip` characters of a name already dealt with. -/
def expandFrom (around : Surroundings) : (skip : Nat) → List Char → Except Failure (List Char)
  | _, [] => .ok []
  | skip + 1, _ :: text => expandFrom around skip text
  | 0, c :: text =>
      if c = '%' then
        match token? text with
        | some name => do
            let value ← value? around (String.ofList name)
            let rest ← expandFrom around (name.length + 1) text
            .ok ((value.map String.toList).getD ('%' :: name ++ ['%']) ++ rest)
        | none => (expandFrom around 0 text).map (c :: ·)
      else (expandFrom around 0 text).map (c :: ·)

def expand (around : Surroundings) (text : String) : Except Failure String :=
  (expandFrom around 0 text.toList).map String.ofList

end SetupForge.Expand
