import SetupForge.Text.Blank
import SetupForge.Text.LetterCase
import SetupForge.Text.Word

/-! # The version of a script

A script holds its version in the definition of a variable, or in the directive of the
application's version. What stands before the value is kept.
-/

namespace SetupForge.ScriptVersion

open Text

def directive : List Char := "AppVersion".toList

def define : List Char := "#define".toList

/-- What follows the value, if the value is the rest of a line: nothing, or a line feed. -/
def afterValue? (text : List Char) : Option (List Char) :=
  match text.dropWhile (· ≠ '\n') with
  | [] => some []
  | ['\n'] => some ['\n']
  | _ => none

def valueSpan? (before text : List Char) : Option (List Char × List Char) :=
  (afterValue? (dropBlanks text)).map fun after =>
    (before ++ text.takeWhile isBlankChar, after)

/-- Whether a word starts or ends between a text and what follows it. -/
def isWordEdge (before after : List Char) : Bool :=
  ((before.getLast?.map isWordChar).getD false) != startsWord after

def directiveSpan? (line : List Char) : Option (List Char × List Char) := do
  let rest ← dropLeadingAnyCase? directive line
  match dropBlanks rest with
  | '=' :: text =>
      let before := line.take (line.length - text.length)
      valueSpan? before text
  | _ => none

/-- What stands before and after the value of a definition of a variable that starts `count`
characters into the text after the word. -/
def variableSpan? (name : List Char) (line rest : List Char) (count : Nat) :
    Option (List Char × List Char) := do
  let text ← dropLeadingAnyCase? name (rest.drop count)
  let before := line.take (line.length - text.length)
  if isWordEdge before text then valueSpan? before text else none

/-- What stands before and after the value of a definition. At least one blank stands before the
variable. -/
def defineSpan? (name : List Char) (line : List Char) : Option (List Char × List Char) := do
  let rest ← dropLeadingAnyCase? define (dropBlanks line)
  let blanks := (rest.takeWhile isBlankChar).length
  ((List.range blanks).reverse.map (· + 1)).findSome? (variableSpan? name line rest)

/-- What stands before and after the value that the version replaces: in the definition of a
variable of a name, or in the directive if the name is empty. -/
def span? (name : String) (line : List Char) : Option (List Char × List Char) :=
  if name.isEmpty then directiveSpan? line else defineSpan? name.toList line

def stampLine (name version line : String) : String :=
  match span? name line.toList with
  | some (before, after) =>
      String.ofList (before ++ '"' :: version.toList ++ '"' :: after)
  | none => line

/-- The lines with a version, and how many of them changed. -/
def stamp (name version : String) (lines : List String) : List String × Nat :=
  let stamped := lines.map (stampLine name version)
  (stamped, ((lines.zip stamped).filter fun (old, new) => old != new).length)

@[simp] theorem length_stamp (name version : String) (lines : List String) :
    (stamp name version lines).1.length = lines.length := by
  simp [stamp]

end SetupForge.ScriptVersion
