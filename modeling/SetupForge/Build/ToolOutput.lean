import SetupForge.Text.Blank
import SetupForge.Text.Digit
import SetupForge.Text.Lines
import SetupForge.Text.Search

/-! # What tools report

Whether a tool succeeded is read off its output, not its exit code. The lines are looked
at as one text, with CRLF between them.
-/

namespace SetupForge.ToolOutput

open Text

inductive Success where
  | restored
  | published
  | compiled
  | signed
  | timestamped
  | verified
deriving DecidableEq, Repr

def joined (lines : List String) : List Char := joinLines (lines.map String.toList)

def dropWord? (word : String) (text : List Char) : Option (List Char) :=
  if word.toList.isPrefixOf text then some (text.drop word.length) else none

def dropGap? : List Char → Option (List Char)
  | [] => none
  | c :: text => if isBlankChar c then some (dropBlanks text) else none

def dropDigits? : List Char → Option (List Char)
  | [] => none
  | c :: text =>
      if (digit? c).isSome then some (text.dropWhile fun c => (digit? c).isSome) else none

def anywhere (test : List Char → Bool) : List Char → Bool
  | [] => test []
  | c :: text => test (c :: text) || anywhere test text

/-- Whether a word of a restored project starts a text: blanks, the word, and a blank. -/
def restoredAt (text : List Char) : Bool :=
  (do dropGap? (← dropWord? "Restored" (← dropGap? text))).isSome

/-- Whether the report of a build without errors starts a text. -/
def publishedAt (text : List Char) : Bool :=
  (do
    let text ← dropGap? (← dropWord? "Build succeeded." text)
    let text ← dropGap? (← dropWord? " Warning(s)" (← dropDigits? text))
    dropWord? "0 Error(s)" text).isSome

def reports (success : Success) (lines : List String) : Bool :=
  let text := joined lines
  match success with
  | .restored => anywhere restoredAt text || occursIn "up-to-date for restore".toList text
  | .published => anywhere publishedAt text
  | .compiled => occursIn "Successful compile (".toList text
  | .signed => occursIn "Successfully signed:".toList text
  | .timestamped => occursIn "Successfully timestamped:".toList text
  | .verified => occursIn "Successfully verified:".toList text

end SetupForge.ToolOutput
