/-! # Lines of a text

Three ways to divide a text into lines: at the line ends of a script, at the line
ends of console output, and by making every line end a line feed.
-/

namespace SetupForge.Text

def consFirst (c : Char) : List (List Char) → List (List Char)
  | [] => [[c]]
  | line :: lines => (c :: line) :: lines

/-- The pieces between line ends, a line end being CRLF, CR or LF. Never empty: a text that
ends in a line end has an empty last piece. -/
def splitLineEnds : List Char → List (List Char)
  | [] => [[]]
  | '\r' :: '\n' :: text => [] :: splitLineEnds text
  | '\r' :: text => [] :: splitLineEnds text
  | '\n' :: text => [] :: splitLineEnds text
  | c :: text => consFirst c (splitLineEnds text)

def dropEmptyLast : List (List Char) → List (List Char)
  | [] => []
  | [line] => if line.isEmpty then [] else [line]
  | line :: lines => line :: dropEmptyLast lines

/-- The lines of a script's text; one trailing line end makes no line of its own. -/
def scriptLines (text : List Char) : List (List Char) := dropEmptyLast (splitLineEnds text)

def joinLines : List (List Char) → List Char
  | [] => []
  | [line] => line
  | line :: lines => line ++ '\r' :: '\n' :: joinLines lines

/-- The text with every CRLF and CR made an LF. -/
def withLineFeeds : List Char → List Char
  | [] => []
  | '\r' :: '\n' :: text => '\n' :: withLineFeeds text
  | '\r' :: text => '\n' :: withLineFeeds text
  | c :: text => c :: withLineFeeds text

def endsConsoleLine (c : Char) : Bool :=
  c ∈ ['\n', '\r', '\x0b', '\x0c', '\x1c', '\x1d', '\x1e', '\u0085', '\u2028', '\u2029']

def splitConsoleLines : List Char → List (List Char)
  | [] => [[]]
  | '\r' :: '\n' :: text => [] :: splitConsoleLines text
  | c :: text =>
      if endsConsoleLine c then [] :: splitConsoleLines text
      else consFirst c (splitConsoleLines text)

/-- The lines of console output; a trailing line end makes no line of its own. -/
def consoleLines (text : String) : List String :=
  (dropEmptyLast (splitConsoleLines text.toList)).map String.ofList

@[simp] theorem consFirst_ne_nil (c : Char) (lines : List (List Char)) :
    consFirst c lines ≠ [] := by
  cases lines <;> simp [consFirst]

theorem splitLineEnds_ne_nil (text : List Char) : splitLineEnds text ≠ [] := by
  unfold splitLineEnds
  split <;> simp

@[simp] theorem withLineFeeds_nil : withLineFeeds [] = [] := by
  simp [withLineFeeds]

end SetupForge.Text
