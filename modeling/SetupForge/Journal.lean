/-! # Notes and console output

What the program reports while it works. A note goes to whoever listens; on a console,
steps, warnings and errors are always shown, and the rest on request.
-/

namespace SetupForge

inductive Weight where
  | verbose
  | debug
  | warning
  | error
deriving DecidableEq, Repr

inductive Note where
  | step (number total : Int) (text : String)
  | message (weight : Weight) (area text : String)
deriving DecidableEq, Repr

namespace Note

def verbose (area text : String) : Note := .message .verbose area text

def debug (area text : String) : Note := .message .debug area text

def warning (area text : String) : Note := .message .warning area text

def error (area text : String) : Note := .message .error area text

end Note

structure Console where
  verbose : Bool := false
  debug : Bool := false
deriving DecidableEq, Repr

inductive Stream where
  | output
  | problems
deriving DecidableEq, Repr

/-- The line that a note shows on a console, and on which stream. -/
def Console.line? (console : Console) : Note → Option (Stream × String)
  | .step number total text => some (.output, s!"[{number}/{total}] {text}")
  | .message .verbose area text =>
      if console.verbose || console.debug then some (.output, s!"[{area}] {text}") else none
  | .message .debug area text =>
      if console.debug then some (.output, s!"[{area}] {text}") else none
  | .message .warning area text => some (.problems, s!"[{area}] WARNING: {text}")
  | .message .error area text => some (.problems, s!"[{area}] ERROR: {text}")

/-- Something said while the program runs: a note to the listener or text for a stream. -/
inductive Utterance where
  | note (message : Note)
  | text (stream : Stream) (words : String)
deriving DecidableEq, Repr

/-- The text of an utterance on a stream, for a listener that is a console or somebody else. -/
def Utterance.on (console : Option Console) (stream : Stream) : Utterance → String
  | .text target words => if target = stream then words else ""
  | .note message =>
      match console.bind (·.line? message) with
      | some (target, line) => if target = stream then line ++ "\n" else ""
      | none => ""

def streamText (console : Option Console) (stream : Stream) (said : List Utterance) : String :=
  String.join (said.map (Utterance.on console stream))

def notesOf (said : List Utterance) : List Note :=
  said.filterMap fun
    | .note message => some message
    | .text _ _ => none

end SetupForge
