import SetupForge.Failure
import SetupForge.Yaml.Assembly
import SetupForge.Yaml.Document
import SetupForge.Yaml.Layout

/-! # Reading YAML

A text is divided into tokens, these form the graph of a document, and the graph has a value.
-/

namespace SetupForge.Yaml

/-- The value of a text; one without a document is null. -/
def read (text : List Char) : Except Fault Value := do
  match ← Document.ofTokens (tokens text) with
  | none => .ok .null
  | some (root, graph) => graph.value root

def unreadable : String := "<yaml>"

/-- The failure that a fault leads to while a settings file is read. Numbers, dates and characters
that do not exist are no faults of the format. -/
def Fault.failure (path : Path) : Fault → Failure
  | .scalar => .malformedScalar
  | .oversized => .oversizedNumber
  | .emptyNumber => .indexOutOfRange none
  | .word => .unknownWord
  | .stamp => .formlessStamp
  | .kind => .wrongKind
  | .depth => .tooDeep
  | _ => .settings (.settingsUnreadable path unreadable)

end SetupForge.Yaml
