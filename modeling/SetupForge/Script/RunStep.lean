import SetupForge.Text.Blank
import SetupForge.Text.LetterCase

/-! # The runtime install step

The line of the run section that starts the runtime installer out of the temporary
folder, and how such lines are recognised.
-/

namespace SetupForge.RunStep

open Text

def opening : String := "\"\x7btmp\x7d\\"

def entry (installer : String) : String :=
  "Filename: " ++ opening ++ installer ++
    "\"; Parameters: \"/install /quiet /norestart\"; Check: NeedsDotNet"

/-- Whether a line starts a program out of the temporary folder whose name starts with the
family, case ignored. -/
def launches (family line : String) : Bool :=
  match dropLeadingAnyCase? "Filename:".toList (dropBlanks line.toList) with
  | some rest =>
      (dropLeadingAnyCase? (opening.toList ++ family.toList) (dropBlanks rest)).isSome
  | none => false

/-- Whether a line is an install step that names no installer. -/
def isUnnamed (line : String) : Bool := lower (trim line) == lower (entry "")

def isStep (family line : String) : Bool := launches family line || isUnnamed line

def removeAll (family : String) (lines : List String) : List String :=
  lines.filter fun line => !isStep family line

theorem removeAll_sublist (family : String) (lines : List String) :
    (removeAll family lines).Sublist lines := List.filter_sublist

end SetupForge.RunStep
