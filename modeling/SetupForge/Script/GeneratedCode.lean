import SetupForge.Script.Cleanup
import SetupForge.Script.Placeholder
import SetupForge.Script.RunStep
import SetupForge.Script.Section
import SetupForge.Text.Digit

/-! # Generated code of a script

Brings the run step and the generated routines of a script in line with its build level:
all generated copies and run steps are removed, and what the level needs is put at the top
of the run and code sections.
-/

namespace SetupForge.GeneratedCode

def runSection : String := "Run"

def codeSection : String := "Code"

structure Target where
  major : Int
  level : BuildLevel
  runtime : RuntimeSettings := {}
  catalog : List Routine := Routine.catalog
  /-- Whether placeholders without a value are a fault. -/
  strict : Bool := false
deriving DecidableEq, Repr

def dropEmptyCode (lines : List String) : List String × List Note :=
  if (Section.start? codeSection lines).isSome && Section.isEmpty codeSection lines then
    (Section.remove codeSection lines, [.verbose "CODE" "Removed empty [Code] section"])
  else (lines, [])

/-- Puts the run step of an installer at the top of the run section, which is made before the
code section if it is missing. -/
def addRunStep (target : Target) (lines : List String) : Edit :=
  let installer := target.runtime.installerName target.major
  if installer.isEmpty then
    if Text.hasText target.major then
      { lines
        notes := [.warning "CODE"
          s!"No runtime installer for .NET {target.major}; runtime install step not added"] }
    else { lines, failure := some .tooManyDigits }
  else
    let (start, lines) :=
      match Section.start? runSection lines with
      | some start => (start, lines)
      | none => Section.insertBefore runSection codeSection lines
    { lines := Lines.insertAt (start + 1) [RunStep.entry installer] lines
      notes := [.verbose "CODE" s!"Runtime install step: {installer}"] }

/-- Inserts the routines that the level needs and the script lacks, from a position on, each
with an empty line below it. -/
def addRoutines (target : Target) : List Routine → (position : Nat) → (warned : Bool) →
    List String → Edit
  | [], _, _, lines => { lines }
  | routine :: rest, position, warned, lines =>
      if ¬ routine.level ≤ target.level then addRoutines target rest position warned lines
      else
        match routine.signature? with
        | none => { lines, failure := some (.indexOutOfRange none) }
        | some signature =>
            if lines.any (Routine.carries signature) then
              let edit := addRoutines target rest position warned lines
              { edit with
                notes := .verbose "CODE" s!"Keeping existing {routine.name}" :: edit.notes }
            else if Placeholder.isStuck target.runtime target.major routine.lines then
              { lines, failure := some .tooManyDigits }
            else
              match Placeholder.fillLines target.runtime target.strict warned target.major
                  routine.lines with
              | .error fault => { lines, failure := some (.settings fault) }
              | .ok (text, notes) =>
                  let edit := addRoutines target rest (position + text.length + 1)
                    (warned || !notes.isEmpty) (Lines.insertAt position (text ++ [""]) lines)
                  { edit with
                    notes := notes ++
                      .verbose "CODE" s!"Inserted {routine.name}" :: edit.notes }

def generate (target : Target) (lines : List String) : Edit :=
  let stepped := addRunStep target lines
  if stepped.failure.isSome then stepped
  else
    let (start, lines) := Section.ensure codeSection stepped.lines
    let edit := addRoutines target target.catalog (start + 1) false lines
    { edit with notes := stepped.notes ++ edit.notes }

/-- Brings the generated code of some lines in line with a target. -/
def sync (target : Target) (lines : List String) : Edit :=
  let (cleaned, removed) := Routine.removeGenerated target.catalog lines
  if cleaned.failure.isSome then cleaned
  else
    let counted : List Note :=
      if removed = 0 then []
      else [.verbose "CODE" s!"Removed {removed} generated code module(s)"]
    let bare := RunStep.removeAll target.runtime.family cleaned.lines
    let edit :=
      if target.level.providesRuntime then generate target bare
      else
        let (lines, notes) := dropEmptyCode bare
        { lines, notes }
    { edit with notes := cleaned.notes ++ counted ++ edit.notes }

end SetupForge.GeneratedCode
