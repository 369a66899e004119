import SetupForge.Policy.Runtime
import SetupForge.Settings.File

/-! # Checking settings

A settings file can be checked without running any tool: whether its actions can be
resolved, and whether every active action has the fields that its kind needs.
-/

namespace SetupForge

def ActionKind.requiredFields : ActionKind → List TextField
  | .compileAndPublish =>
      [.csharpProjectFilename, .exeFilename, .setupFilename, .innoScriptFilename,
        .innoSetupCompilerFilename]
  | .setPackageFiles => [.inputFoldername, .outputFilename]
  | .setVersion => []
  | .none => []

namespace Check

structure Findings where
  errors : List String := []
  warnings : List String := []
deriving DecidableEq, Repr

def Findings.append (a b : Findings) : Findings :=
  ⟨a.errors ++ b.errors, a.warnings ++ b.warnings⟩

def hasStampTarget (action : Action) : Bool :=
  [TextField.csharpProjectFilename, .innoScriptFilename, .wapManifestFilename].any fun field =>
    !(action.text field).isEmpty

def missingFields (action : Action) : List TextField :=
  action.kind.requiredFields.filter fun field => (action.text field).isEmpty

/-- Whether a setup of the action's level needs a runtime version that the action does not name. -/
def lacksMajor (action : Action) : Bool := action.level.providesRuntime && action.major = 0

def lacksInstaller (action : Action) : Bool :=
  action.major != 0 && !({} : RuntimeSettings).knows action.major &&
    (action.text .runtimeDownloadUrl).isEmpty

def runtimeFindings (action : Action) : Findings :=
  let place := action.displayName
  if lacksMajor action then
    { errors := [s!"{place}: project_build_level {action.level.name} requires net_major_version"] }
  else if lacksInstaller action then
    { warnings := [s!"{place}: no runtime installer reference for .NET {action.major}; " ++
        "runtime placeholders will be left empty"] }
  else {}

/-- What is missing to sign with a certain certificate. -/
def signingFindings (action : Action) : Findings :=
  if (action.text .certFilename).isEmpty && (action.text .shaThumbprint).isEmpty then
    { warnings := [s!"{action.displayName}: no certificate configured, SignTool will pick one " ++
        "automatically"] }
  else {}

def action (action : Action) : Findings :=
  let place := action.displayName
  let missing : Findings :=
    { errors := (missingFields action).map fun field =>
        s!"{place}: Missing required field: {field.name}" }
  match action.kind with
  | .compileAndPublish =>
      (missing.append (runtimeFindings action)).append (signingFindings action)
  | .setVersion =>
      if hasStampTarget action then missing
      else missing.append { errors := [s!"{place}: {stampTargetsNeeded}"] }
  | _ => missing

structure Report where
  errors : List String
  warnings : List String
  actionCount : Nat
  path : String
deriving DecidableEq, Repr

def Report.isValid (report : Report) : Bool := report.errors.isEmpty

def Report.status (report : Report) : String := if report.isValid then "valid" else "invalid"

def progress (verbose : Bool) (line : String) : Job Unit :=
  if verbose then Job.print line else pure ()

def checkAction (verbose : Bool) (subject : Action) : Job Findings := do
  if subject.active then
    if subject.kind = .compileAndPublish ∧ lacksInstaller subject then
      Job.requireText subject.major
    let findings := action subject
    if findings.errors.isEmpty then
      progress verbose s!"  [OK] {subject.displayName} ({subject.kind.name})"
    pure findings
  else
    Job.note (.verbose "VALIDATE" s!"Skipping inactive action: {subject.displayName}")
    pure {}

def checkActions (verbose : Bool) : List Action → Job Findings
  | [] => pure {}
  | subject :: rest => do
      let findings ← checkAction verbose subject
      let more ← checkActions verbose rest
      pure (findings.append more)

/-- Loads and resolves a settings file; its own faults are a text, and the warnings so far are
given in any case. -/
def loadForCheck (path : Path) (workingPath : Option Path) :
    Job (Except String (List Action) × List String) := do
  let loaded ← Job.attempt (SettingsFile.load path)
  let around := (← get).surroundings
  let (result, warnings) : Reading (List Action) :=
    match loaded with
    | .error failure => (.error failure, [])
    | .ok value => ActionTree.resolve around workingPath value
  match result with
  | .ok actions => pure (.ok actions, warnings)
  | .error (.settings fault) => pure (.error fault.message, warnings)
  | .error failure => Job.fail failure

def settingsFile (path : Path) (workingPath : Option Path) (verbose : Bool) : Job Report := do
  progress verbose s!"Validating settings: {path}"
  match ← loadForCheck path workingPath with
  | (.error message, warnings) =>
      pure { errors := [message], warnings, actionCount := 0, path := path.toString }
  | (.ok actions, warnings) => do
      progress verbose s!"  [OK] Found {actions.length} action(s)"
      let none : Findings :=
        if actions.isEmpty then
          { warnings := ["No runnable actions (every action_type is 'none')"] }
        else {}
      let findings ← checkActions verbose actions
      let findings := (Findings.append { warnings } none).append findings
      let report : Report :=
        { errors := findings.errors, warnings := findings.warnings
          actionCount := actions.length, path := path.toString }
      progress verbose
        (if report.isValid then "  [OK] Settings are valid!"
          else s!"  [ERROR] Settings have {report.errors.length} error(s)")
      pure report

theorem errors_append (a b : Findings) : (a.append b).errors = a.errors ++ b.errors := rfl

end Check

end SetupForge
