import SetupForge.Build.Publish
import SetupForge.Settings.File

/-! # Running actions

Actions run in order. One that fails is reported, and the rest still run; inactive ones are
passed over.
-/

namespace SetupForge

inductive ActionReport where
  | published (report : Publish.Report)
  /-- The files section of a script was rebuilt. -/
  | listed (script : Path) (changed : Bool)
  | stamped (report : Stamping.Report)
deriving DecidableEq, Repr

inductive Ending where
  | success
  | failed (message : String)
  | skipped
deriving DecidableEq, Repr

namespace Ending

def status : Ending → String
  | .success => "success"
  | .failed _ => "failed"
  | .skipped => "skipped"

def message : Ending → String
  | .success => ""
  | .failed message => message
  | .skipped => "inactive"

end Ending

structure Outcome where
  name : String
  kind : ActionKind
  ending : Ending
deriving DecidableEq, Repr

namespace Action

def runPackageFiles (action : Action) : Job ActionReport := do
  let folder ← SettingsPath.requiredField action .inputFoldername
  let script ← SettingsPath.requiredField action .outputFilename
  return .listed script (← Sync.packageFiles folder script)

def runVersion (action : Action) : Job ActionReport := do
  let project ← SettingsPath.optionalField action .csharpProjectFilename
  let script ← SettingsPath.optionalField action .innoScriptFilename
  let manifest ← SettingsPath.optionalField action .wapManifestFilename
  if project.isNone && script.isNone && manifest.isNone then
    Job.reject (.nothingToStamp action.displayName)
  let versionFile ← SettingsPath.optionalField action .versionFilename true
  let targets : Stamping.Targets :=
    { project, script, manifest, versionFile, variableName := action.text .innoVersionVariable }
  return .stamped (← Stamping.all targets none)

def run (action : Action) : Job (Option ActionReport) :=
  match action.kind with
  | .compileAndPublish => do return some (.published (← Publish.run action))
  | .setPackageFiles => do return some (← action.runPackageFiles)
  | .setVersion => do return some (← action.runVersion)
  | .none => pure none

def shownOutput : Nat := 20

def outputTail (failure : Failure) : List String :=
  match failure with
  | .packaging _ output => output.drop (output.length - shownOutput)
  | _ => []

/-- Runs an action unless it is inactive. Only failures of the program's own are reported and passed
over. -/
def runToEnd (action : Action) : Job Ending := do
  Job.note (.verbose "BUILD" s!"Command: {action.kind.name} ({action.displayName})")
  if action.active then
    match ← Job.attempt action.run with
    | .ok _ => pure .success
    | .error failure =>
        match failure.ownMessage? with
        | none => Job.fail failure
        | some message => do
            Job.note (.error "BUILD" s!"{action.displayName}: {message}")
            Job.notes ((outputTail failure).map fun line => .verbose "TOOL" s!"  {line}")
            pure (.failed message)
  else do
    Job.note (.verbose "BUILD" "  Skipping step...")
    pure .skipped

def runAll : List Action → Job (List Outcome)
  | [] => pure []
  | action :: actions => do
      let ending ← action.runToEnd
      let outcomes ← runAll actions
      pure ({ name := action.displayName, kind := action.kind, ending } :: outcomes)

end Action

end SetupForge
