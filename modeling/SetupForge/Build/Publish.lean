import SetupForge.Build.Project
import SetupForge.Build.SettingsPath
import SetupForge.Build.SetupCompiler
import SetupForge.Script.Sync
import SetupForge.Version.Stamp

/-! # Publishing

From a project to a signed setup, in fixed steps. The first step that fails stops the rest;
what earlier steps wrote stays.
-/

namespace SetupForge.Publish

def stepCount : Nat := 15

def beginStep (number : Nat) (text : String) : Job Unit := Job.note (.step number stepCount text)

structure Plan where
  project : Path
  program : Path
  setup : Path
  script : Path
  compiler : Path
  signing : SigningSettings
  runtime : RuntimeSettings
deriving DecidableEq, Repr

structure Report where
  name : String
  /-- The version that was stamped; empty if none was. -/
  version : String
  program : Path
  uninstaller : Path
  setup : Path
deriving DecidableEq, Repr

def Report.status (_ : Report) : String := "success"

/-- Whether a setup of the action's level needs a runtime version that the action does not name. -/
def lacksMajor (action : Action) : Bool := action.level.providesRuntime && action.major = 0

def plan (action : Action) : Job Plan := do
  let project ← SettingsPath.requiredField action .csharpProjectFilename
  let program ← SettingsPath.requiredField action .exeFilename true
  let setup ← SettingsPath.requiredField action .setupFilename true
  let script ← SettingsPath.requiredField action .innoScriptFilename
  let compiler ← SettingsPath.requiredField action .innoSetupCompilerFilename
  let signing ← action.signing
  pure { project, program, setup, script, compiler, signing, runtime := action.runtime }

def versionOption : String := "SetVersion"

/-- Stamps the project and the script's lines if the action asks for it. Gives the version and the
lines. -/
def stamp (action : Action) (plan : Plan) (lines : List String) :
    Job (String × List String) := do
  if action.optionEnabled versionOption then
    beginStep 3 "Stamping version..."
    let version := (← get).clock.version
    Stamping.project plan.project version
    let (lines, _) := ScriptVersion.stamp (action.text .innoVersionVariable) version lines
    Job.note (.verbose "VERSION" s!"Version: {version}")
    pure (version, lines)
  else
    beginStep 3 "Keeping current version"
    pure ("", lines)

def build (action : Action) (plan : Plan) : Job Unit := do
  beginStep 4 "Removing bin and obj folders..."
  let _ ← Project.clean plan.project
  beginStep 5 "Restoring packages..."
  Project.restore plan.project
  beginStep 6 s!"Publishing ({action.level.name})..."
  Project.publish plan.project action.level
  beginStep 7 "Signing executable..."
  Signing.signAndVerify plan.program plan.signing

def syncLines (action : Action) (plan : Plan) (lines : List String) : Job (List String) := do
  let goal : Sync.Goal :=
    { major := action.major, level := action.level
      folder := plan.program.parent, runtime := plan.runtime }
  beginStep 8 "Updating [Files]..."
  let (lines, _) ← Sync.files goal lines
  beginStep 9 "Updating generated code..."
  Sync.code goal lines

def package (plan : Plan) : Job Path := do
  beginStep 11 "Removing old uninstallers..."
  let _ ← SetupCompiler.removeUninstallers plan.script
  beginStep 12 "Creating uninstaller..."
  let uninstaller ← SetupCompiler.makeUninstaller plan.compiler plan.script
  beginStep 13 "Signing uninstaller..."
  Signing.signAndVerify uninstaller plan.signing
  beginStep 14 "Compiling setup..."
  SetupCompiler.makeSetup plan.compiler plan.script
  beginStep 15 "Signing setup..."
  Signing.signAndVerify plan.setup plan.signing
  pure uninstaller

def run (action : Action) : Job Report := do
  if lacksMajor action then
    Job.reject (.majorRequired action.displayName action.level)
  beginStep 1 "Validating paths..."
  let plan ← plan action
  beginStep 2 "Loading setup script..."
  let script := Script.ofBytes (← Job.load plan.script)
  let (version, lines) ← stamp action plan script.lines
  build action plan
  let lines ← syncLines action plan lines
  beginStep 10 "Saving setup script..."
  Sync.saveScript plan.script { script with lines }
  let uninstaller ← package plan
  Job.note (.verbose "BUILD" s!"[OK] Setup file created: {plan.setup.fileName}")
  pure { name := action.displayName, version, program := plan.program, uninstaller
         setup := plan.setup }

end SetupForge.Publish
