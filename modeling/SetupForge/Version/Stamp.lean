import SetupForge.Script.Basic
import SetupForge.Version.Define
import SetupForge.Version.Identity
import SetupForge.Version.Project
import SetupForge.Version.Timestamp

/-! # Stamping files

A version is written into every file that is named: a file of its own, a project, a script,
and the manifest of an application package.
-/

namespace SetupForge.Stamping

def readFileText (path : Path) : Job (List Char) := do
  if ← Job.hasPath path then Job.readText path else Job.reject (.fileMissing path)

def project (path : Path) (version : String) : Job Unit := do
  let text ← readFileText path
  match ProjectVersion.stamp path version text with
  | .ok text => Job.store path (Utf8.encode text)
  | .error failure => Job.fail failure

def manifest (path : Path) (version : String) : Job Unit := do
  let text ← readFileText path
  Job.store path (Utf8.encode (IdentityVersion.stamp version text))

/-- Stamps a script; it is written only if a line changed. Gives the number of changed lines. -/
def script (path : Path) (version name : String) : Job Nat := do
  if ← Job.hasPath path then
    let script := Script.ofBytes (← Job.load path)
    let (lines, changed) := ScriptVersion.stamp name version script.lines
    if changed ≠ 0 then Job.store path ({ script with lines } : Script).toBytes
    pure changed
  else Job.reject (.scriptMissing path)

structure Targets where
  project : Option Path := none
  script : Option Path := none
  /-- The variable that holds the version in the script; empty for the directive. -/
  variableName : String := ""
  manifest : Option Path := none
  /-- The file that holds the version and nothing else. -/
  versionFile : Option Path := none
deriving DecidableEq, Repr

structure Report where
  version : String
  stamped : List Path
deriving DecidableEq, Repr

/-- Does something with a path, if there is one, and gives the paths that took the version. -/
def onTarget (path? : Option Path) (stamp : Path → Job Bool) : Job (List Path) :=
  match path? with
  | none => pure []
  | some path => do return if ← stamp path then [path] else []

def writeVersion (version : String) (path : Path) : Job Bool := do
  Job.store path (Utf8.encode version.toList)
  pure true

def stampProject (version : String) (path : Path) : Job Bool := do
  Job.note (.verbose "VERSION" s!"Processing C# project: {path}")
  project path version
  pure true

/-- Stamps the script and reports it, also if no line took the version. -/
def stampScript (version name : String) (path : Path) : Job Bool := do
  Job.note (.verbose "VERSION" s!"Processing Inno Setup script: {path}")
  if (← script path version name) = 0 then
    Job.note (.warning "VERSION" s!"No version line found in {path}")
    pure false
  else pure true

def stampManifest (version : String) (path : Path) : Job Bool := do
  Job.note (.verbose "VERSION" s!"Processing application package: {path}")
  manifest path version
  pure true

def versionOr (given : Option String) : Job String := do
  let clock := (← get).clock
  match given with
  | some version => pure (if version.isEmpty then clock.version else version)
  | none => pure clock.version

def all (targets : Targets) (given : Option String) : Job Report := do
  let version ← versionOr given
  Job.note (.verbose "VERSION" s!"Version: {version}")
  let versionFile ← onTarget targets.versionFile (writeVersion version)
  let project ← onTarget targets.project (stampProject version)
  let script ← onTarget targets.script (stampScript version targets.variableName)
  let manifest ← onTarget targets.manifest (stampManifest version)
  pure ⟨version, versionFile ++ project ++ script ++ manifest⟩

end SetupForge.Stamping
