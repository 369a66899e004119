import SetupForge.Build.Tool

/-! # Building a project

A project is restored and then published, always for 64-bit Windows in release
configuration. Only the stand-alone level makes a single file that carries its runtime.
-/

namespace SetupForge.Project

def restoreTool : String := "dotnet"

def publishTool : String := "MSBuild.exe"

/-- The folders beside a project that hold what was built. -/
def builtNames : List String := ["bin", "obj"]

/-- Removes a folder and what is in it, if it is there; gives the folders that are removed. -/
def removeFolder (folder : Path) : Job (List Path) := do
  if ← Job.isFolder folder then
    let host ← get
    match host.disk.locate host.folder folder with
    | .ok location => do
        set (host.withDisk (host.disk.remove location))
        pure [folder]
    | .error _ => pure []
  else pure []

def removeFolders (folder : Path) : List String → Job (List Path)
  | [] => pure []
  | name :: names => do
      let first ← removeFolder (folder.child name)
      let rest ← removeFolders folder names
      pure (first ++ rest)

def clean (project : Path) : Job (List Path) := do
  let folder := project.parent
  if ← Job.isFolder folder then
    Job.note (.verbose "DOTNET" "Removing previous bin and obj folders...")
    removeFolders folder builtNames
  else pure []

def restore (project : Path) : Job Unit := do
  Job.note (.verbose "DOTNET" s!"Restoring packages for {project.fileName}")
  Tool.runChecked restoreTool ["restore"] (some project.parent) .restored
    (.restoreFailed project)

def publishArguments (project : Path) (level : BuildLevel) : List String :=
  let alone := if level = .standAlone then "true" else "false"
  [project.toString, "/t:Publish", "/p:Configuration=Release", "/p:RuntimeIdentifier=win-x64",
    s!"/p:SelfContained={alone}", s!"/p:PublishSingleFile={alone}", s!"/p:PublishTrimmed={alone}"]

def publish (project : Path) (level : BuildLevel) : Job Unit := do
  Job.note (.verbose "DOTNET" s!"Publishing {project.fileName} ({level.name})")
  Tool.runChecked publishTool (publishArguments project level) none .published
    (.publishFailed project)

end SetupForge.Project
