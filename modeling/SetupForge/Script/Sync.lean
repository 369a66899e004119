import SetupForge.Download.File
import SetupForge.Script.FileEntry
import SetupForge.Script.GeneratedCode

/-! # Synchronizing a script

A script is brought in line with a publish folder and a build level: its files section
lists the folder's files, and its run step and routines provide the runtime if the level
asks for it. The script on disk is written only when a line changed.
-/

namespace SetupForge.Sync

structure Goal where
  major : Int := 0
  level : BuildLevel := .none
  /-- The folder whose files are listed. -/
  folder : Path
  runtime : RuntimeSettings := {}
deriving DecidableEq, Repr

/-- Copies the runtime installer into the publish folder; a failure is only reported. -/
def copyInstaller (goal : Goal) : Job Unit := do
  let copied ← Job.attempt do
    let installer ← Download.installer goal.runtime goal.major
    Job.copy installer (goal.folder.child installer.fileName)
    Job.note (.verbose "FILES" s!"Copied runtime installer: {installer.fileName}")
  match copied with
  | .ok () => pure ()
  | .error failure =>
      match failure.reason? with
      | some reason =>
          Job.note (.error "FILES"
            s!"Could not copy runtime installer to publish folder: {reason}")
      | none => Job.fail failure

/-- What a rebuild of the files section leaves of some lines, and how it ended. -/
structure FilesEdit where
  lines : List String
  /-- Whether the body of the section changed, or why the rebuild broke off. -/
  result : Except Failure Bool

/-- The lines of a rebuild that came to its end, and whether the body of the section changed. -/
def FilesEdit.finished (edit : FilesEdit) : Job (List String × Bool) :=
  match edit.result with
  | .ok changed => pure (edit.lines, changed)
  | .error failure => Job.fail failure

/-- Makes the publish folder ready to be listed; tells whether it is there. -/
def prepareFolder (goal : Goal) : Job Bool := do
  if ← Job.isFolder goal.folder then
    if goal.level = .netInstallIncluded then copyInstaller goal
    pure true
  else do
    Job.note (.error "FILES" s!"Specified input folder not found: {goal.folder}")
    pure false

/-- Rebuilds the files section of some lines from a folder that is ready. The section is cleared
before the folder is listed, and stays cleared when that fails. -/
def fillFiles (goal : Goal) (lines : List String) : Job FilesEdit :=
  match Section.body? FilesSection.sectionName lines with
  | none => do
      Job.note (.error "FILES" "Could not find [Files] section in the setup script")
      pure ⟨lines, .ok false⟩
  | some before => do
      let family := goal.runtime.family
      match ← Job.attempt (Job.fileNames goal.folder) with
      | .error failure => pure ⟨FilesSection.rebuild family [] lines, .error failure⟩
      | .ok names => do
          let rebuilt := FilesSection.rebuild family names lines
          Job.notes (FilesSection.notes family names)
          let changed := Section.body? FilesSection.sectionName rebuilt != some before
          Job.note
            (.verbose "FILES" (if changed then "[Files] updated" else "[Files] unchanged"))
          pure ⟨rebuilt, .ok changed⟩

def editFiles (goal : Goal) (lines : List String) : Job FilesEdit := do
  match ← Job.attempt (prepareFolder goal) with
  | .error failure => pure ⟨lines, .error failure⟩
  | .ok false => pure ⟨lines, .ok false⟩
  | .ok true => fillFiles goal lines

/-- Rebuilds the files section of some lines, which are given up when the rebuild breaks off; also
tells whether its body changed. -/
def files (goal : Goal) (lines : List String) : Job (List String × Bool) := do
  (← editFiles goal lines).finished

/-- Makes an edit of a script: its notes are sent, and its failure stops the job. -/
def edited (edit : Edit) : Job (List String) := do
  Job.notes edit.notes
  match edit.failure with
  | some failure => Job.fail failure
  | none => pure edit.lines

def code (goal : Goal) (lines : List String) : Job (List String) :=
  edited (GeneratedCode.sync
    { major := goal.major, level := goal.level, runtime := goal.runtime } lines)

def loadScript (path : Path) : Job Script := do
  if ← Job.hasPath path then return Script.ofBytes (← Job.load path)
  else Job.reject (.scriptMissing path)

def saveScript (path : Path) (script : Script) : Job Unit := Job.store path script.toBytes

/-- Rebuilds the files section of a script on disk; tells whether it changed. -/
def packageFiles (folder path : Path) : Job Bool := do
  let script ← loadScript path
  let (lines, changed) ← files { folder } script.lines
  if changed then
    saveScript path { script with lines }
    Job.note (.verbose "FILES" s!"Setup script updated: {path}")
  pure changed

/-- Brings a script on disk in line with a goal; tells whether it changed. -/
def script (goal : Goal) (path : Path) : Job Bool := do
  let script ← loadScript path
  let (lines, _) ← files goal script.lines
  let lines ← code goal lines
  if lines = script.lines then pure false
  else do
    saveScript path { script with lines }
    pure true

end SetupForge.Sync
