import SetupForge.Build.Tool
import SetupForge.Text.LetterCase

/-! # Compiling setups

The compiler runs twice: the first run leaves the uninstaller beside the script, where it is
signed, and the second builds the setup around it.
-/

namespace SetupForge.SetupCompiler

def uninstallerSuffix : String := ".e32"

def isUninstaller (name : String) : Bool :=
  Text.lower (Path.suffixOf name) == uninstallerSuffix

def uninstallersAmong (names : List String) : List String :=
  (names.filter isUninstaller).mergeSort fun a b => !(b < a)

def uninstallers (folder : Path) : Job (List String) :=
  return uninstallersAmong (← Job.fileNames folder)

/-- The folder of a script, which has to exist. -/
def scriptFolder (script : Path) : Job Path := do
  if ← Job.isFolder script.parent then pure script.parent
  else Job.fail (.packaging (.scriptFolderMissing script.parent) [])

def removeFiles (folder : Path) : List String → Job Unit
  | [] => pure ()
  | name :: names => do
      Job.unlink (folder.child name)
      removeFiles folder names

/-- Removes the uninstallers beside a script; gives how many there were. -/
def removeUninstallers (script : Path) : Job Nat := do
  let folder ← scriptFolder script
  let names ← uninstallers folder
  removeFiles folder names
  pure names.length

def makeUninstaller (compiler script : Path) : Job Path := do
  let folder ← scriptFolder script
  Job.note (.verbose "INNO" "Compiling to produce the uninstaller...")
  let lines ← Tool.run compiler.toString [script.toString] none none
  match ← uninstallers folder with
  | [] => Job.fail (.packaging .uninstallerMissing lines)
  | name :: _ => do
      Job.note (.verbose "INNO" s!"Uninstaller: {name}")
      pure (folder.child name)

def makeSetup (compiler script : Path) : Job Unit := do
  Job.note (.verbose "INNO" s!"Compiling setup: {script.fileName}")
  Tool.runChecked compiler.toString [script.toString] none .compiled (.compileFailed script)

end SetupForge.SetupCompiler
