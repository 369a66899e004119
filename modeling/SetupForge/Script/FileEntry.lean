import SetupForge.Journal
import SetupForge.Path
import SetupForge.Script.Section

/-! # The files section

The files section lists what a setup installs. It is rebuilt from the names of a folder's
files: runtime installers go to the temporary folder and are deleted after the setup, and
files with certain suffixes go to the program's folder.
-/

namespace SetupForge

namespace FileEntry

def suffixes : List String :=
  [".bat", ".bmp", ".cmd", ".dll", ".exe", ".ico", ".png", ".json"]

def line (fileName folder flags : String) : String :=
  "Source: \"\x7b#SourcePath\x7d\\" ++ fileName ++ "\"; DestDir: \"\x7b" ++ folder ++
    "\x7d\"; Flags: " ++ flags

def payload (fileName : String) : String := line fileName "tmp" "deleteafterinstall"

def application (fileName : String) : String := line fileName "app" "ignoreversion"

/-- A name up to its first hyphen, in lowercase. -/
def familyKey (name : String) : List Char := Text.lowerChars (name.toList.takeWhile (· ≠ '-'))

def isInstaller (family fileName : String) : Bool :=
  !(familyKey family).isEmpty && familyKey fileName == familyKey family

def isApplication (fileName : String) : Bool :=
  Text.lower (Path.ofString fileName).suffix ∈ suffixes

def of? (family fileName : String) : Option String :=
  if isInstaller family fileName then some (payload fileName)
  else if isApplication fileName then some (application fileName)
  else none

end FileEntry

namespace FilesSection

def sectionName : String := "Files"

/-- The names in the order of their entries: by their lowercase letters. -/
def sorted (names : List String) : List String :=
  names.mergeSort fun a b => !(Text.lower b < Text.lower a)

def entries (family : String) (names : List String) : List String :=
  (sorted names).filterMap (FileEntry.of? family)

def notes (family : String) (names : List String) : List Note :=
  (sorted names).map fun name =>
    if (FileEntry.of? family name).isSome then .verbose "FILES" s!"File added: {name}"
    else .debug "FILES" s!"Skipped: {name}"

/-- Replaces the body of the section by an empty line and the entries of some files. -/
def rebuild (family : String) (names lines : List String) : List String :=
  match Section.start? sectionName lines with
  | none => lines
  | some start =>
      Lines.insertAt (start + 1) ("" :: entries family names) (Section.clear sectionName lines)

theorem mem_sorted {name : String} {names : List String} : name ∈ sorted names ↔ name ∈ names :=
  (List.mergeSort_perm names _).mem_iff

theorem sorted_perm (names : List String) : (sorted names).Perm names :=
  List.mergeSort_perm names _

end FilesSection

end SetupForge
