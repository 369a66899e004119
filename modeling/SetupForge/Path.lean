import SetupForge.Text.Quoted
import SetupForge.Text.Search

/-! # Paths

A path is a root and the names below it. Repeated slashes and `.` names do not count;
`..` names are kept. Exactly two leading slashes are a root of their own.
-/

namespace SetupForge

inductive PathRoot where
  | current
  | single
  | double
deriving DecidableEq, Repr

def PathRoot.slashes : PathRoot → String
  | .current => ""
  | .single => "/"
  | .double => "//"

structure Path where
  root : PathRoot := .current
  names : List String := []
deriving DecidableEq, Repr

namespace Path

def namesOf (text : List Char) : List String :=
  ((Text.splitOn '/' text).filter fun name => name ≠ [] ∧ name ≠ ['.']).map String.ofList

def rootOf (text : List Char) : PathRoot :=
  match (text.takeWhile (· = '/')).length with
  | 0 => .current
  | 2 => .double
  | _ => .single

def ofString (text : String) : Path := ⟨rootOf text.toList, namesOf text.toList⟩

/-- The text of a path; the empty path is `.`. -/
def toString (path : Path) : String :=
  let text := path.root.slashes ++ "/".intercalate path.names
  if text.isEmpty then "." else text

instance : ToString Path := ⟨toString⟩

def isAbsolute (path : Path) : Bool := path.root != .current

/-- The second path seen from the first; an absolute second path stands for itself. -/
def join (base path : Path) : Path :=
  if path.isAbsolute then path else ⟨base.root, base.names ++ path.names⟩

def child (path : Path) (name : String) : Path := ⟨path.root, path.names ++ [name]⟩

def parent (path : Path) : Path := ⟨path.root, path.names.dropLast⟩

/-- The last name, or the empty text. -/
def fileName (path : Path) : String := path.names.getLast?.getD ""

/-- Whether the system can take a path: no name holds a character of code zero. -/
def isUsable (path : Path) : Bool := path.names.all fun name => !name.toList.contains '\x00'

/-- The part of a name from its last dot on, unless that dot is its first or last character. -/
def suffixOf (name : String) : String :=
  let tail := (name.toList.reverse.takeWhile (· ≠ '.')).reverse
  if tail.isEmpty || tail.length + 1 ≥ name.toList.length then ""
  else String.ofList ('.' :: tail)

def suffix (path : Path) : String := suffixOf path.fileName

/-- The names with every `..` taking away the name before it. -/
def settle (names : List String) : List String :=
  names.foldl (fun kept name => if name = ".." then kept.dropLast else kept ++ [name]) []

def resolve (folder path : Path) : Path := ⟨.single, settle (folder.join path).names⟩

@[simp] theorem parent_child (path : Path) (name : String) : (path.child name).parent = path := by
  simp [parent, child]

@[simp] theorem fileName_child (path : Path) (name : String) :
    (path.child name).fileName = name := by
  simp [fileName, child]

end Path

end SetupForge
