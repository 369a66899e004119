import SetupForge.Path
import SetupForge.Text.Utf8

/-! # Files and folders

A disk holds folders and files by their location, the names from the root down. The
root is always a folder. Paths are followed name by name: every name but the last has
to be a folder, and `..` goes back to the folder above.
-/

namespace SetupForge

/-- The names from the root of the disk down to a file or folder. -/
abbrev Location := List String

inductive Node where
  | folder
  | file (content : Bytes)
deriving DecidableEq, Repr

inductive AccessCause where
  | missing
  | busy
  | occupied
  | notFolder
  | isFolder
  | nameTooLong
deriving DecidableEq, Repr

def AccessCause.code : AccessCause → Nat
  | .missing => 2
  | .busy => 16
  | .occupied => 17
  | .notFolder => 20
  | .isFolder => 21
  | .nameTooLong => 36

def AccessCause.text : AccessCause → String
  | .missing => "No such file or directory"
  | .busy => "Device or resource busy"
  | .occupied => "File exists"
  | .notFolder => "Not a directory"
  | .isFolder => "Is a directory"
  | .nameTooLong => "File name too long"

structure AccessFault where
  cause : AccessCause
  path : Path
  /-- The second path, when something was to be moved. -/
  target : Option Path := none
deriving DecidableEq, Repr

def AccessFault.message (fault : AccessFault) : String :=
  let head := s!"[Errno {fault.cause.code}] {fault.cause.text}: {Text.quoted fault.path.toString}"
  match fault.target with
  | some target => s!"{head} -> {Text.quoted target.toString}"
  | none => head

/-- The files and folders below the root, in the order in which they were made. -/
structure Disk where
  nodes : List (Location × Node) := []
deriving DecidableEq, Repr

namespace Disk

def node? (disk : Disk) (location : Location) : Option Node :=
  if location = [] then some .folder else disk.nodes.lookup location

/-- Replaces the node of a location, or adds it behind all others. -/
def putNode (location : Location) (node : Node) : List (Location × Node) → List (Location × Node)
  | [] => [(location, node)]
  | entry :: nodes =>
      if entry.1 = location then (location, node) :: nodes
      else entry :: putNode location node nodes

def put (disk : Disk) (location : Location) (node : Node) : Disk :=
  ⟨putNode location node disk.nodes⟩

/-- Removes what stands at a location and everything below it. -/
def remove (disk : Disk) (location : Location) : Disk :=
  ⟨disk.nodes.filter fun entry => !location.isPrefixOf entry.1⟩

/-- The names directly below a location with what stands there. -/
def children (disk : Disk) (location : Location) : List (String × Node) :=
  disk.nodes.filterMap fun entry =>
    match entry.1.getLast? with
    | some name => if entry.1.dropLast = location then some (name, entry.2) else none
    | none => none

/-- The most bytes that a name may have. -/
def longestName : Nat := 255

/-- The most bytes that the text of a path may have. -/
def longestPath : Nat := 4095

def enter (folder : Location) (name : String) : Location :=
  if name = ".." then folder.dropLast else folder ++ [name]

/-- Follows names from a folder. The last name need not stand for anything. -/
def follow (disk : Disk) (folder : Location) : List String → Except AccessCause Location
  | [] => .ok folder
  | name :: names =>
      if longestName < name.utf8ByteSize then .error .nameTooLong
      else if names.isEmpty then .ok (enter folder name)
      else
        match disk.node? (enter folder name) with
        | none => .error .missing
        | some (.file _) => .error .notFolder
        | some .folder => follow disk (enter folder name) names

def locate (disk : Disk) (folder : Location) (path : Path) : Except AccessCause Location :=
  if longestPath < path.toString.utf8ByteSize then .error .nameTooLong
  else disk.follow (if path.isAbsolute then [] else folder) path.names

def lookup (disk : Disk) (folder : Location) (path : Path) : Option Node :=
  match disk.locate folder path with
  | .ok location => disk.node? location
  | .error _ => none

def isFolder (disk : Disk) (folder : Location) (path : Path) : Bool :=
  disk.lookup folder path == some .folder

def read (disk : Disk) (folder : Location) (path : Path) : Except AccessFault Bytes :=
  match disk.locate folder path with
  | .error cause => .error { cause, path }
  | .ok location =>
      match disk.node? location with
      | none => .error { cause := .missing, path }
      | some .folder => .error { cause := .isFolder, path }
      | some (.file content) => .ok content

/-- The location of a file to be written: its folder exists and it is no folder itself. -/
def writable (disk : Disk) (folder : Location) (path : Path) : Except AccessCause Location :=
  match disk.locate folder path with
  | .error cause => .error cause
  | .ok location =>
      match disk.node? location, disk.node? location.dropLast with
      | some .folder, _ => .error .isFolder
      | _, some .folder => .ok location
      | _, some (.file _) => .error .notFolder
      | _, none => .error .missing

def write (disk : Disk) (folder : Location) (path : Path) (content : Bytes) :
    Except AccessFault Disk :=
  match disk.writable folder path with
  | .error cause => .error { cause, path }
  | .ok location => .ok (disk.put location (.file content))

def unlink (disk : Disk) (folder : Location) (path : Path) : Except AccessFault Disk :=
  match disk.locate folder path with
  | .error cause => .error { cause, path }
  | .ok location =>
      match disk.node? location with
      | none => .error { cause := .missing, path }
      | some .folder => .error { cause := .isFolder, path }
      | some (.file _) => .ok (disk.remove location)

/-- Moves a file over the one at another path, if there is one. The other path cannot end in
`..`. -/
def rename (disk : Disk) (folder : Location) (path target : Path) : Except AccessFault Disk :=
  match disk.read folder path with
  | .error fault => .error { fault with target := some target }
  | .ok content =>
      match disk.writable folder target, disk.locate folder path with
      | .error cause, _ =>
          let cause := if target.fileName = ".." ∧ cause = .isFolder then .busy else cause
          .error { cause, path, target := some target }
      | _, .error cause => .error { cause, path, target := some target }
      | .ok new, .ok old =>
          .ok (if old = new then disk else (disk.remove old).put new (.file content))

structure Making where
  disk : Disk
  /-- Where the folders made so far lead. -/
  place : Location
  above : List String := []
  hasMade : Bool := false

/-- Makes the folders of some names that are not there yet, for a path that they are part of. What
is made before a fault stays. -/
def makeFolders (path : Path) : Making → List String → Disk × Option AccessFault
  | making, [] => (making.disk, none)
  | making, name :: names =>
      let above := making.above ++ [name]
      let fault (cause : AccessCause) : Disk × Option AccessFault :=
        (making.disk, some { cause, path := if making.hasMade then ⟨path.root, above⟩ else path })
      let place := enter making.place name
      if longestName < name.utf8ByteSize then fault .nameTooLong
      else
        match making.disk.node? place with
        | some .folder => makeFolders path { making with place, above } names
        | some (.file _) =>
            fault (if names.isEmpty || making.hasMade then .occupied else .notFolder)
        | none =>
            makeFolders path ⟨making.disk.put place .folder, place, above, true⟩ names

def makeFolder (disk : Disk) (folder : Location) (path : Path) : Disk × Option AccessFault :=
  if longestPath < path.toString.utf8ByteSize then (disk, some { cause := .nameTooLong, path })
  else makeFolders path { disk, place := if path.isAbsolute then [] else folder } path.names

@[simp] theorem node?_nil (disk : Disk) : disk.node? [] = some .folder := rfl

theorem lookup_putNode (location : Location) (node : Node) (nodes : List (Location × Node)) :
    (putNode location node nodes).lookup location = some node := by
  induction nodes with
  | nil => simp [putNode]
  | cons entry nodes ih =>
      obtain ⟨place, held⟩ := entry
      rw [putNode]
      split
      · simp
      · rename_i h
        have : (location == place) = false := by simpa using fun e => h e.symm
        simp [List.lookup_cons, this, ih]

theorem lookup_putNode_of_ne {location other : Location} (node : Node)
    (nodes : List (Location × Node)) (h : other ≠ location) :
    (putNode location node nodes).lookup other = nodes.lookup other := by
  induction nodes with
  | nil =>
      have : (other == location) = false := by simpa using h
      simp [putNode, List.lookup_cons, this]
  | cons entry nodes ih =>
      obtain ⟨place, held⟩ := entry
      rw [putNode]
      split
      · rename_i he
        have h1 : (other == location) = false := by simpa using h
        have h2 : (other == place) = false := by simpa [show place = location from he] using h
        simp [List.lookup_cons, h1, h2]
      · cases hk : other == place <;> simp [List.lookup_cons, hk, ih]

theorem node?_put {disk : Disk} {location : Location} (node : Node) (h : location ≠ []) :
    (disk.put location node).node? location = some node := by
  simp [node?, put, h, lookup_putNode]

theorem node?_put_of_ne {disk : Disk} {location other : Location} (node : Node)
    (h : other ≠ location) : (disk.put location node).node? other = disk.node? other := by
  simp [node?, put, lookup_putNode_of_ne node disk.nodes h]

end Disk

end SetupForge
