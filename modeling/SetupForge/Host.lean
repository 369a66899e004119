import SetupForge.Failure
import SetupForge.Journal
import SetupForge.Text.Digit
import SetupForge.Text.Lines

/-! # The machine that a job runs on

A host holds everything that a job can see or change: the disk, the current folder, the
environment, the clock, the answers that tools and servers will give, and a record of what
happened to the disk, of the processes started and of what was said. A job is a function on
hosts that may fail; a failed job keeps what it changed.
-/

namespace SetupForge

/-- A minute of local time. -/
structure Moment where
  year : Nat
  month : Nat
  day : Nat
  hour : Nat
  minute : Nat
deriving DecidableEq, Repr

/-- Variables by name; the first entry of a name counts. -/
abbrev Environment := List (String × String)

/-- What texts of settings can refer to. -/
structure Surroundings where
  environment : Environment := []
  /-- The home folder of the account, as far as the system knows the account. -/
  accountHome : Option String := none
deriving DecidableEq, Repr

instance : Coe Environment Surroundings := ⟨fun environment => { environment }⟩

inductive ToolResult where
  | finished (output problems : String) (code : Int)
  | missing
  | timedOut (seconds : Option String)
  | notStarted (reason : String)
deriving DecidableEq, Repr

/-- What a process does: its result, and the files it writes or deletes meanwhile. -/
structure ToolRun where
  result : ToolResult
  writes : List (Path × Option Bytes) := []
deriving DecidableEq, Repr

structure ProcessStart where
  tool : String
  arguments : List String
  folder : Option Path := none
deriving DecidableEq, Repr

/-- What a job did to the disk, or a process that it started, with the disk right before. -/
inductive Event where
  | change (before : Disk)
  | start (process : ProcessStart) (found : Disk)
deriving DecidableEq, Repr

namespace Event

def disk : Event → Disk
  | .change before => before
  | .start _ found => found

def start? : Event → Option (ProcessStart × Disk)
  | .change _ => none
  | .start process found => some (process, found)

end Event

inductive Reply where
  | response (status : Nat) (reason : Option String) (headers : List (String × String))
      (body : Bytes)
  | failure (reason : String)
  /-- The head of the response comes, and reading its body fails behind the part that was
  received. -/
  | interrupted (problem : String) (status : Nat := 200) (reason : Option String := some "OK")
      (headers : List (String × String) := []) (received : Bytes := [])
deriving DecidableEq, Repr

structure Host where
  disk : Disk := {}
  folder : Location := []
  environment : Environment := []
  accountHome : Option String := none
  clock : Moment := ⟨2026, 10, 19, 14, 5⟩
  /-- What the processes still to be started will do, in order. -/
  toolRuns : List ToolRun := []
  /-- What servers answer, by address; of several replies to an address the last counts. -/
  web : List (String × Reply) := []
  /-- How long a download takes, in tenths of a second. -/
  downloadTenths : Nat := 0
  /-- The changes of the disk and the starts of processes so far, in order. -/
  history : List Event := []
  requested : List String := []
  said : List Utterance := []
  /-- Lines that the console still has to give. -/
  input : List String := []

abbrev Job := ExceptT Failure (StateM Host)

namespace Host

def folderPath (host : Host) : Path := ⟨.single, host.folder⟩

/-- What stands at a path, if anything does. Only a name that is too long is a fault. -/
def status (host : Host) (path : Path) : Except AccessFault (Option Node) :=
  match host.disk.locate host.folder path with
  | .ok location => .ok (host.disk.node? location)
  | .error .nameTooLong => .error { cause := .nameTooLong, path }
  | .error _ => .ok none

def isFolder (host : Host) (path : Path) : Bool := host.disk.isFolder host.folder path

def fileName? : String × Node → Option String
  | (name, .file _) => some name
  | (_, .folder) => none

/-- The names of the files directly in a folder, in the order of the disk. What stands there is
looked at by its path, which must not be too long. -/
def fileNames (host : Host) (path : Path) : Except AccessFault (List String) :=
  match host.disk.locate host.folder path with
  | .error cause => .error { cause, path }
  | .ok location =>
      let children := host.disk.children location
      match children.find? fun (name, _) =>
          Disk.longestPath < (path.child name).toString.utf8ByteSize with
      | some (name, _) => .error { cause := .nameTooLong, path := path.child name }
      | none => .ok (children.filterMap fileName?)

def surroundings (host : Host) : Surroundings :=
  { environment := host.environment, accountHome := host.accountHome }

def starts (host : Host) : List (ProcessStart × Disk) := host.history.filterMap Event.start?

def started (host : Host) : List ProcessStart := host.starts.map (·.1)

/-- The host with another disk; the one that it had goes into the history. -/
def withDisk (host : Host) (disk : Disk) : Host :=
  { host with disk, history := host.history ++ [.change host.disk] }

/-- Applies the writes of a process; one that is not possible has no effect. -/
def applyWrite (host : Host) : Path × Option Bytes → Host
  | (path, some content) =>
      let host := host.withDisk (host.disk.makeFolder host.folder path.parent).1
      match host.disk.write host.folder path content with
      | .ok disk => host.withDisk disk
      | .error _ => host
  | (path, none) =>
      match host.disk.unlink host.folder path with
      | .ok disk => host.withDisk disk
      | .error _ => host

end Host

namespace Job

def on (job : Job α) (host : Host) : Except Failure α × Host := (job.run).run host

def fail (failure : Failure) : Job α := throw failure

/-- Runs a job to its end or its failure, and goes on in either case. -/
def attempt (job : Job α) : Job (Except Failure α) := ExceptT.lift (ExceptT.run job)

def reject (fault : SettingsFault) : Job α := throw (.settings fault)

/-- Stops if a number has too many digits to be written. -/
def requireText (n : Int) : Job Unit :=
  if Text.hasText n then pure () else fail .tooManyDigits

def say (utterance : Utterance) : Job Unit :=
  modify fun host => { host with said := host.said ++ [utterance] }

def note (message : Note) : Job Unit := say (.note message)

def notes (messages : List Note) : Job Unit :=
  modify fun host => { host with said := host.said ++ messages.map .note }

def print (line : String) : Job Unit := say (.text .output (line ++ "\n"))

/-- Refuses a path that the system cannot take. -/
def usable (path : Path) : Job Unit :=
  if path.isUsable then pure () else fail .unusablePath

def status (path : Path) : Job (Option Node) := do
  if path.isUsable then
    match (← get).status path with
    | .ok node? => pure node?
    | .error fault => fail (.access fault)
  else pure none

def hasPath (path : Path) : Job Bool := return (← status path).isSome

def isFolder (path : Path) : Job Bool := return (← status path) == some .folder

def fileNames (path : Path) : Job (List String) := do
  match (← get).fileNames path with
  | .ok names => pure names
  | .error fault => fail (.access fault)

def resolve (path : Path) : Job Path := do
  usable path
  return Path.resolve (← get).folderPath path

def onDisk (operation : Disk → Location → Except AccessFault Disk) : Job Unit := do
  let host ← get
  match operation host.disk host.folder with
  | .ok disk => set (host.withDisk disk)
  | .error fault => fail (.access fault)

def load (path : Path) : Job Bytes := do
  usable path
  let host ← get
  match host.disk.read host.folder path with
  | .ok content => pure content
  | .error fault => fail (.access fault)

def store (path : Path) (content : Bytes) : Job Unit := do
  usable path
  onDisk fun disk folder => disk.write folder path content

def makeFolder (path : Path) : Job Unit := do
  usable path
  let host ← get
  let (disk, fault?) := host.disk.makeFolder host.folder path
  set (host.withDisk disk)
  match fault? with
  | some fault => fail (.access fault)
  | none => pure ()

/-- Moves a file over the one at another path, if there is one. -/
def rename (path target : Path) : Job Unit := do
  usable path
  usable target
  onDisk fun disk folder => disk.rename folder path target

/-- Copies a file to another path, or into the folder that is there. -/
def copy (source target : Path) : Job Unit := do
  let host ← get
  let target := if host.isFolder target then target.child source.fileName else target
  usable source
  usable target
  match host.disk.locate host.folder source, host.disk.locate host.folder target with
  | .ok old, .ok new =>
      if old = new && (host.disk.node? old).isSome then fail (.sameFile source target)
      else do store target (← load source)
  | _, _ => do store target (← load source)

def unlink (path : Path) : Job Unit := do
  usable path
  onDisk fun disk folder => disk.unlink folder path

/-- The text of a file that has to be UTF-8, after an optional mark, with line feeds for all
line ends. -/
def readText (path : Path) : Job (List Char) := do
  let content ← load path
  match Utf8.decodeMarked? content with
  | some text => pure (Text.withLineFeeds text)
  | none => fail .notUtf8

@[simp] theorem on_pure (value : α) (host : Host) :
    (pure value : Job α).on host = (.ok value, host) := rfl

@[simp] theorem on_get (host : Host) : (get : Job Host).on host = (.ok host, host) := rfl

@[simp] theorem on_set (new host : Host) : (set new : Job PUnit).on host = (.ok ⟨⟩, new) := rfl

@[simp] theorem on_fail (failure : Failure) (host : Host) :
    (fail failure : Job α).on host = (.error failure, host) := rfl

theorem on_bind (job : Job α) (next : α → Job β) (host : Host) :
    (job >>= next).on host =
      match job.on host with
      | (.ok value, host) => (next value).on host
      | (.error failure, host) => (.error failure, host) := by
  simp only [on, ExceptT.run_bind, StateT.run_bind]
  cases h : (job.run).run host with
  | mk result after => cases result <;> rfl

@[simp] theorem on_attempt (job : Job α) (host : Host) :
    (attempt job).on host = (.ok (job.on host).1, (job.on host).2) := rfl

@[simp] theorem on_note (message : Note) (host : Host) :
    (note message).on host = (.ok (), { host with said := host.said ++ [.note message] }) := rfl

end Job

end SetupForge
