import SetupForge.CommandLine.Execute
import Std.Time

/-! # The program

The files below the current folder are read into a host, the command line is carried out
there, and what changed is written back. The host starts no tools and reaches no server.
-/

namespace SetupForge.Program

def locationOf (path : String) : Location := (Path.ofString path).names

def systemPath (location : Location) : String := "/" ++ "/".intercalate location

def foldersTo (location : Location) : List (Location × Node) :=
  (List.range location.length).map fun depth => (location.take (depth + 1), .folder)

/-- Reads the files and folders below a folder. -/
partial def readBelow (location : Location) : IO (List (Location × Node)) := do
  let folder ← IO.FS.realPath (systemPath location)
  let mut nodes := []
  for entry in ← folder.readDir do
    let below := location ++ [entry.fileName]
    if ← entry.path.isDir then
      nodes := nodes ++ (below, Node.folder) :: (← readBelow below)
    else
      let content ← IO.FS.readBinFile entry.path
      nodes := nodes ++ [(below, .file content.toList)]
  return nodes

def settingsEndings : List String := [".yaml", ".yml", ".json", ".env"]

/-- The variables that settings below a folder can name, as far as they are set. -/
def readVariables (disk : Disk) : IO Environment := do
  let mut names := ["HOME", "SIGNTOOLPATH"]
  for (location, node) in disk.nodes do
    if settingsEndings.any fun ending => (systemPath location).endsWith ending then
      if let .file content := node then
        let words := Text.words ((Utf8.decode? content).getD [])
        names := names ++ words.map String.ofList
  let mut known := []
  for name in names.eraseDups do
    if let some value ← IO.getEnv name then
      known := known ++ [(name, value)]
  return known

def readHost : IO Host := do
  let folder := locationOf (← IO.currentDir).toString
  let disk : Disk := ⟨foldersTo folder ++ (← readBelow folder)⟩
  let now ← Std.Time.PlainDateTime.now
  let clock : Moment :=
    ⟨now.year.toInt.toNat, now.month.toNat, now.day.toNat, now.hour.toNat, now.minute.toNat⟩
  return { disk, folder, environment := ← readVariables disk, clock, input := [""] }

def writeChanges (before after : Disk) : IO Unit := do
  for (location, node) in after.nodes do
    if before.node? location ≠ some node then
      match node with
      | .folder => IO.FS.createDirAll (systemPath location)
      | .file content => IO.FS.writeBinFile (systemPath location) ⟨content.toArray⟩
  for (location, node) in before.nodes.reverse do
    if (after.node? location).isNone then
      match node with
      | .folder => IO.FS.removeDir (systemPath location)
      | .file _ => IO.FS.removeFile (systemPath location)

def run (arguments : List String) : IO UInt32 := do
  let before ← readHost
  let (result, after) := (CommandLine.execute arguments).on before
  writeChanges before.disk after.disk
  let console := some (CommandLine.consoleFor arguments)
  IO.print (streamText console .output after.said)
  IO.eprint (streamText console .problems after.said)
  if after.input.isEmpty then
    let _ ← (← IO.getStdin).getLine
  match result with
  | .ok code => return code.toUInt32
  | .error failure => do
      let reason := failure.reason?.getD "the command stopped"
      IO.eprintln s!"Error: {reason}"
      return 1

end SetupForge.Program

def main (arguments : List String) : IO UInt32 := SetupForge.Program.run arguments
