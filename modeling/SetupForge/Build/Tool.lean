import SetupForge.Build.ToolOutput
import SetupForge.Host

/-! # Running tools

A tool runs to its end and its output is kept line by line. One that cannot be started or
takes too long is a failure.
-/

namespace SetupForge.Tool

/-- The lines of a tool's output, without blanks at their ends. -/
def outputLines (text : String) : List String := (Text.consoleLines text).map Text.trimEnd

/-- What the process does that is started next. None is left over when nothing is known. -/
def nextRun (host : Host) : ToolRun := host.toolRuns.headD ⟨.missing, []⟩

def afterStart (start : ProcessStart) (host : Host) : Host :=
  (nextRun host).writes.foldl Host.applyWrite
    { host with
      toolRuns := host.toolRuns.tail
      history := host.history ++ [.start start host.disk] }

def start (start : ProcessStart) : Job ToolResult := do
  let host ← get
  set (afterStart start host)
  pure (nextRun host).result

def outputNotes (lines : List String) (code : Int) : List Note :=
  lines.map (fun line => .debug "TOOL" s!"  {line}") ++ [.debug "TOOL" s!"Exit code: {code}"]

def noLimit : String := "None"

/-- Runs a tool and gives the lines of its output, those of the problems last. -/
def run (tool : String) (arguments : List String) (folder : Option Path)
    (limit : Option String) : Job (List String) := do
  let command := " ".intercalate (tool :: arguments)
  Job.note (.verbose "TOOL" s!"Running: {command}")
  match ← start { tool, arguments, folder } with
  | .missing => Job.fail (.packaging (.toolMissing tool) [])
  | .timedOut seconds =>
      let name := (Path.ofString tool).fileName
      Job.fail (.packaging (.toolTimedOut name ((seconds.or limit).getD noLimit)) [])
  | .notStarted reason => Job.fail (.packaging (.toolNotStarted tool reason) [])
  | .finished output problems code => do
      let lines := outputLines output ++ outputLines problems
      Job.notes (outputNotes lines code)
      pure lines

/-- Runs a tool that has to report a success; its output goes with the failure. -/
def runChecked (tool : String) (arguments : List String) (folder : Option Path)
    (success : ToolOutput.Success) (fault : PackagingFault) : Job Unit := do
  let lines ← run tool arguments folder none
  if ToolOutput.reports success lines then pure ()
  else Job.fail (.packaging fault lines)

end SetupForge.Tool
