import SetupForge.Build.Run
import SetupForge.CommandLine.Command
import SetupForge.Settings.Check

/-! # Carrying out commands

A command prints what it did and ends with an exit code: zero for success, one for failure,
and two for arguments that make no sense.
-/

namespace SetupForge

namespace Command

abbrev ExitCode := Nat

def column (width : Nat) (text : String) : String :=
  text ++ String.ofList (List.replicate (width - text.length) ' ')

def printAll (lines : List String) : Job Unit := Job.say (.text .output (lines.foldr
  (fun line text => line ++ "\n" ++ text) ""))

def rule : String := String.ofList (List.replicate 70 '=')

/-- The line that stands for where a failure came from. -/
def traceLine : String := "<traceback>"

def trace (console : Console) : Job Unit :=
  if console.verbose || console.debug then Job.say (.text .problems (traceLine ++ "\n"))
  else pure ()

def waitPrompt : String := "Press [Enter] to exit..."

def waitForLine : Job Unit := do
  Job.say (.text .output waitPrompt)
  let host ← get
  match host.input with
  | [] => Job.fail .noInput
  | _ :: input => set { host with input }

/-- Waits if the command says so, and ends. -/
def leave (wait : Bool) (code : ExitCode) : Job ExitCode := do
  if wait then waitForLine
  return code

def pathOf (argument : String) : Job Path := Job.resolve (Path.ofString argument)

/-- The working path that an argument means; an empty one means none. -/
def workingPathOf : Option String → Job (Option Path)
  | none => pure none
  | some argument => do if argument.isEmpty then pure none else return some (← pathOf argument)

/-- The lines on an outcome: its result, and what a failure says. -/
def outcomeLines (outcome : Outcome) : List String :=
  let { name, kind, ending } := outcome
  let result := column 30 name ++ " " ++ column 22 kind.name ++ " " ++ ending.status
  match ending with
  | .failed "" => [result]
  | .failed message => [result, s!"  [X] {message}"]
  | _ => [result]

def hasFailed (outcome : Outcome) : Bool :=
  match outcome.ending with
  | .failed _ => true
  | _ => false

def runLines (outcomes : List Outcome) : List String :=
  let failed := (outcomes.filter hasFailed).length
  [rule, "RUN RESULTS", rule] ++ outcomes.flatMap outcomeLines ++
    [rule, "",
      if failed = 0 then "[SUCCESS] All actions completed!"
      else s!"[FAILED] {failed} of {outcomes.length} action(s) failed."]

def runCode (outcomes : List Outcome) : ExitCode := if outcomes.any hasFailed then 1 else 0

def giveUp (message : String) : Job Unit := do
  Job.print s!"Error: {message}"
  Job.say (.text .output CommandLine.Verb.run.grammar.usageText)

def executeRun (config : String) (workingPath : Option String) (wait : Bool) (console : Console) :
    Job ExitCode := do
  let path ← pathOf config
  let workingPath ← workingPathOf workingPath
  if ← Job.hasPath path then
    printAll [s!"Running settings: {path}", ""]
    match ← Job.attempt (SettingsFile.loadActions path workingPath) with
    | .ok actions => do
        let outcomes ← Action.runAll actions
        printAll (runLines outcomes)
        leave wait (runCode outcomes)
    | .error (.settings fault) => do
        giveUp fault.message
        trace console
        leave wait 1
    | .error failure => Job.fail failure
  else do
    giveUp s!"Settings file not found: {path}"
    leave wait 1

/-- A headed list and a blank line, or nothing if there are no items. -/
def listLines (heading sign : String) (items : List String) : List String :=
  if items.isEmpty then []
  else s!"{heading} ({items.length}):" :: items.map (fun item => s!"  [{sign}] {item}") ++ [""]

def checkLines (report : Check.Report) : List String :=
  let status := if report.isValid then "VALID" else "INVALID"
  [rule, "VALIDATION RESULTS", rule, s!"Settings:      {report.path}",
    s!"Status:        {status}", s!"Action Count:  {report.actionCount}", ""] ++
    listLines "Warnings" "WARNING" report.warnings ++ listLines "Errors" "X" report.errors ++
    [rule, "",
      if report.isValid then "[SUCCESS] Settings are valid!"
      else s!"[FAILED] Settings validation failed with {report.errors.length} error(s)."]

def executeValidate (config : String) (workingPath : Option String) (verbose : Bool) :
    Job ExitCode := do
  let path ← pathOf config
  let workingPath ← workingPathOf workingPath
  printAll [s!"Validating settings: {path}", ""]
  let report ← Check.settingsFile path workingPath verbose
  printAll (checkLines report)
  return if report.isValid then 0 else 1

def syncScript (script folder : Path) (buildLevel : String) (major : Int) :
    Job (BuildLevel × Bool) := do
  match BuildLevel.ofValue (.text buildLevel) with
  | .error failure => Job.fail failure
  | .ok level => do
      if level.providesRuntime && major = 0 then Job.reject (.majorOptionRequired level)
      return (level, ← Sync.script { major, level, folder } script)

def executeSync (script inputDir buildLevel : String) (major : Int) (console : Console) :
    Job ExitCode := do
  let script ← pathOf script
  let folder ← pathOf inputDir
  match ← Job.attempt (syncScript script folder buildLevel major) with
  | .ok (level, changed) => do
      let status := if changed then "updated" else "unchanged"
      printAll
        [rule, "SYNC RESULTS", rule, s!"Script:        {script}", s!"Input Folder:  {folder}",
          s!"Build Level:   {level.name}", s!"Status:        {status}", rule, "",
          "[SUCCESS] Script synchronized!"]
      return 0
  | .error failure =>
      match failure.ownMessage? with
      | none => Job.fail failure
      | some message => do
          Job.print s!"Error: {message}"
          trace console
          return 1

def execute : Command → Job ExitCode
  | .run config workingPath wait console => executeRun config workingPath wait console
  | .validate config workingPath verbose => executeValidate config workingPath verbose
  | .sync script inputDir buildLevel major console =>
      executeSync script inputDir buildLevel major console

end Command

namespace CommandLine

def Stop.say : Stop → Job Unit
  | .explained grammar => Job.say (.text .output grammar.helpText)
  | .versionAsked => Job.print versionLine
  | .refused grammar complaint =>
      Job.say (.text .problems
        (grammar.usageText ++ s!"{grammar.name}: error: {complaint.message}\n"))

def Stop.code : Stop → Command.ExitCode
  | .explained _ => 0
  | .versionAsked => 0
  | .refused _ _ => 2

def consoleFor (arguments : List String) : Console :=
  match understand arguments with
  | .ok command => command.console
  | .error _ => {}

def execute (arguments : List String) : Job Command.ExitCode :=
  match understand arguments with
  | .ok command => command.execute
  | .error stop => do
      stop.say
      return stop.code

end CommandLine

end SetupForge
