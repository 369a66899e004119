import SetupForge.Json.Read
import SetupForge.Settings.EnvFile
import SetupForge.Settings.Resolve
import SetupForge.Yaml.Read

/-! # Settings files

A settings file is JSON if its name ends in `.json`, and YAML otherwise. A file of variables
beside it adds to the environment before the actions are resolved.
-/

namespace SetupForge.SettingsFile

def isJson (path : Path) : Bool := Text.lower path.suffix == ".json"

/-- The failure that a fault of a JSON text leads to. What goes beyond all measure is no fault of
the format. -/
def jsonFailure (path : Path) (text : List Char) (fault : Json.Fault) : Failure :=
  match fault.kind with
  | .tooManyDigits => .tooManyDigits
  | .tooDeep => .tooDeep
  | _ => .settings (.settingsUnreadable path (fault.message text))

def valueOf (path : Path) (text : List Char) : Except Failure Value :=
  if isJson path then (Json.read text).mapError (jsonFailure path text)
  else (Yaml.read text).mapError (Yaml.Fault.failure path)

def readValue (path : Path) : Job Value := do
  if ← Job.hasPath path then
    match valueOf path (← Job.readText path) with
    | .error failure => Job.fail failure
    | .ok .null => Job.reject (.settingsEmpty path)
    | .ok value => pure value
  else Job.reject (.settingsMissing path)

def variablesName : String := ".env"

def setVariables (content : Bytes) : Job Unit := do
  match Utf8.decode? content with
  | none => Job.fail .notUtf8
  | some text =>
      let host ← get
      let (environment, failure?) := EnvFile.extend host.environment (Text.withLineFeeds text)
      set { host with environment }
      match failure? with
      | some failure => Job.fail failure
      | none => pure ()

/-- Adds the variables of the file beside the settings, if there is one. -/
def loadVariables (path : Path) : Job Unit := do
  match ← Job.status (path.parent.child variablesName) with
  | some (.file content) =>
      if EnvFile.isOff (← get).environment then pure () else setVariables content
  | _ => pure ()

/-- Reads a settings file and the variables beside it; its root has to be a mapping. -/
def load (path : Path) : Job Value := do
  let value ← readValue path
  loadVariables path
  if value.isMapping then pure value else Job.reject (.settingsNotMapping path)

def describe (action : Action) : String :=
  let active := (Value.bool action.active).plain
  s!"  {action.displayName}: {action.kind.name} (active={active}, level={action.level.name})"

/-- Loads the actions of a settings file in the order in which they run, and reports on them. -/
def loadActions (path : Path) (workingPath : Option Path) : Job (List Action) := do
  let path ← Job.resolve path
  Job.note (.verbose "CONFIG" s!"Loading settings: {path}")
  let value ← load path
  match ActionTree.resolve (← get).surroundings workingPath value with
  | (.error failure, _) => Job.fail failure
  | (.ok actions, warnings) => do
      Job.notes (warnings.map (.warning "CONFIG"))
      Job.note (.verbose "CONFIG" s!"Resolved {actions.length} action(s)")
      Job.notes (actions.map fun action => .debug "CONFIG" (describe action))
      pure actions

end SetupForge.SettingsFile
