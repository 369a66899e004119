import SetupForge.Disk
import SetupForge.Policy.BuildLevel

/-! # Failures

Why a job stops. Faults of the settings, of a download and of an outside tool are the
program's own and carry a message; the others come from the system or the values at hand.
-/

namespace SetupForge

def listText (items : List Int) : String :=
  "[" ++ ", ".intercalate (items.map fun item => s!"{item}") ++ "]"

inductive SettingsFault where
  | unknownBuildLevel (value : String)
  | unknownActionType (value : String)
  | scriptMissing (path : Path)
  | fileMissing (path : Path)
  | noPropertyGroup (path : Path)
  | unlistedRuntime (major : Int) (known : List Int)
  | noRuntime (major : Int)
  | majorNotInteger (place value : String)
  | actionNotMapping (place kind : String)
  | actionsNotList (place : String)
  | settingsMissing (path : Path)
  | settingsUnreadable (path : Path) (reason : String)
  | settingsEmpty (path : Path)
  | settingsNotMapping (path : Path)
  | fileNameMissing (field : String)
  | pathMissing (field : String) (path : Path)
  | majorRequired (action : String) (level : BuildLevel)
  | nothingToStamp (action : String)
  | majorOptionRequired (level : BuildLevel)
deriving DecidableEq, Repr

def stampTargetsNeeded : String :=
  "set_version needs csharp_project_filename, inno_script_filename or wap_manifest_filename"

def SettingsFault.message : SettingsFault → String
  | .unknownBuildLevel value => s!"Unknown build level: {value}"
  | .unknownActionType value => s!"Unknown action type: {value}"
  | .scriptMissing path => s!"Setup script not found: {path}"
  | .fileMissing path => s!"File not found: {path}"
  | .noPropertyGroup path => s!"No <PropertyGroup> found in project file: {path}"
  | .unlistedRuntime major known =>
      s!"No runtime installer reference for .NET {major}; known versions: {listText known}"
  | .noRuntime major => s!"No runtime installer reference for .NET {major}"
  | .majorNotInteger place value =>
      s!"{place}: net_major_version must be an integer, got {value}"
  | .actionNotMapping place kind => s!"{place}: action must be a mapping, got {kind}"
  | .actionsNotList place => s!"{place}: 'actions' must be a list"
  | .settingsMissing path => s!"file not found: {path}"
  | .settingsUnreadable path reason => s!"Error parsing settings file: {path}: {reason}"
  | .settingsEmpty path => s!"Settings file is empty: {path}"
  | .settingsNotMapping path => s!"top-level settings must be a mapping (dict): {path}"
  | .fileNameMissing field => s!"{field}: no filename was specified"
  | .pathMissing field path => s!"{field}: path or file not found: {path}"
  | .majorRequired action level =>
      s!"{action}: project_build_level {level.name} needs the .NET major version in " ++
        "'net_major_version'. Publish cancelled."
  | .nothingToStamp action => s!"{action}: {stampTargetsNeeded}"
  | .majorOptionRequired level => s!"--build-level {level.name} requires --runtime-major"

inductive NetworkFault where
  | failed (url reason : String)
  | interrupted (url reason : String)
  | wrongDigest (fileName found expected : String)
deriving DecidableEq, Repr

def NetworkFault.message : NetworkFault → String
  | .failed url reason => s!"download failed for {url}: {reason}"
  | .interrupted url reason => s!"download interrupted for {url}: {reason}"
  | .wrongDigest fileName found expected =>
      s!"sha256 mismatch for {fileName}: got {found}, expected {expected}"

inductive PackagingFault where
  | toolMissing (tool : String)
  | toolTimedOut (tool seconds : String)
  | toolNotStarted (tool reason : String)
  | restoreFailed (project : Path)
  | publishFailed (project : Path)
  | signToolMissing (tool : Path)
  | targetMissing (target : Path)
  | signStepFailed (step target : String)
  | scriptFolderMissing (folder : Path)
  | uninstallerMissing
  | compileFailed (script : Path)
deriving DecidableEq, Repr

def PackagingFault.message : PackagingFault → String
  | .toolMissing tool => s!"Tool not found: {tool}"
  | .toolTimedOut tool seconds => s!"{tool} timed out after {seconds}s"
  | .toolNotStarted tool reason => s!"Could not run {tool}: {reason}"
  | .restoreFailed project => s!"dotnet restore failed for {project}"
  | .publishFailed project => s!"MSBuild publish failed for {project}"
  | .signToolMissing tool =>
      s!"SignTool not found: {tool}. Set SIGNTOOLPATH or sign_tool_filename in the settings file."
  | .targetMissing target => s!"File to sign not found: {target}"
  | .signStepFailed step target => s!"SignTool {step} failed for {target}"
  | .scriptFolderMissing folder => s!"Inno Setup folder not found: {folder}"
  | .uninstallerMissing => "Uninstaller file was not created (no .e32 output)"
  | .compileFailed script => s!"Inno Setup compile failed for {script}"

inductive Failure where
  | settings (fault : SettingsFault)
  | network (fault : NetworkFault)
  /-- A packaging step failed; the tool's output lines are kept. -/
  | packaging (fault : PackagingFault) (output : List String)
  /-- A file or folder could not be used. -/
  | access (fault : AccessFault)
  /-- A file was to be copied onto itself. -/
  | sameFile (source target : Path)
  | notUtf8
  /-- A build level is neither a text nor an integer nor left out. -/
  | levelWithoutText
  | infiniteInteger
  /-- A line index outside the script; inserting names the index. -/
  | indexOutOfRange (inserted : Option Int)
  | malformedReplacement
  /-- A path without a last name cannot take a suffix. -/
  | emptyFileName
  /-- A tagged value that its tag does not allow. -/
  | malformedScalar
  /-- A value tagged as true or false that is no word for either. -/
  | unknownWord
  /-- A value tagged as a date that has not the form of one. -/
  | formlessStamp
  /-- Nothing is left to read from the console. -/
  | noInput
  | unsettableVariable
  | homeUnknown
  /-- A path that the system cannot take. -/
  | unusablePath
  | oversizedNumber
  /-- An integer of more digits than may be read or written. -/
  | tooManyDigits
  /-- A value of a kind that cannot be used here. -/
  | wrongKind
  /-- Values inside values beyond all measure. -/
  | tooDeep
  /-- An address whose authority has no meaning. -/
  | unreadableAddress
  /-- A text with a character that one byte cannot hold. -/
  | unencodable
  /-- A response that tells several lengths. -/
  | contradictoryLength
deriving DecidableEq, Repr

/-- The message of the failures that are the program's own. -/
def Failure.ownMessage? : Failure → Option String
  | .settings fault => some fault.message
  | .network fault => some fault.message
  | .packaging fault _ => some fault.message
  | _ => none

/-- What a failure says that is a fault of the settings, of a download or of the disk. -/
def Failure.reason? : Failure → Option String
  | .settings fault => some fault.message
  | .network fault => some fault.message
  | .access fault => some fault.message
  | .sameFile source target =>
      let text (path : Path) : String := s!"PosixPath({Text.quoted path.toString})"
      some s!"{text source} and {text target} are the same file"
  | _ => none

def Failure.isOwn (failure : Failure) : Bool := failure.ownMessage?.isSome

end SetupForge
