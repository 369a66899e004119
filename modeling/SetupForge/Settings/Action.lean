import SetupForge.Policy.BuildLevel
import SetupForge.Text.Search

/-! # Actions

An action is one job of a settings file with everything that it needs to know. Most of
what it knows are texts, kept by field; unset ones are empty.
-/

namespace SetupForge

inductive ActionKind where
  | none
  | compileAndPublish
  | setPackageFiles
  | setVersion
deriving DecidableEq, Repr

namespace ActionKind

def all : List ActionKind := [.none, .compileAndPublish, .setPackageFiles, .setVersion]

def name : ActionKind → String
  | .none => "none"
  | .compileAndPublish => "compile_and_publish"
  | .setPackageFiles => "set_package_files"
  | .setVersion => "set_version"

def ofName? (name : String) : Option ActionKind := all.find? (·.name == name)

/-- A name without underscores and hyphens, in lowercase. -/
def key (name : List Char) : List Char :=
  Text.lowerChars (name.filter fun c => c ≠ '_' ∧ c ≠ '-')

/-- The kind that a text names: case, separators and blanks at the ends do not matter, and a
text of nothing else is no kind. -/
def ofText? (text : String) : Option ActionKind :=
  let wanted := key (Text.trimChars text.toList)
  if wanted.isEmpty then some .none
  else all.find? fun kind => key kind.name.toList == wanted

end ActionKind

inductive TextField where
  | workingPath
  | certFilename
  | certPassword
  | certTimestampUrl
  | shaThumbprint
  | signToolFilename
  | csharpProjectFilename
  | csharpPublishSettingsFilename
  | csharpSolutionFilename
  | exeFilename
  | setupFilename
  | innoScriptFilename
  | innoSetupCompilerFilename
  | innoVersionVariable
  | inputFoldername
  | outputFilename
  | outputFoldername
  | projectFoldername
  | projectName
  | versionFilename
  | wapManifestFilename
  | runtimeDownloadUrl
  | runtimeResourceDir
  | value
deriving DecidableEq, Repr

namespace TextField

def all : List TextField := [
  .workingPath, .certFilename, .certPassword, .certTimestampUrl, .shaThumbprint,
  .signToolFilename, .csharpProjectFilename, .csharpPublishSettingsFilename,
  .csharpSolutionFilename, .exeFilename, .setupFilename, .innoScriptFilename,
  .innoSetupCompilerFilename, .innoVersionVariable, .inputFoldername, .outputFilename,
  .outputFoldername, .projectFoldername, .projectName, .versionFilename,
  .wapManifestFilename, .runtimeDownloadUrl, .runtimeResourceDir, .value]

def name : TextField → String
  | .workingPath => "working_path"
  | .certFilename => "cert_filename"
  | .certPassword => "cert_password"
  | .certTimestampUrl => "cert_timestamp_url"
  | .shaThumbprint => "sha_thumbprint"
  | .signToolFilename => "sign_tool_filename"
  | .csharpProjectFilename => "csharp_project_filename"
  | .csharpPublishSettingsFilename => "csharp_publish_settings_filename"
  | .csharpSolutionFilename => "csharp_solution_filename"
  | .exeFilename => "exe_filename"
  | .setupFilename => "setup_filename"
  | .innoScriptFilename => "inno_script_filename"
  | .innoSetupCompilerFilename => "inno_setup_compiler_filename"
  | .innoVersionVariable => "inno_version_variable"
  | .inputFoldername => "input_foldername"
  | .outputFilename => "output_filename"
  | .outputFoldername => "output_foldername"
  | .projectFoldername => "project_foldername"
  | .projectName => "project_name"
  | .versionFilename => "version_filename"
  | .wapManifestFilename => "wap_manifest_filename"
  | .runtimeDownloadUrl => "runtime_download_url"
  | .runtimeResourceDir => "runtime_resource_dir"
  | .value => "value"

/-- Whether variables are expanded in a field: in all paths and in the secrets. -/
def isExpanded : TextField → Bool
  | .certTimestampUrl => false
  | .innoVersionVariable => false
  | .projectName => false
  | .runtimeDownloadUrl => false
  | .value => false
  | _ => true

theorem mem_all (field : TextField) : field ∈ all := by
  cases field <;> decide

end TextField

structure Action where
  name : String := ""
  kind : ActionKind := .none
  active : Bool := true
  remarks : List String := []
  options : List String := []
  /-- The text of a field, empty when it is unset. -/
  text : TextField → String := fun _ => ""
  /-- The .NET major version, zero when it is unset. -/
  major : Int := 0
  level : BuildLevel := .none

namespace Action

def withText (action : Action) (field : TextField) (text : String) : Action :=
  { action with text := fun other => if other = field then text else action.text other }

def displayName (action : Action) : String :=
  if action.name.isEmpty then action.kind.name else action.name

def optionKey (name : List Char) : List Char := Text.lowerChars (Text.trimChars name)

/-- The value of an option text if it has the name: what follows its first colon. -/
def optionValue? (name : String) (option : String) : Option String :=
  let (before, after) := (Text.cut? [':'] option.toList).getD (option.toList, [])
  if optionKey before == optionKey name.toList then
    some (String.ofList (Text.trimChars after))
  else none

/-- The value of the first option of a name, or the empty text. -/
def option (action : Action) (name : String) : String :=
  (action.options.findSome? (optionValue? name)).getD ""

def yesTexts : List String := ["1", "true", "yes", "on", "y", "t"]

def meansYes (text : String) : Bool := Text.lower (Text.trim text) ∈ yesTexts

def optionEnabled (action : Action) (name : String) : Bool := meansYes (action.option name)

@[simp] theorem text_withText_self (action : Action) (field : TextField) (text : String) :
    (action.withText field text).text field = text := by
  simp [withText]

theorem text_withText_of_ne {action : Action} {field other : TextField} (text : String)
    (h : other ≠ field) : (action.withText field text).text other = action.text other := by
  simp [withText, h]

end Action

end SetupForge
