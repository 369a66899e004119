import SetupForge.Build.Signing
import SetupForge.Policy.Runtime
import SetupForge.Settings.Resolve

/-! # Paths of actions

The paths of an action are relative to its working path, unless they name a drive, a share
or a root.
-/

namespace SetupForge.SettingsPath

def isShare (text : List Char) : Bool :=
  ['\\', '\\'].isPrefixOf text || ['/', '/'].isPrefixOf text

def isQualified (text : List Char) : Bool :=
  text.contains ':' || isShare text || (Path.ofString (String.ofList text)).isAbsolute

def dropSlashes (text : List Char) : List Char := text.dropWhile fun c => c = '\\' || c = '/'

def absolute (relative workingPath : String) : String :=
  if relative.isEmpty then workingPath
  else if workingPath.isEmpty || isQualified relative.toList then relative
  else
    let names := Path.ofString (String.ofList (dropSlashes relative.toList))
    ((Path.ofString workingPath).join names).toString

/-- The absolute path of a text seen from a working path. -/
def located (host : Host) (relative workingPath : String) : Path :=
  host.folderPath.join (Path.ofString (absolute relative workingPath))

/-- The path of a field that has to be set. Unless it can be made, something has to be there. -/
def required (field relative workingPath : String) (canCreate : Bool) : Job Path := do
  if relative.isEmpty then Job.reject (.fileNameMissing field)
  else
    let path := located (← get) relative workingPath
    let isThere ← if canCreate then pure true else Job.hasPath path
    if isThere then pure path else Job.reject (.pathMissing field path)

def optional (field relative workingPath : String) (canCreate : Bool) : Job (Option Path) :=
  if relative.isEmpty then pure none
  else do return some (← required field relative workingPath canCreate)

def requiredField (action : Action) (field : TextField) (canCreate : Bool := false) : Job Path :=
  required field.name (action.text field) (action.text .workingPath) canCreate

def optionalField (action : Action) (field : TextField) (canCreate : Bool := false) :
    Job (Option Path) :=
  optional field.name (action.text field) (action.text .workingPath) canCreate

end SettingsPath

namespace Action

def runtime (action : Action) : RuntimeSettings :=
  let base : RuntimeSettings := { downloadUrl := action.text .runtimeDownloadUrl }
  let folder := action.text .runtimeResourceDir
  if folder.isEmpty then base
  else
    { base with
      resourceFolder :=
        Path.ofString (SettingsPath.absolute folder (action.text .workingPath)) }

/-- What an action says about signing. A certificate file has to exist. -/
def signing (action : Action) : Job SigningSettings := do
  let certificate ← SettingsPath.optionalField action .certFilename
  let base : SigningSettings :=
    { tool := Path.ofString (action.text .signToolFilename)
      certificate := (certificate.map Path.toString).getD ""
      password := action.text .certPassword
      thumbprint := action.text .shaThumbprint }
  let url := action.text .certTimestampUrl
  pure (if url.isEmpty then base else { base with timestampUrl := url })

end Action

end SetupForge
