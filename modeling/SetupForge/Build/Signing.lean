import SetupForge.Build.Tool

/-! # Signing

A file is signed, gets a time stamp, and is verified, each by a run of the signing tool.
The certificate is a file with its password, or else one of the store by its thumbprint, or
else the one that the tool finds best.
-/

namespace SetupForge

structure SigningSettings where
  tool : Path
  certificate : String := ""
  password : String := ""
  thumbprint : String := ""
  timestampUrl : String := "http://timestamp.digicert.com"
deriving DecidableEq, Repr

namespace SigningSettings

inductive Mode where
  | file
  | thumbprint
  | automatic
deriving DecidableEq, Repr

def Mode.name : Mode → String
  | .file => "pfx"
  | .thumbprint => "thumbprint"
  | .automatic => "auto"

/-- The mode of some settings: a certificate file counts only with its password. -/
def mode (settings : SigningSettings) : Mode :=
  if !settings.certificate.isEmpty && !settings.password.isEmpty then .file
  else if !settings.thumbprint.isEmpty then .thumbprint
  else .automatic

end SigningSettings

namespace Signing

def automaticTimestampUrl : String := "http://timestamp.globalsign.com/?signature=sha2"

def signArguments (target : Path) (settings : SigningSettings) : List String :=
  match settings.mode with
  | .file =>
      ["sign", "/f", settings.certificate, "/p", settings.password, "/fd", "sha256", "/a",
        target.toString]
  | .thumbprint =>
      ["sign", "/v", "/sha1", settings.thumbprint, "/fd", "sha256", "/a", target.toString]
  | .automatic =>
      ["sign", "/fd", "sha256", "/tr", automaticTimestampUrl, "/td", "sha256", "/a",
        target.toString]

def timestampArguments (target : Path) (settings : SigningSettings) : List String :=
  ["timestamp", "/tr", settings.timestampUrl, "/td", "SHA256", target.toString]

def verifyArguments (target : Path) : List String := ["verify", "/pa", target.toString]

def runStep (settings : SigningSettings) (target : Path) (step : String)
    (arguments : List String) (success : ToolOutput.Success) : Job Unit :=
  Tool.runChecked settings.tool.toString arguments none success
    (.signStepFailed step target.toString)

/-- Signs and verifies a file. The tool and the file have to exist. -/
def signAndVerify (target : Path) (settings : SigningSettings) : Job Unit := do
  if !(← Job.hasPath settings.tool) then
    Job.fail (.packaging (.signToolMissing settings.tool) [])
  if !(← Job.hasPath target) then
    Job.fail (.packaging (.targetMissing target) [])
  Job.note (.verbose "SIGN" s!"Signing {target.fileName} ({settings.mode.name})")
  runStep settings target "sign" (signArguments target settings) .signed
  runStep settings target "timestamp" (timestampArguments target settings) .timestamped
  runStep settings target "verify" (verifyArguments target) .verified
  Job.note (.verbose "SIGN" s!"[OK] Signed and verified: {target.fileName}")

end Signing

end SetupForge
