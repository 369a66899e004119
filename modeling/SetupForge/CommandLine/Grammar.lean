import SetupForge.Text.Digit

/-! # The grammar of the command line

The program takes options and a command; what follows the command is read by the command's
own grammar. A grammar lists its options, says what it takes besides them, and explains
itself.
-/

namespace SetupForge.CommandLine

inductive Switch where
  | help
  | version
  | config
  | workingPath
  | wait
  | verbose
  | debug
  | inputDir
  | buildLevel
  | runtimeMajor
deriving DecidableEq, Repr

namespace Switch

/-- How an option is written, the short form first. -/
def spellings : Switch → List String
  | .help => ["-h", "--help"]
  | .version => ["--version"]
  | .config => ["--config"]
  | .workingPath => ["--working-path"]
  | .wait => ["--wait"]
  | .verbose => ["-v", "--verbose"]
  | .debug => ["-d", "--debug"]
  | .inputDir => ["--input-dir"]
  | .buildLevel => ["--build-level"]
  | .runtimeMajor => ["--runtime-major"]

def title (switch : Switch) : String := "/".intercalate switch.spellings

def takesValue : Switch → Bool
  | .config | .workingPath | .inputDir | .buildLevel | .runtimeMajor => true
  | _ => false

/-- Whether a command that has the option cannot do without it. -/
def isRequired : Switch → Bool
  | .config | .inputDir => true
  | _ => false

def admits : Switch → String → Bool
  | .runtimeMajor, text => (Text.integer? text).isSome
  | _, _ => true

end Switch

inductive Operand where
  | nothing
  | single (name : String)
  /-- One argument and everything after it. -/
  | leading (name : String)
deriving DecidableEq, Repr

def Operand.name? : Operand → Option String
  | .nothing => none
  | .single name => some name
  | .leading name => some name

structure Grammar where
  name : String
  operand : Operand := .nothing
  switches : List Switch
  usage : List String
  explanation : List String
deriving DecidableEq, Repr

namespace Grammar

def textOf (lines : List String) : String := String.join (lines.map (· ++ "\n"))

def usageText (grammar : Grammar) : String := textOf grammar.usage

def helpText (grammar : Grammar) : String := textOf (grammar.usage ++ "" :: grammar.explanation)

def spelled (grammar : Grammar) : List (String × Switch) :=
  grammar.switches.flatMap fun switch => switch.spellings.map fun spelling => (spelling, switch)

def switch? (grammar : Grammar) (spelling : String) : Option Switch :=
  grammar.spelled.lookup spelling

end Grammar

inductive Verb where
  | run
  | validate
  | sync
deriving DecidableEq, Repr

namespace Verb

def all : List Verb := [.run, .validate, .sync]

def name : Verb → String
  | .run => "run"
  | .validate => "validate"
  | .sync => "sync"

def ofName? (name : String) : Option Verb := all.find? (·.name == name)

def grammar : Verb → Grammar
  | .run =>
    { name := "innotool run"
      switches := [.help, .config, .workingPath, .wait, .verbose, .debug]
      usage :=
        ["usage: innotool run [-h] --config CONFIG [--working-path WORKING_PATH]",
          "                    [--wait] [-v] [-d]"]
      explanation :=
        ["Resolve the settings file action tree and run it.",
          "",
          "options:",
          "  -h, --help            show this help message and exit",
          "  --config CONFIG       Path to the settings file (YAML or JSON)",
          "  --working-path WORKING_PATH",
          "                        Working path used when the settings file sets none",
          "  --wait                Wait for Enter before exiting",
          "  -v, --verbose         Show progress and high-level status updates",
          "  -d, --debug           Show detailed debugging output (implies --verbose)"] }
  | .validate =>
    { name := "innotool validate"
      switches := [.help, .config, .workingPath, .verbose]
      usage :=
        ["usage: innotool validate [-h] --config CONFIG [--working-path WORKING_PATH]",
          "                         [-v]"]
      explanation :=
        ["Check a settings file for errors without running any tool.",
          "",
          "options:",
          "  -h, --help            show this help message and exit",
          "  --config CONFIG       Path to the settings file (YAML or JSON)",
          "  --working-path WORKING_PATH",
          "                        Working path used when the settings file sets none",
          "  -v, --verbose         Show validation progress and details"] }
  | .sync =>
    { name := "innotool sync"
      operand := .single "script"
      switches := [.help, .inputDir, .buildLevel, .runtimeMajor, .verbose, .debug]
      usage :=
        ["usage: innotool sync [-h] --input-dir INPUT_DIR [--build-level BUILD_LEVEL]",
          "                     [--runtime-major RUNTIME_MAJOR] [-v] [-d]",
          "                     script"]
      explanation :=
        ["Synchronize one script with a publish folder and build level.",
          "",
          "positional arguments:",
          "  script                Path to the Inno Setup script (.iss)",
          "",
          "options:",
          "  -h, --help            show this help message and exit",
          "  --input-dir INPUT_DIR",
          "                        Folder whose files are listed in [Files]",
          "  --build-level BUILD_LEVEL",
          "                        Project build level (None, Minimum, StandAlone,",
          "                        NETInstallIncluded, NETInstallDownload)",
          "  --runtime-major RUNTIME_MAJOR",
          "                        .NET major version for NET install build levels",
          "  -v, --verbose         Show progress and high-level status updates",
          "  -d, --debug           Show detailed debugging output (implies --verbose)"] }

end Verb

def programGrammar : Grammar :=
  { name := "innotool"
    operand := .leading "command"
    switches := [.help, .version]
    usage := ["usage: innotool [-h] [--version] \x7brun,validate,sync\x7d ..."]
    explanation :=
      ["innotool - build, sign and package .NET apps with Inno Setup",
        "",
        "positional arguments:",
        "  \x7brun,validate,sync\x7d  Available commands",
        "    run                Run every active action of a settings file",
        "    validate           Validate a settings file (no builds, no downloads)",
        "    sync               Rebuild [Files], [Run] and [Code] of an Inno Setup",
        "                       script",
        "",
        "options:",
        "  -h, --help           show this help message and exit",
        "  --version            show program's version number and exit"] }

def versionLine : String := "innotool 0.1.0"

end SetupForge.CommandLine
