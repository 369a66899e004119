import SetupForge.Path

/-! # Runtime installers

Which installer brings which .NET desktop runtime, what all installer names start with,
and where the installers come from.
-/

namespace SetupForge

structure RuntimeInstaller where
  major : Int
  version : String
  fileName : String
deriving DecidableEq, Repr

def runtimeDownloadBase : String := "https://builds.dotnet.microsoft.com/dotnet/WindowsDesktop"

/-- What the names of the official installers start with. -/
def runtimeFamily : String := "windowsdesktop-runtime-"

def RuntimeInstaller.url (installer : RuntimeInstaller) : String :=
  runtimeDownloadBase ++ "/" ++ installer.version ++ "/" ++ installer.fileName

def desktopRuntime (major : Int) (version : String) : RuntimeInstaller :=
  { major, version, fileName := runtimeFamily ++ version ++ "-win-x64.exe" }

/-- The installers that are known without being named in settings. -/
def defaultInstallers : List RuntimeInstaller := [
  desktopRuntime 6 "6.0.36",
  desktopRuntime 7 "7.0.20",
  desktopRuntime 8 "8.0.23",
  desktopRuntime 9 "9.0.12",
  desktopRuntime 10 "10.0.2"]

/-- What is known about runtime installers while a script is edited. -/
structure RuntimeSettings where
  /-- The installers; of several for one major version the last counts. -/
  installers : List RuntimeInstaller := defaultInstallers
  /-- What all installer names start with. -/
  family : String := runtimeFamily
  /-- An address that stands in for the official ones, unless it is empty. -/
  downloadUrl : String := ""
  /-- The folder that keeps downloaded installers. -/
  resourceFolder : Path := Path.ofString "cache/runtime"
deriving DecidableEq, Repr

namespace RuntimeSettings

def installer? (settings : RuntimeSettings) (major : Int) : Option RuntimeInstaller :=
  settings.installers.reverse.find? (·.major == major)

def knows (settings : RuntimeSettings) (major : Int) : Bool := (settings.installer? major).isSome

def insertMajor (major : Int) : List Int → List Int
  | [] => [major]
  | first :: rest =>
      if major < first then major :: first :: rest
      else if major = first then first :: rest
      else first :: insertMajor major rest

def majors (settings : RuntimeSettings) : List Int :=
  settings.installers.foldr (fun installer found => insertMajor installer.major found) []

/-- The installers that count, by ascending major version. -/
def ordered (settings : RuntimeSettings) : List RuntimeInstaller :=
  settings.majors.filterMap settings.installer?

def installerName (settings : RuntimeSettings) (major : Int) : String :=
  ((settings.installer? major).map (·.fileName)).getD ""

def version (settings : RuntimeSettings) (major : Int) : String :=
  ((settings.installer? major).map (·.version)).getD ""

def urlFor (settings : RuntimeSettings) (major : Int) : String :=
  if settings.downloadUrl.isEmpty then ((settings.installer? major).map (·.url)).getD ""
  else settings.downloadUrl

theorem mem_insertMajor {major x : Int} {list : List Int} :
    x ∈ insertMajor major list ↔ x = major ∨ x ∈ list := by
  induction list with
  | nil => simp [insertMajor]
  | cons first rest ih =>
      rw [insertMajor]
      split
      · simp
      · split
        · rename_i h
          subst h
          simp
        · simp only [List.mem_cons, ih]
          constructor <;> rintro (h | h | h) <;> simp [h]

theorem mem_majors {settings : RuntimeSettings} {major : Int} :
    major ∈ settings.majors ↔ ∃ installer ∈ settings.installers, installer.major = major := by
  unfold majors
  induction settings.installers with
  | nil => simp
  | cons installer rest ih => simp [mem_insertMajor, ih, eq_comm]

end RuntimeSettings

end SetupForge
