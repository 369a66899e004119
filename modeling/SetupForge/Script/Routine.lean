import SetupForge.Policy.BuildLevel
import SetupForge.Script.Marker

/-! # Routines that the program generates

A routine is its marker line, its signature and its body. The catalog lists helpers
before the routines that call them, as Pascal wants a routine declared before it is used.
-/

namespace SetupForge

structure Routine where
  name : String
  /-- The least build level that needs the routine. -/
  level : BuildLevel
  /-- The marker, the signature and the body. -/
  lines : List String
deriving DecidableEq, Repr

namespace Routine

def signature? (routine : Routine) : Option String := routine.lines[1]?

def signatureKey (line : String) : String := Text.lower (Text.trim line)

/-- Whether a line carries a signature, blanks at its ends and case ignored. -/
def carries (signature line : String) : Bool := signatureKey line == signatureKey signature

def marked (name : String) (level : BuildLevel) (text : List String) : Routine :=
  ⟨name, level, Marker.line name :: text⟩

def runAndCaptureOutput : Routine :=
  marked "RunAndCaptureOutput" .netInstallIncluded [
    "function RunAndCaptureOutput(const FileName, Params: String; var Output: TArrayOfString): Boolean;",
    "var",
    "  ResultCode: Integer;",
    "  OutputFile: String;",
    "begin",
    "  Result := False;",
    "  OutputFile := ExpandConstant('\x7btmp\x7d\\innotool-output.txt');",
    "  if Exec(ExpandConstant('\x7bcmd\x7d'), '/C \"\"' + FileName + '\" ' + Params + ' > \"' + OutputFile + '\" 2>&1\"', '', SW_HIDE, ewWaitUntilTerminated, ResultCode) then",
    "    Result := (ResultCode = 0) and LoadStringsFromFile(OutputFile, Output);",
    "  DeleteFile(OutputFile);",
    "end;"]

def extractMajorVersion : Routine :=
  marked "ExtractMajorVersion" .netInstallIncluded [
    "function ExtractMajorVersion(const Version: String): Integer;",
    "var",
    "  Dot: Integer;",
    "begin",
    "  Dot := Pos('.', Version);",
    "  if Dot > 0 then",
    "    Result := StrToIntDef(Copy(Version, 1, Dot - 1), 0)",
    "  else",
    "    Result := StrToIntDef(Version, 0);",
    "end;"]

def isDotnetRuntimeInstalled : Routine :=
  marked "IsDotnetRuntimeInstalled" .netInstallIncluded [
    "function IsDotnetRuntimeInstalled(const Major: Integer): Boolean;",
    "var",
    "  Output: TArrayOfString;",
    "  Prefix: String;",
    "  I: Integer;",
    "begin",
    "  Result := False;",
    "  Prefix := 'Microsoft.WindowsDesktop.App ' + IntToStr(Major) + '.';",
    "  if RunAndCaptureOutput('dotnet', '--list-runtimes', Output) then",
    "  begin",
    "    for I := 0 to GetArrayLength(Output) - 1 do",
    "    begin",
    "      if Pos(Prefix, Output[I]) = 1 then",
    "      begin",
    "        Result := True;",
    "        Break;",
    "      end;",
    "    end;",
    "  end;",
    "  Log(Format('.NET Desktop Runtime %d installed: %d', [Major, Ord(Result)]));",
    "end;"]

/-- Tells the install step whether the runtime is needed. -/
def needsDotNet : Routine :=
  marked "NeedsDotNet" .netInstallIncluded [
    "function NeedsDotNet: Boolean;",
    "begin",
    "  Result := not IsDotnetRuntimeInstalled(ExtractMajorVersion('\x7bRuntimeVersion\x7d'));",
    "end;"]

/-- Downloads the runtime installer before the setup starts. -/
def prepareToInstall : Routine :=
  marked "PrepareToInstall" .netInstallDownload [
    "function PrepareToInstall(var NeedsRestart: Boolean): String;",
    "begin",
    "  Result := '';",
    "  if NeedsDotNet then",
    "  begin",
    "    try",
    "      DownloadTemporaryFile('\x7bRuntimeDownloadUrl\x7d', '\x7bRuntimeInstallerName\x7d', '', nil);",
    "    except",
    "      Result := 'Unable to download the .NET Desktop Runtime: ' + GetExceptionMessage;",
    "    end;",
    "  end;",
    "end;"]

/-- All routines, each below the routines that it calls. -/
def catalog : List Routine :=
  [runAndCaptureOutput, extractMajorVersion, isDotnetRuntimeInstalled, needsDotNet,
    prepareToInstall]

def neededAt (level : BuildLevel) (catalog : List Routine) : List Routine :=
  catalog.filter (·.level ≤ level)

@[simp] theorem carries_self (signature : String) : carries signature signature = true := by
  simp [carries]

theorem neededAt_sublist (level : BuildLevel) (catalog : List Routine) :
    (neededAt level catalog).Sublist catalog := List.filter_sublist

theorem signature?_of_mem_catalog : ∀ routine ∈ catalog, routine.signature?.isSome := by
  simp [catalog, signature?, runAndCaptureOutput, extractMajorVersion, isDotnetRuntimeInstalled,
    needsDotNet, prepareToInstall, marked]

end Routine

end SetupForge
