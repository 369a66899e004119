import SetupForge.Failure
import SetupForge.Journal
import SetupForge.Policy.Runtime
import SetupForge.Text.Digit

/-! # Placeholders of generated code

Generated routines name the runtime through three placeholders. Each is replaced in turn
in what the one before it has left.
-/

namespace SetupForge

/-- What generated code can ask for. -/
inductive Placeholder where
  | downloadUrl
  | runtimeVersion
  | installerName
deriving DecidableEq, Repr

namespace Placeholder

/-- All placeholders, in the order in which they are replaced. -/
def all : List Placeholder := [.downloadUrl, .runtimeVersion, .installerName]

def token : Placeholder → String
  | .downloadUrl => "\x7bRuntimeDownloadUrl\x7d"
  | .runtimeVersion => "\x7bRuntimeVersion\x7d"
  | .installerName => "\x7bRuntimeInstallerName\x7d"

def value (settings : RuntimeSettings) (major : Int) : Placeholder → String
  | .downloadUrl => settings.urlFor major
  | .runtimeVersion => settings.version major
  | .installerName => settings.installerName major

def mentioned (line : String) : Bool :=
  all.any fun placeholder => Text.contains line placeholder.token

def replace (settings : RuntimeSettings) (major : Int) (placeholder : Placeholder)
    (text : List Char) : List Char :=
  Text.replaceAll placeholder.token.toList (placeholder.value settings major).toList text

def fill (settings : RuntimeSettings) (major : Int) (line : String) : String :=
  String.ofList
    (all.foldl (fun text placeholder => replace settings major placeholder text) line.toList)

def unlisted (settings : RuntimeSettings) (major : Int) : SettingsFault :=
  .unlistedRuntime major settings.majors

def unlistedNote (settings : RuntimeSettings) (major : Int) : Note :=
  .warning "CODE" ((unlisted settings major).message ++ ". Placeholders resolve to empty text.")

/-- Whether the numbers in a report about a major version without an installer can be written. -/
def canReport (settings : RuntimeSettings) (major : Int) : Bool :=
  Text.hasText major && settings.majors.all Text.hasText

/-- Whether the report that some lines call for cannot be written. -/
def isStuck (settings : RuntimeSettings) (major : Int) (lines : List String) : Bool :=
  !settings.knows major && lines.any mentioned && !canReport settings major

/-- Replaces the placeholders in some lines. Where a major version has no installer a strict
reader refuses lines with placeholders, and any other is warned unless it was warned before. -/
def fillLines (settings : RuntimeSettings) (strict warned : Bool) (major : Int)
    (lines : List String) : Except SettingsFault (List String × List Note) :=
  let filled := lines.map (fill settings major)
  if settings.knows major || !lines.any mentioned then .ok (filled, [])
  else if strict then .error (unlisted settings major)
  else .ok (filled, if warned then [] else [unlistedNote settings major])

/-- Each line is filled on its own, unless a strict reader refuses them all. -/
theorem fillLines_cases (settings : RuntimeSettings) (strict warned : Bool) (major : Int)
    (lines : List String) :
    (∃ notes, fillLines settings strict warned major lines =
      .ok (lines.map (fill settings major), notes)) ∨
    (strict = true ∧ settings.knows major = false ∧
      fillLines settings strict warned major lines = .error (unlisted settings major)) := by
  unfold fillLines
  dsimp only
  split
  · exact .inl ⟨_, rfl⟩
  · rename_i hknown
    rw [Bool.or_eq_true, not_or] at hknown
    split
    · rename_i hstrict
      exact .inr ⟨hstrict, by simpa using hknown.1, rfl⟩
    · exact .inl ⟨_, rfl⟩

end Placeholder

end SetupForge
