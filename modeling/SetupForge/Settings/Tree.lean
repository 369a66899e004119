import SetupForge.Failure
import SetupForge.Settings.Action
import SetupForge.Text.Digit
import SetupForge.Value.Display

/-! # The tree of actions

The root mapping of a settings file is an action, and every action can hold further ones.
Keys have a current spelling and most have an older one; of several spellings of one key
the last value counts. Unknown keys are reported and left out.
-/

namespace SetupForge

inductive SettingKey where
  | name
  | actionType
  | active
  | remarks
  | options
  | actions
  | netMajorVersion
  | projectBuildLevel
  | text (field : TextField)
deriving DecidableEq, Repr

namespace SettingKey

def all : List SettingKey :=
  [.name, .actionType, .active, .remarks, .options, .actions, .netMajorVersion,
    .projectBuildLevel] ++ TextField.all.map .text

def spelling : SettingKey → String
  | .name => "name"
  | .actionType => "action_type"
  | .active => "active"
  | .remarks => "remarks"
  | .options => "options"
  | .actions => "actions"
  | .netMajorVersion => "net_major_version"
  | .projectBuildLevel => "project_build_level"
  | .text field => field.name

def olderSpelling? : SettingKey → Option String
  | .name => some "Name"
  | .actionType => some "ActionType"
  | .active => some "Active"
  | .remarks => some "Remarks"
  | .options => some "Options"
  | .actions => some "Actions"
  | .netMajorVersion => some "NETMajorVersion"
  | .projectBuildLevel => some "ProjectBuildLevel"
  | .text .workingPath => some "WorkingPath"
  | .text .certFilename => some "CertFilename"
  | .text .certPassword => some "CertPassword"
  | .text .certTimestampUrl => some "CertTimestampUrl"
  | .text .shaThumbprint => some "ShaThumbprint"
  | .text .signToolFilename => some "SignToolFilename"
  | .text .csharpProjectFilename => some "CSharpProjectFilename"
  | .text .csharpPublishSettingsFilename => some "CSharpPublishSettingsFilename"
  | .text .csharpSolutionFilename => some "CSharpSolutionFilename"
  | .text .exeFilename => some "ExeFilename"
  | .text .setupFilename => some "SetupFilename"
  | .text .innoScriptFilename => some "InnoScriptFilename"
  | .text .innoSetupCompilerFilename => some "InnoSetupCompilerFilename"
  | .text .innoVersionVariable => some "InnoVersionVariable"
  | .text .inputFoldername => some "InputFoldername"
  | .text .outputFilename => some "OutputFilename"
  | .text .outputFoldername => some "OutputFoldername"
  | .text .projectFoldername => some "ProjectFoldername"
  | .text .projectName => some "ProjectName"
  | .text .value => some "Value"
  | .text .versionFilename => none
  | .text .wapManifestFilename => none
  | .text .runtimeDownloadUrl => none
  | .text .runtimeResourceDir => none

def isSpelled (key : SettingKey) (text : String) : Bool :=
  key.spelling == text || key.olderSpelling? == some text

def ofText? (text : String) : Option SettingKey := all.find? (·.isSpelled text)

theorem mem_all (key : SettingKey) : key ∈ all := by
  cases key with
  | text field => simp [all, TextField.mem_all]
  | _ => decide

end SettingKey

/-- What reading gives: a result or a failure, and the warnings on the way. -/
abbrev Reading (α : Type) := Except Failure α × List String

/-- What an action holds, by key, in the order in which the keys first appear. -/
abbrev Entries := List (SettingKey × Value)

namespace Entries

/-- Puts a value under a key, in its place or at the end. -/
def insert (key : SettingKey) (value : Value) : Entries → Entries
  | [] => [(key, value)]
  | entry :: entries =>
      if entry.1 = key then (key, value) :: entries else entry :: insert key value entries

/-- Sorts the entries of a mapping into keys; unknown ones become warnings. -/
def ofMapping (place : String) : List (Value × Value) → Entries → Reading Entries
  | [], entries => (.ok entries, [])
  | (key, value) :: rest, entries =>
      if key.hasText then
        match SettingKey.ofText? key.plain with
        | some known => ofMapping place rest (insert known value entries)
        | none =>
            let (entries, warnings) := ofMapping place rest entries
            (entries, s!"{place}: unknown key '{key.plain}' ignored" :: warnings)
      else (.error .tooManyDigits, [])

end Entries

/-- The plain text of a value, unless a number in it has too many digits. -/
def Value.plainOrFault (value : Value) : Except Failure String :=
  if value.hasText then .ok value.plain else .error .tooManyDigits

/-- Stops with a fault whose message quotes a value. -/
def Value.refuse (value : Value) (fault : String → SettingsFault) : Except Failure α :=
  if value.hasText then .error (.settings (fault value.quoted)) else .error .tooManyDigits

def BuildLevel.ofValue : Value → Except Failure BuildLevel
  | .null => .ok .none
  | .bool value => .ok (if value then .minimum else .none)
  | .integer rank =>
      match BuildLevel.ofRank? rank with
      | .some level => .ok level
      | .none => (Value.integer rank).refuse .unknownBuildLevel
  | .text value =>
      match BuildLevel.ofText? value with
      | .some level => .ok level
      | .none => (Value.text value).refuse .unknownBuildLevel
  | .bytes _ => .error .wrongKind
  | _ => .error .levelWithoutText

def ActionKind.ofValue (value : Value) : Except Failure ActionKind :=
  match value with
  | .null => .ok .none
  | value => do
      match ActionKind.ofText? (← value.plainOrFault) with
      | .some kind => .ok kind
      | .none => value.refuse .unknownActionType

def asciiText? (content : Bytes) : Option String :=
  if content.all fun byte => byte.toNat < 0x80 then
    some (String.ofList (content.map fun byte => Char.ofNat byte.toNat))
  else none

/-- The .NET major version that a value means; one that is not given is zero. -/
def majorOfValue (place : String) (value : Value) : Except Failure Int :=
  let orRefused (major? : Option Int) : Except Failure Int :=
    match major? with
    | some major => .ok major
    | none => value.refuse (.majorNotInteger place)
  if !value.isGiven then .ok 0
  else
    match value with
    | .bool _ => .ok 1
    | .integer major => .ok major
    | .real (.infinite _) => .error .infiniteInteger
    | .real number => orRefused number.truncate?
    | .text text => orRefused (Text.integer? text)
    | .bytes content => orRefused ((asciiText? content).bind Text.integer?)
    | _ => orRefused none

def yesOfValue : Value → Except Failure Bool
  | .bool value => .ok value
  | .null => .ok false
  | value => value.plainOrFault.map Action.meansYes

/-- The texts of a list, or of a single value. -/
def textsOfValue (value : Value) : Except Failure (List String) :=
  match value.unrolled with
  | .null => .ok []
  | .list items => items.mapM Value.plainOrFault
  | .pair first second => [first, second].mapM Value.plainOrFault
  | _ => value.plainOrFault.map ([·])

/-- The text of a value; null is empty. -/
def textOfValue : Value → Except Failure String
  | .null => .ok ""
  | value => value.plainOrFault

def Action.assign (place : String) (action : Action) : SettingKey × Value → Except Failure Action
  | (.name, value) => (textOfValue value).map fun name => { action with name }
  | (.actionType, value) => (ActionKind.ofValue value).map fun kind => { action with kind }
  | (.active, value) => (yesOfValue value).map fun active => { action with active }
  | (.remarks, value) => (textsOfValue value).map fun remarks => { action with remarks }
  | (.options, value) => (textsOfValue value).map fun options => { action with options }
  | (.actions, _) => .ok action
  | (.netMajorVersion, value) => (majorOfValue place value).map fun major => { action with major }
  | (.projectBuildLevel, value) =>
      (BuildLevel.ofValue value).map fun level => { action with level }
  | (.text field, value) => (textOfValue value).map (action.withText field)

/-- The action that some entries describe, before it inherits anything. -/
def Action.ofEntries (place : String) : Action → Entries → Except Failure Action
  | action, [] => .ok action
  | action, entry :: entries =>
      match action.assign place entry with
      | .ok action => ofEntries place action entries
      | .error failure => .error failure

/-- An action as it is written, with the actions that it holds. -/
inductive ActionTree where
  | node (own : Action) (children : List ActionTree)

namespace ActionTree

def mapOwn (change : Action → Action) : ActionTree → ActionTree
  | .node own children => .node (change own) children

def childPlace (place : String) (index : Nat) : String := s!"{place}.actions[{index}]"

/-- The values of the children, if they are a list or not given. -/
def childValues? (entries : Entries) : Option (List Value) :=
  let value := (entries.lookup .actions).getD .null
  if value.isGiven then
    match value.unrolled with
    | .list items => some items
    | _ => none
  else some []

def ofItems (read : String → Value → Reading ActionTree) (place : String) :
    (index : Nat) → List Value → Reading (List ActionTree)
  | _, [] => (.ok [], [])
  | index, item :: items =>
      match read (childPlace place index) item with
      | (.error failure, warnings) => (.error failure, warnings)
      | (.ok tree, warnings) =>
          let (rest, more) := ofItems read place (index + 1) items
          (rest.map (tree :: ·), warnings ++ more)

def ofPairs (read : String → Value → Reading ActionTree) (place : String)
    (pairs : List (Value × Value)) : Reading ActionTree :=
  let (entries, warnings) := Entries.ofMapping place pairs []
  match entries with
  | .error failure => (.error failure, warnings)
  | .ok entries =>
      match childValues? entries with
      | none => (.error (.settings (.actionsNotList place)), warnings)
      | some items =>
          let (children, more) := ofItems read place 0 items
          let tree : Except Failure ActionTree := do
            let children ← children
            let own ← Action.ofEntries place {} entries
            .ok (.node own children)
          (tree, warnings ++ more)

/-- Reads the tree of a value whose actions are nested less deep than `room`. -/
def ofValueFuel : (room : Nat) → (place : String) → Value → Reading ActionTree
  | 0, _, _ => (.error .tooDeep, [])
  | room + 1, place, value =>
      match value.unrolled with
      | .mapping pairs => ofPairs (ofValueFuel room) place pairs
      | _ => (.error (.settings (.actionNotMapping place value.kindName)), [])

/-- How many actions can be inside each other. The program refuses calls more than a thousand deep;
a level takes two of them, and this is the number of levels that are left where the reading of a
tree starts. -/
def deepest : Nat := 480

def ofValue (place : String) (value : Value) : Reading ActionTree :=
  ofValueFuel deepest place value

end ActionTree

end SetupForge
