import SetupForge.Settings.Expand
import SetupForge.Settings.Tree

/-! # Resolving the tree of actions

Children come before the action that holds them. An action takes what it leaves unset from
the nearest action around it; the root takes defaults. Options of the actions around it are
added behind its own. Variables are expanded last.
-/

namespace SetupForge

namespace Action

def defaultTimestampUrl : String := "http://timestamp.digicert.com"

def defaultSetupCompiler : String := "C:\\Program Files (x86)\\Inno Setup 6\\ISCC.exe"

def defaultSignTool : String := "%SIGNTOOLPATH%\\signtool.exe"

def orText (action : Action) (field : TextField) (text : String) : Action :=
  if (action.text field).isEmpty then action.withText field text else action

def withRootDefaults (workingPath : Option Path) (action : Action) : Action :=
  let action :=
    match workingPath with
    | some path => action.orText .workingPath path.toString
    | none => action
  ((action.orText .certTimestampUrl defaultTimestampUrl).orText
    .innoSetupCompilerFilename defaultSetupCompiler).orText .signToolFilename defaultSignTool

/-- Adds options behind some others, unless their text is there already, case ignored. -/
def mergeOptions (own : List String) : List String → List String
  | [] => own
  | option :: rest =>
      if own.any fun other => Text.lower other == Text.lower option then mergeOptions own rest
      else mergeOptions (own ++ [option]) rest

def inherit (parent own : Action) : Action :=
  { own with
    active := own.active && parent.active
    options := mergeOptions own.options parent.options
    text := fun field => if (own.text field).isEmpty then parent.text field else own.text field
    major := if own.major = 0 then parent.major else own.major
    level := if own.level = .none then parent.level else own.level }

/-- An action with the variables of some of its fields expanded. -/
def expandedIn (around : Surroundings) (action : Action) : List TextField →
    Except Failure Action
  | [] => .ok action
  | field :: fields => do
      let text ← Expand.expand around (action.text field)
      expandedIn around (action.withText field text) fields

def expanded (around : Surroundings) (action : Action) : Except Failure Action :=
  expandedIn around action (TextField.all.filter TextField.isExpanded)

theorem text_inherit (parent own : Action) (field : TextField) :
    (inherit parent own).text field =
      if (own.text field).isEmpty then parent.text field else own.text field := rfl

end Action

namespace ActionTree

mutual

/-- The actions of a tree that have a kind, children first. -/
def flatten (parent : Option Action) : ActionTree → List Action
  | .node own children =>
      let own :=
        match parent with
        | some parent => Action.inherit parent own
        | none => own
      flattenAll own children ++ (if own.kind = .none then [] else [own])

def flattenAll (parent : Action) : List ActionTree → List Action
  | [] => []
  | tree :: trees => flatten (some parent) tree ++ flattenAll parent trees

end

/-- The actions of a settings value in the order in which they run, and the warnings. -/
def resolve (around : Surroundings) (workingPath : Option Path) (value : Value) :
    Reading (List Action) :=
  let (tree, warnings) := ofValue "root" value
  match tree with
  | .error failure => (.error failure, warnings)
  | .ok tree =>
      let root := tree.mapOwn (Action.withRootDefaults workingPath)
      ((flatten none root).mapM (Action.expanded around), warnings)

end ActionTree

end SetupForge
