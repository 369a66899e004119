import SetupForge.Text.Blank
import SetupForge.Version.Element
import SetupForge.Version.Replacement

/-! # The version of a project

A project file holds its version in elements. Without any, an element is added at the end
of the first group of properties.
-/

namespace SetupForge.ProjectVersion

open Text

def versionTags : List Element.Tags := [Element.tags "Version", Element.tags "VersionPrefix"]

def addedName : String := "VersionPrefix"

def hasVersion (text : List Char) : Bool := versionTags.any fun tags => Element.occurs tags text

/-- Replaces the elements of some tags by ones with another version, which is read as a replacement
text together with its tags. -/
def replace (tags : Element.Tags) (version : String) (text : List Char) :
    Except Failure (List Char) := do
  let parts ← Replacement.read (tags.opening ++ version.toList ++ tags.closing)
  .ok (Element.replaceAll tags (Replacement.fill parts) text)

def replaceAll (version : String) (text : List Char) : Except Failure (List Char) :=
  versionTags.foldlM (fun text tags => replace tags version text) text

def groupOpening : List Char := "<PropertyGroup".toList

def groupClosing : List Char := "</PropertyGroup>".toList

def groupTag? (text : List Char) : Option (List Char) :=
  if groupOpening.isPrefixOf text then
    match text.drop groupOpening.length with
    | '>' :: _ => some (groupOpening ++ ['>'])
    | c :: rest =>
        if isBlankChar c && rest.contains '>' then
          some (groupOpening ++ c :: rest.takeWhile (· ≠ '>') ++ ['>'])
        else none
    | [] => none
  else none

def addedLine (version : String) : List Char :=
  s!"  <{addedName}>{version}</{addedName}>\r\n  ".toList

/-- Adds a line before the closing tag of the group at the start of a text, behind its blanks. -/
def addToGroup? (version : String) (text : List Char) : Option (List Char) :=
  match groupTag? text with
  | none => none
  | some tag =>
      (cut? groupClosing (text.drop tag.length)).map fun (inner, after) =>
        tag ++ inner ++ addedLine version ++ groupClosing ++ after

def add? (version : String) : List Char → Option (List Char)
  | [] => none
  | c :: text =>
      match addToGroup? version (c :: text) with
      | some added => some added
      | none => (add? version text).map (c :: ·)

def stamp (path : Path) (version : String) (text : List Char) : Except Failure (List Char) :=
  if hasVersion text then replaceAll version text
  else
    match add? version text with
    | some text => .ok text
    | none => .error (.settings (.noPropertyGroup path))

end SetupForge.ProjectVersion
