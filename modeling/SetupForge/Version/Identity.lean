import SetupForge.Text.Blank
import SetupForge.Text.Word

/-! # The version of an application package

The manifest of an application package holds its version, in four parts, as an attribute
of its identity.
-/

namespace SetupForge.IdentityVersion

open Text

def opening : List Char := "<Identity".toList

def versionName : List Char := "Version".toList

def equals? (text : List Char) : Option (List Char) :=
  let before := text.takeWhile isBlankChar
  match text.dropWhile isBlankChar with
  | '=' :: rest => some (before ++ '=' :: rest.takeWhile isBlankChar)
  | _ => none

/-- The attribute at the start of a text: everything up to its value, and what follows it. -/
def attribute? (text : List Char) : Option (List Char × List Char) :=
  if versionName.isPrefixOf text then
    match equals? (text.drop versionName.length) with
    | none => none
    | some equals =>
        match text.drop (versionName.length + equals.length) with
        | '"' :: rest =>
            match rest.dropWhile (· ≠ '"') with
            | _ :: after => some (versionName ++ equals, after)
            | [] => none
        | _ => none
  else none

/-- Replaces the value of the attribute within a tag. `inWord` tells whether a word goes on at the
start of the text. -/
def replaceValue? (value : List Char) : (inWord : Bool) → List Char → Option (List Char)
  | _, [] => none
  | inWord, c :: text =>
      match if inWord then none else attribute? (c :: text) with
      | some (before, after) => some (before ++ '"' :: value ++ '"' :: after)
      | none =>
          if c = '>' then none else (replaceValue? value (isWordChar c) text).map (c :: ·)

def replaceTag? (value text : List Char) : Option (List Char) :=
  let rest := text.drop opening.length
  if opening.isPrefixOf text && !startsWord rest then
    (replaceValue? value true rest).map (opening ++ ·)
  else none

/-- Replaces the value of the attribute in the first identity that has one. -/
def replaceFirst (value : List Char) : List Char → List Char
  | [] => []
  | c :: text => (replaceTag? value (c :: text)).getD (c :: replaceFirst value text)

/-- The value of the attribute for a version: a fourth part is added. -/
def fourParts (version : String) : String := version ++ ".0"

def stamp (version : String) (text : List Char) : List Char :=
  replaceFirst (fourParts version).toList text

end SetupForge.IdentityVersion
