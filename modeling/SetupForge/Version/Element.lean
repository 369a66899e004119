import SetupForge.Text.Search

/-! # Elements of a markup text

An element goes from its opening tag to the first closing tag after it. The text between
is not looked at.
-/

namespace SetupForge.Element

structure Tags where
  opening : List Char
  closing : List Char
deriving DecidableEq, Repr

def tags (name : String) : Tags := ⟨s!"<{name}>".toList, s!"</{name}>".toList⟩

def start? (tags : Tags) (text : List Char) : Option (List Char) :=
  if tags.opening.isPrefixOf text then
    (Text.cut? tags.closing (text.drop tags.opening.length)).map fun (inner, _) =>
      tags.opening ++ inner ++ tags.closing
  else none

def occurs (tags : Tags) : List Char → Bool
  | [] => false
  | c :: text => (start? tags (c :: text)).isSome || occurs tags text

/-- Replaces the elements of a text, after passing over `skip` characters of one already
replaced. -/
def replaceFrom (tags : Tags) (change : List Char → List Char) :
    (skip : Nat) → List Char → List Char
  | _, [] => []
  | skip + 1, _ :: text => replaceFrom tags change skip text
  | 0, c :: text =>
      match start? tags (c :: text) with
      | some element => change element ++ replaceFrom tags change (element.length - 1) text
      | none => c :: replaceFrom tags change 0 text

def replaceAll (tags : Tags) (change : List Char → List Char) (text : List Char) : List Char :=
  replaceFrom tags change 0 text

end SetupForge.Element
