import SetupForge.Text.Blank
import SetupForge.Text.LetterCase
import SetupForge.Text.Word

/-! # Markers of generated code

A comment that opens with the tag marks the routine below it as generated. Case and the
blanks around the brace do not matter; the tag has to end with its word.
-/

namespace SetupForge.Marker

open Text

def tag : String := "innotool:auto-generated"

def line (name : String) : String := "\x7b " ++ tag ++ " " ++ name ++ " \x7d"

def isMarker (line : String) : Bool :=
  match dropBlanks line.toList with
  | '{' :: text =>
      match dropLeadingAnyCase? tag.toList (dropBlanks text) with
      | some rest => !startsWord rest
      | none => false
  | _ => false

theorem not_isMarker_of_isBlank {line : String} (h : isBlank line = true) :
    isMarker line = false := by
  have : dropBlanks line.toList = [] := dropBlanks_eq_nil_iff.2 (by simpa [isBlank] using h)
  simp [isMarker, this]

end SetupForge.Marker
