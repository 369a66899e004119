import SetupForge.Proofs.Script.Reloading

/-! # Scripts as lines and as text

The lines of a script come back from its text, but for one empty line at the end. The text of a
script comes back from its lines with CRLF for every line break, and without the last one.
-/

namespace SetupForge

open Text

namespace Text

theorem dropEmptyLast_eq (lines : List (List Char)) :
    dropEmptyLast lines = if lines.getLast? = some [] then lines.dropLast else lines := by
  induction lines with
  | nil => rfl
  | cons line lines ih =>
      cases lines with
      | nil => cases line <;> simp [dropEmptyLast]
      | cons next lines =>
          have hdrop : dropEmptyLast (line :: next :: lines) =
              line :: dropEmptyLast (next :: lines) := rfl
          rw [hdrop, ih, List.getLast?_cons_cons, List.dropLast_cons_cons]
          split <;> rfl

theorem isUnbroken_iff {line : List Char} :
    isUnbroken line = true ↔ '\r' ∉ line ∧ '\n' ∉ line := by
  simp only [isUnbroken, List.all_eq_true, Bool.and_eq_true, bne_iff_ne]
  constructor
  · intro h
    exact ⟨fun hr => (h _ hr).1 rfl, fun hn => (h _ hn).2 rfl⟩
  · rintro ⟨hr, hn⟩ c hc
    exact ⟨fun h => hr (h ▸ hc), fun h => hn (h ▸ hc)⟩

end Text

namespace Script

variable {lines : List String}

theorem lines_ofText_toText (h : ∀ line ∈ lines, '\r' ∉ line.toList ∧ '\n' ∉ line.toList)
    (encoding : Encoding) :
    (ofText (toText ⟨lines, encoding⟩) encoding).lines =
      if lines.getLast? = some "" then lines.dropLast else lines := by
  have hunbroken : ∀ line ∈ lines.map String.toList, isUnbroken line = true := by
    intro line hl
    obtain ⟨text, htext, rfl⟩ := List.mem_map.1 hl
    exact isUnbroken_iff.2 (h text htext)
  have hlast : (lines.map String.toList).getLast? = some [] ↔ lines.getLast? = some "" := by
    rw [List.getLast?_map, Option.map_eq_some_iff]
    constructor
    · rintro ⟨line, hline, hnil⟩
      rw [hline, String.toList_eq_nil_iff.1 hnil]
    · intro hline
      exact ⟨"", hline, rfl⟩
  have hback : (lines.map String.toList).map String.ofList = lines := by simp
  rw [lines_ofText, toText, scriptLines_joinLines hunbroken, dropEmptyLast_eq]
  by_cases hempty : lines.getLast? = some ""
  · rw [if_pos hempty, if_pos (hlast.2 hempty), List.map_dropLast, hback]
  · rw [if_neg hempty, if_neg (mt hlast.1 hempty), hback]

/-- Lines and text of a script determine each other, but for an empty line at the end of the one
and for the kind of line break and the last line break in the other. -/
theorem lines_and_text_inverse (encoding : Encoding) :
    (∀ lines : List String, (∀ line ∈ lines, '\r' ∉ line.toList ∧ '\n' ∉ line.toList) →
      (ofText (toText ⟨lines, encoding⟩) encoding).lines =
        if lines.getLast? = some "" then lines.dropLast else lines) ∧
    ∀ text : List Char, toText (ofText text encoding) =
      withoutLastBreak '\r' '\n' (unifiedBreaks '\r' '\n' text) := by
  constructor
  · intro lines h
    exact lines_ofText_toText h encoding
  · intro text
    rw [toText_ofText, joinLines_scriptLines]

/-- Two empty lines at the end, and breaks of all kinds. -/
theorem lines_and_text_inverse_emptyLast :
    let lines := ["", "a", "", ""]
    let text := "\na\r\r\n\n\r".toList
    (∀ line ∈ lines, '\r' ∉ line.toList ∧ '\n' ∉ line.toList) ∧
      (ofText (toText ⟨lines, .utf8⟩)).lines = ["", "a", ""] ∧
      toText (ofText text) = "\r\na\r\n\r\n\r\n".toList := by
  intro lines text
  have hlines : ∀ line ∈ lines, '\r' ∉ line.toList ∧ '\n' ∉ line.toList := by decide
  obtain ⟨hback, htext⟩ := lines_and_text_inverse .utf8
  refine ⟨hlines, ?_, ?_⟩
  · rw [hback lines hlines]
    rfl
  · rw [htext]
    decide

end Script

end SetupForge
