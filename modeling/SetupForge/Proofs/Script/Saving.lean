import SetupForge.Proofs.Text.Encodings

/-! # Scripts written and read again

A script of lines that its encoding keeps is read again as it was written, but for an empty last
line.
-/

namespace SetupForge

open Text

namespace Encoding

def has : Encoding → Char → Bool
  | .utf8, _ => true
  | .utf8Marked, _ => true
  | .windows1252, c => (Windows1252.encodeChar? c).isSome

/-- Whether a line is read as it is written: it has no line break, and the encoding has all of its
characters. -/
def keeps (encoding : Encoding) (line : String) : Bool :=
  isUnbroken line.toList && line.toList.all encoding.has

variable {encoding : Encoding} {lines : List String}

theorem isUnbroken_of_keeps (h : ∀ line ∈ lines, encoding.keeps line = true) :
    ∀ line ∈ lines.map String.toList, isUnbroken line = true := by
  intro line hl
  obtain ⟨text, htext, rfl⟩ := List.mem_map.1 hl
  exact (Bool.and_eq_true_iff.1 (h text htext)).1

theorem has_of_mem_joinLines (h : ∀ line ∈ lines, encoding.keeps line = true) :
    ∀ c ∈ joinLines (lines.map String.toList), encoding.has c = true := by
  intro c hc
  rcases mem_joinLines hc with rfl | rfl | ⟨line, hline, hc⟩
  · cases encoding <;> decide
  · cases encoding <;> decide
  · obtain ⟨text, htext, rfl⟩ := List.mem_map.1 hline
    have hall := (Bool.and_eq_true_iff.1 (h text htext)).2
    exact List.all_eq_true.1 hall c hc

end Encoding

namespace Script

variable {bytes : Bytes} {lines : List String}

/-- Lines without line breaks differ from those of their text by an empty last line at most. -/
theorem eq_lines_ofText_of_unbroken
    (h : ∀ line ∈ lines.map String.toList, isUnbroken line = true) (encoding : Encoding) :
    lines = (ofText (joinLines (lines.map String.toList)) encoding).lines ∨
      lines = (ofText (joinLines (lines.map String.toList)) encoding).lines ++ [""] := by
  have hmap : (lines.map String.toList).map String.ofList = lines := by
    simp
  rw [lines_ofText, scriptLines_joinLines h]
  rcases dropEmptyLast_cases (lines.map String.toList) with hsame | hlast
  · rw [hsame, hmap]
    exact Or.inl rfl
  · have hlines := congrArg (List.map String.ofList) hlast
    rw [hmap, List.map_append] at hlines
    exact Or.inr hlines

/-- Bytes that their own encoding makes of a text read as this text. A mark in front of bytes that
are not UTF-8 is lost on writing. -/
theorem ofBytes_eq_of_encode_eq {text : List Char}
    (hmark : (Utf8.dropMark bytes).1 = true → (Utf8.decodeMarked? bytes).isSome)
    (hhas : ∀ c ∈ text, (ofBytes bytes).encoding.has c = true)
    (h : (ofBytes bytes).encoding.encode text = bytes) :
    ofBytes bytes = ofText text (ofBytes bytes).encoding := by
  have hsplit := Utf8.dropMark_eq bytes
  unfold Utf8.decodeMarked? at hmark
  unfold ofBytes at h hhas ⊢
  -- one case for each encoding: without UTF-8 behind it, a mark is ruled out
  generalize Utf8.dropMark bytes = split at *
  obtain ⟨marked, body⟩ := split
  cases hd : Utf8.decode? body with
  | none =>
      cases marked with
      | true => simp [hd] at hmark
      | false =>
          simp only [hd] at h hhas ⊢
          have hbody : body = Windows1252.encode text := by
            rw [← show bytes = body from hsplit]
            exact h.symm
          rw [hbody, Windows1252.decode_encode hhas]
          rfl
  | some read =>
      have hbody : body = Utf8.encode text := by
        cases marked with
        | true =>
            simp only [hd] at h
            exact (List.append_cancel_left (h.trans hsplit)).symm
        | false =>
            simp only [hd] at h
            exact (h.trans hsplit).symm
      rw [hbody, Utf8.decode?_encode, Option.some.injEq] at hd
      simp only [hbody, Utf8.decode?_encode]
      rfl

/-- Where writing other lines leads to the same bytes, they differ from the lines that were read by
an empty last line at most. -/
theorem eq_lines_of_toBytes_eq
    (hmark : (Utf8.dropMark bytes).1 = true → (Utf8.decodeMarked? bytes).isSome)
    (hkeeps : ∀ line ∈ lines, (ofBytes bytes).encoding.keeps line = true)
    (h : toBytes { ofBytes bytes with lines } = bytes) :
    lines = (ofBytes bytes).lines ∨ lines = (ofBytes bytes).lines ++ [""] := by
  have hread := ofBytes_eq_of_encode_eq hmark (Encoding.has_of_mem_joinLines hkeeps) h
  rw [hread]
  exact eq_lines_ofText_of_unbroken (Encoding.isUnbroken_of_keeps hkeeps) _

end Script

end SetupForge
