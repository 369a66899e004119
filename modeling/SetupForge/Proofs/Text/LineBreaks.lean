import SetupForge.Text.Lines

/-! # Lines joined and divided again

Lines without line breaks of their own come back when they are joined and the text is divided at
its line ends, but for one: an empty last line cannot be told from the end of the line above it.
-/

namespace SetupForge.Text

def isUnbroken (line : List Char) : Bool := line.all fun c => c != '\r' && c != '\n'

theorem isUnbroken_cons {c : Char} {line : List Char} :
    isUnbroken (c :: line) = true ↔ (c ≠ '\r' ∧ c ≠ '\n') ∧ isUnbroken line = true := by
  simp [isUnbroken]

theorem splitLineEnds_cons {c : Char} (hr : c ≠ '\r') (hn : c ≠ '\n') (text : List Char) :
    splitLineEnds (c :: text) = consFirst c (splitLineEnds text) := by
  rw [splitLineEnds.eq_def]
  split <;> simp_all

theorem splitLineEnds_of_isUnbroken {line : List Char} (h : isUnbroken line = true) :
    splitLineEnds line = [line] := by
  induction line with
  | nil => rfl
  | cons c line ih =>
      obtain ⟨⟨hr, hn⟩, hline⟩ := isUnbroken_cons.1 h
      rw [splitLineEnds_cons hr hn, ih hline]
      rfl

theorem splitLineEnds_append {line : List Char} (h : isUnbroken line = true) (text : List Char) :
    splitLineEnds (line ++ '\r' :: '\n' :: text) = line :: splitLineEnds text := by
  induction line with
  | nil => rfl
  | cons c line ih =>
      obtain ⟨⟨hr, hn⟩, hline⟩ := isUnbroken_cons.1 h
      rw [List.cons_append, splitLineEnds_cons hr hn, ih hline]
      rfl

theorem joinLines_cons (line next : List Char) (lines : List (List Char)) :
    joinLines (line :: next :: lines) = line ++ '\r' :: '\n' :: joinLines (next :: lines) := rfl

theorem mem_joinLines {c : Char} {lines : List (List Char)} (h : c ∈ joinLines lines) :
    c = '\r' ∨ c = '\n' ∨ ∃ line ∈ lines, c ∈ line := by
  induction lines with
  | nil => simp [joinLines] at h
  | cons line lines ih =>
      cases lines with
      | nil => exact Or.inr (Or.inr ⟨line, by simp, h⟩)
      | cons next lines =>
          rw [joinLines_cons, List.mem_append, List.mem_cons, List.mem_cons] at h
          rcases h with h | h | h | h
          · exact Or.inr (Or.inr ⟨line, by simp, h⟩)
          · exact Or.inl h
          · exact Or.inr (Or.inl h)
          · refine (ih h).imp_right (Or.imp_right ?_)
            rintro ⟨other, hother, hc⟩
            exact ⟨other, List.mem_cons_of_mem line hother, hc⟩

theorem splitLineEnds_joinLines {lines : List (List Char)} (hne : lines ≠ [])
    (h : ∀ line ∈ lines, isUnbroken line = true) : splitLineEnds (joinLines lines) = lines := by
  induction lines with
  | nil => exact absurd rfl hne
  | cons line lines ih =>
      obtain ⟨hline, hlines⟩ := List.forall_mem_cons.1 h
      cases lines with
      | nil => exact splitLineEnds_of_isUnbroken hline
      | cons next lines =>
          rw [joinLines_cons, splitLineEnds_append hline, ih (by simp) hlines]

theorem scriptLines_joinLines {lines : List (List Char)}
    (h : ∀ line ∈ lines, isUnbroken line = true) :
    scriptLines (joinLines lines) = dropEmptyLast lines := by
  cases lines with
  | nil => rfl
  | cons line lines => rw [scriptLines, splitLineEnds_joinLines (by simp) h]

theorem dropEmptyLast_cases (lines : List (List Char)) :
    dropEmptyLast lines = lines ∨ lines = dropEmptyLast lines ++ [[]] := by
  induction lines with
  | nil => exact Or.inl rfl
  | cons line lines ih =>
      cases lines with
      | nil => cases line <;> simp [dropEmptyLast]
      | cons next lines =>
          have hdrop : dropEmptyLast (line :: next :: lines) =
              line :: dropEmptyLast (next :: lines) := rfl
          rw [hdrop]
          exact ih.imp (congrArg (line :: ·)) (congrArg (line :: ·))

end SetupForge.Text
