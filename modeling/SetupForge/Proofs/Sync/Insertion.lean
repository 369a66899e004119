import SetupForge.Proofs.Script.Heading

/-! # Lines around the first match

Insertion below or above the first line that meets a test, without positions. Where a script
has the section, the positions of the editing functions lead to the same lines.
-/

namespace SetupForge

open Text

namespace Lines

/-- Inserts lines below the first line that meets a test. -/
def insertBelow (test : String → Bool) (new : List String) : List String → List String
  | [] => []
  | line :: lines =>
      if test line then line :: (new ++ lines) else line :: insertBelow test new lines

/-- Inserts lines above the first line that meets a test, or at the end. -/
def insertAbove (test : String → Bool) (new : List String) : List String → List String
  | [] => new
  | line :: lines =>
      if test line then new ++ line :: lines else line :: insertAbove test new lines

def dropBlanksBelow (test : String → Bool) : List String → List String
  | [] => []
  | line :: lines =>
      if test line then line :: lines.dropWhile isBlank
      else line :: dropBlanksBelow test lines

def blankBelow (test : String → Bool) : List String → Bool
  | [] => false
  | line :: lines => if test line then lines.head?.any isBlank else blankBelow test lines

section First

variable {test : String → Bool} {new above below lines : List String} {head : String}

theorem exists_first (h : lines.any test = true) :
    ∃ above head below, lines = above ++ head :: below ∧ above.any test = false ∧
      test head = true := by
  induction lines with
  | nil => simp at h
  | cons line lines ih =>
      cases hl : test line with
      | true => exact ⟨[], line, lines, rfl, rfl, hl⟩
      | false =>
          obtain ⟨above, head, below, rfl, habove, hhead⟩ := ih (by simpa [hl] using h)
          exact ⟨line :: above, head, below, rfl, by simp [hl, habove], hhead⟩

theorem insertBelow_first (habove : above.any test = false) (hhead : test head = true) :
    insertBelow test new (above ++ head :: below) = above ++ head :: (new ++ below) := by
  induction above with
  | nil => simp [insertBelow, hhead]
  | cons line above ih =>
      rw [List.any_cons, Bool.or_eq_false_iff] at habove
      simp [insertBelow, habove.1, ih habove.2]

theorem insertAbove_first (habove : above.any test = false) (hhead : test head = true) :
    insertAbove test new (above ++ head :: below) = above ++ (new ++ head :: below) := by
  induction above with
  | nil => simp [insertAbove, hhead]
  | cons line above ih =>
      rw [List.any_cons, Bool.or_eq_false_iff] at habove
      simp [insertAbove, habove.1, ih habove.2]

theorem dropBlanksBelow_first (habove : above.any test = false) (hhead : test head = true) :
    dropBlanksBelow test (above ++ head :: below) =
      above ++ head :: below.dropWhile isBlank := by
  induction above with
  | nil => simp [dropBlanksBelow, hhead]
  | cons line above ih =>
      rw [List.any_cons, Bool.or_eq_false_iff] at habove
      simp [dropBlanksBelow, habove.1, ih habove.2]

theorem insertBelow_of_none (h : lines.any test = false) : insertBelow test new lines = lines := by
  induction lines with
  | nil => rfl
  | cons line lines ih =>
      rw [List.any_cons, Bool.or_eq_false_iff] at h
      simp [insertBelow, h.1, ih h.2]

theorem insertAbove_of_none (h : lines.any test = false) :
    insertAbove test new lines = lines ++ new := by
  induction lines with
  | nil => rfl
  | cons line lines ih =>
      rw [List.any_cons, Bool.or_eq_false_iff] at h
      simp [insertAbove, h.1, ih h.2]

theorem mem_of_mem_insertBelow {line : String} (h : line ∈ insertBelow test new lines) :
    line ∈ new ∨ line ∈ lines := by
  induction lines with
  | nil => simp [insertBelow] at h
  | cons first lines ih =>
      rw [insertBelow] at h
      split at h
      · simpa [or_left_comm] using h
      · rcases List.mem_cons.1 h with rfl | h
        · exact Or.inr (List.mem_cons_self ..)
        · exact (ih h).imp_right (List.mem_cons_of_mem first)

theorem sublist_insertBelow (test : String → Bool) (new lines : List String) :
    lines.Sublist (insertBelow test new lines) := by
  induction lines with
  | nil => exact List.Sublist.refl _
  | cons line lines ih =>
      rw [insertBelow]
      split
      · exact (List.sublist_append_right new lines).cons_cons line
      · exact ih.cons_cons line

theorem mem_insertAbove {line : String} :
    line ∈ insertAbove test new lines ↔ line ∈ new ∨ line ∈ lines := by
  induction lines with
  | nil => simp [insertAbove]
  | cons first lines ih =>
      rw [insertAbove]
      split
      · simp
      · simp only [List.mem_cons, ih, or_left_comm]

theorem dropBlanksBelow_sublist : (dropBlanksBelow test lines).Sublist lines := by
  induction lines with
  | nil => exact List.Sublist.refl _
  | cons line lines ih =>
      rw [dropBlanksBelow]
      split
      · exact (List.dropWhile_sublist _).cons_cons line
      · exact ih.cons_cons line

theorem any_dropWhile_isBlank {meets : String → Bool}
    (h : ∀ line, isBlank line = true → meets line = false) (lines : List String) :
    (lines.dropWhile isBlank).any meets = lines.any meets := by
  induction lines with
  | nil => rfl
  | cons line lines ih =>
      cases hb : isBlank line with
      | true => rw [List.dropWhile_cons_of_pos hb, ih, List.any_cons, h line hb, Bool.false_or]
      | false => rw [List.dropWhile_cons_of_neg (by simp [hb])]

theorem any_dropBlanksBelow {meets : String → Bool}
    (h : ∀ line, isBlank line = true → meets line = false) :
    (dropBlanksBelow test lines).any meets = lines.any meets := by
  induction lines with
  | nil => rfl
  | cons line lines ih =>
      rw [dropBlanksBelow]
      split
      · rw [List.any_cons, List.any_cons, any_dropWhile_isBlank h]
      · rw [List.any_cons, List.any_cons, ih]

theorem dropBlanksBelow_eq_self_iff :
    dropBlanksBelow test lines = lines ↔ blankBelow test lines = false := by
  induction lines with
  | nil => simp [dropBlanksBelow, blankBelow]
  | cons line lines ih =>
      rw [dropBlanksBelow, blankBelow]
      split
      · cases lines with
        | nil => simp
        | cons next lines =>
            have hlength := (List.dropWhile_suffix isBlank (l := lines)).length_le
            cases hb : isBlank next with
            | true =>
                rw [List.dropWhile_cons_of_pos hb]
                simp only [List.head?_cons, Option.any_some, hb, Bool.true_eq_false, iff_false]
                intro heq
                have := congrArg List.length heq
                simp only [List.length_cons] at this
                omega
            | false => simp [hb]
      · simpa using ih

theorem blankBelow_insertAbove {other : String} (hother : test other = false) :
    blankBelow test (insertAbove test [other] lines) = blankBelow test lines := by
  induction lines with
  | nil => simp [insertAbove, blankBelow, hother]
  | cons line lines ih =>
      cases ht : test line with
      | true => simp [insertAbove, blankBelow, ht, hother]
      | false => simp [insertAbove, blankBelow, ht, ih]

theorem blankBelow_concat {last : String} (h : lines.any test = false) :
    blankBelow test (lines ++ [last]) = blankBelow test lines := by
  induction lines with
  | nil => simp [blankBelow]
  | cons line lines ih =>
      rw [List.any_cons, Bool.or_eq_false_iff] at h
      simp [blankBelow, h.1, ih h.2]

theorem insertBelow_insertBelow (first : List String) :
    insertBelow test first (insertBelow test new lines) =
      insertBelow test (first ++ new) lines := by
  induction lines with
  | nil => rfl
  | cons line lines ih =>
      cases ht : test line with
      | true => simp [insertBelow, ht]
      | false => simp [insertBelow, ht, ih]

/-- Of two insertions with the same result, the longer one puts in the shorter one and what the
lines of the shorter one hold already. -/
theorem exists_of_insertBelow_eq {new' other : List String} (ht : lines.any test = true)
    (hle : new.length ≤ new'.length)
    (h : insertBelow test new lines = insertBelow test new' other) :
    ∃ mid, new' = new ++ mid ∧ lines = insertBelow test mid other := by
  induction lines generalizing other with
  | nil => simp at ht
  | cons line lines ih =>
      cases other with
      | nil =>
          rw [insertBelow, insertBelow] at h
          split at h <;> simp at h
      | cons line' other =>
          have hhead : line = line' := by
            have := congrArg List.head? h
            rw [insertBelow, insertBelow] at this
            split at this <;> split at this <;> simpa using this
          subst hhead
          rw [insertBelow, insertBelow] at h
          cases htest : test line with
          | true =>
              simp only [htest, if_true, List.cons.injEq, true_and] at h
              have hprefix : new <+: new' :=
                List.prefix_of_prefix_length_le ⟨lines, h⟩ (List.prefix_append new' other) hle
              obtain ⟨mid, rfl⟩ := hprefix
              refine ⟨mid, rfl, ?_⟩
              rw [List.append_assoc] at h
              rw [insertBelow, htest, if_pos rfl, List.append_cancel_left h]
          | false =>
              simp only [htest, Bool.false_eq_true, if_false, List.cons.injEq, true_and] at h
              rw [List.any_cons, htest, Bool.false_or] at ht
              obtain ⟨mid, hnew, hlines⟩ := ih ht h
              refine ⟨mid, hnew, ?_⟩
              rw [insertBelow, htest, hlines]
              rfl

theorem length_insertBelow (h : lines.any test = true) :
    (insertBelow test new lines).length = new.length + lines.length := by
  obtain ⟨above, head, below, rfl, habove, hhead⟩ := exists_first h
  rw [insertBelow_first habove hhead]
  simp only [List.length_append, List.length_cons]
  omega

/-- Where the inserted lines do not pass a filter, it sees the old lines only. -/
theorem filter_insertBelow {keep : String → Bool} (h : ∀ line ∈ new, keep line = false) :
    (insertBelow test new lines).filter keep = lines.filter keep := by
  induction lines with
  | nil => rfl
  | cons line lines ih =>
      rw [insertBelow]
      split
      · have hnew : new.filter keep = [] := by simpa using h
        rw [List.filter_cons, List.filter_cons, List.filter_append, hnew, List.nil_append]
      · rw [List.filter_cons, List.filter_cons, ih]

theorem filter_insertAbove {keep : String → Bool} (h : ∀ line ∈ new, keep line = false) :
    (insertAbove test new lines).filter keep = lines.filter keep := by
  have hnew : new.filter keep = [] := by simpa using h
  induction lines with
  | nil => exact hnew
  | cons line lines ih =>
      rw [insertAbove]
      split
      · rw [List.filter_append, hnew, List.nil_append]
      · rw [List.filter_cons, List.filter_cons, ih]

/-- Among lines that do not pass a filter only the inserted ones can. -/
theorem filter_insertBelow_new {keep : String → Bool} (ht : lines.any test = true)
    (h : ∀ line ∈ lines, keep line = false) :
    (insertBelow test new lines).filter keep = new.filter keep := by
  obtain ⟨above, head, below, rfl, habove, hhead⟩ := exists_first ht
  have hfront : above.filter keep = [] := by
    rw [List.filter_eq_nil_iff]
    intro line hl
    simp [h line (List.mem_append_left (head :: below) hl)]
  have hback : (head :: below).filter keep = [] := by
    rw [List.filter_eq_nil_iff]
    intro line hl
    simp [h line (List.mem_append_right above hl)]
  rw [List.filter_cons, h head (by simp), if_neg (by simp)] at hback
  rw [insertBelow_first habove hhead, List.filter_append, hfront, List.filter_cons,
    h head (by simp), if_neg (by simp), List.filter_append, hback, List.append_nil,
    List.nil_append]

/-- Insertion below a line that is not blank and the loss of leading blank lines do not
disturb each other. -/
theorem dropWhile_insertBelow (htest : ∀ line, test line = true → isBlank line = false)
    (new lines : List String) :
    (insertBelow test new lines).dropWhile isBlank =
      insertBelow test new (lines.dropWhile isBlank) := by
  induction lines with
  | nil => rfl
  | cons line lines ih =>
      cases hl : test line with
      | true => simp [insertBelow, hl, htest line hl]
      | false =>
          cases hb : isBlank line with
          | true => simp [insertBelow, hl, hb, ih]
          | false => simp [insertBelow, hl, hb]

theorem dropBlanksBelow_insertBelow {other : String → Bool} {entry : String}
    (hother : ∀ line, other line = true → isBlank line = false ∧ test line = false)
    (hentry : test entry = false) :
    dropBlanksBelow test (insertBelow other [entry] lines) =
      insertBelow other [entry] (dropBlanksBelow test lines) := by
  induction lines with
  | nil => rfl
  | cons line lines ih =>
      cases ho : other line with
      | true => simp [insertBelow, dropBlanksBelow, ho, (hother line ho).2, hentry]
      | false =>
          cases ht : test line with
          | true =>
              have hdrop := dropWhile_insertBelow (fun l hl => (hother l hl).1) [entry] lines
              simp [insertBelow, dropBlanksBelow, ho, ht, hdrop]
          | false => simp [insertBelow, dropBlanksBelow, ho, ht, ih]

theorem insertBelow_append (h : lines.any test = true) :
    insertBelow test new (lines ++ below) = insertBelow test new lines ++ below := by
  obtain ⟨above, head, rest, rfl, habove, hhead⟩ := exists_first h
  rw [List.append_assoc, List.cons_append, insertBelow_first habove hhead,
    insertBelow_first habove hhead]
  simp

end First

/-! ## Positions -/

section Positions

variable {test : String → Bool} {new lines : List String}

theorem indexFrom?_zero_eq_none_iff :
    indexFrom? test 0 lines = none ↔ lines.any test = false := by
  simp [indexFrom?, List.findIdx?_eq_none_iff]

theorem exists_first_of_indexFrom? {i : Nat} (h : indexFrom? test 0 lines = some i) :
    ∃ above head below, lines = above ++ head :: below ∧ above.any test = false ∧
      test head = true ∧ above.length = i := by
  simp only [indexFrom?, List.drop_zero, Nat.add_zero, Option.map_id'] at h
  obtain ⟨hlt, hhead, hbefore⟩ := List.findIdx?_eq_some_iff_getElem.1 h
  refine ⟨lines.take i, lines[i], lines.drop (i + 1), ?_, ?_, hhead, ?_⟩
  · rw [List.getElem_cons_drop, List.take_append_drop]
  · rw [List.any_eq_false]
    intro line hl
    obtain ⟨j, hj, rfl⟩ := List.getElem_of_mem hl
    rw [List.length_take] at hj
    rw [List.getElem_take]
    exact hbefore j (by omega)
  · rw [List.length_take]
    omega

theorem indexFrom?_first {above below : List String} {head : String}
    (habove : above.any test = false) (hhead : test head = true) :
    indexFrom? test 0 (above ++ head :: below) = some above.length := by
  have hnone : above.findIdx? test = none := by
    rw [List.findIdx?_eq_none_iff]
    intro line hl
    simpa using List.any_eq_false.1 habove line hl
  simp [indexFrom?, List.findIdx?_append, List.findIdx?_cons, hnone, hhead]

theorem insertAt_eq_insertBelow {i : Nat} (h : indexFrom? test 0 lines = some i) :
    insertAt (i + 1) new lines = insertBelow test new lines := by
  obtain ⟨above, head, below, rfl, habove, hhead, rfl⟩ := exists_first_of_indexFrom? h
  have hsplit : above ++ head :: below = (above ++ [head]) ++ below := by simp
  have hlen : above.length + 1 = (above ++ [head]).length := by simp
  rw [insertBelow_first habove hhead, insertAt, hsplit, hlen, List.take_left, List.drop_left]
  simp

theorem insertAt_eq_insertAbove {i : Nat} (h : indexFrom? test 0 lines = some i) :
    insertAt i new lines = insertAbove test new lines := by
  obtain ⟨above, head, below, rfl, habove, hhead, rfl⟩ := exists_first_of_indexFrom? h
  rw [insertAbove_first habove hhead, insertAt, List.take_left, List.drop_left,
    List.append_assoc]

end Positions

end Lines

end SetupForge
