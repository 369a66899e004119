import SetupForge.Proofs.Text.Decoding

/-! # Line breaks of one kind

Two marks make line breaks: the first alone, the second alone, or both in order. A list can be
given both marks for each of its breaks, and can lose the break at its end. An encoding that keeps
the marks apart from all else may come before or after. For a text this is what dividing it into
lines and joining them does.
-/

namespace SetupForge.Text

section Marks

variable {α : Type} [DecidableEq α]

/-- A list with both marks for every line break. -/
def unifiedBreaks (first second : α) : List α → List α
  | [] => []
  | [x] => if x = first ∨ x = second then [first, second] else [x]
  | x :: y :: list =>
      if x = first ∧ y = second then first :: second :: unifiedBreaks first second list
      else if x = first ∨ x = second then
        first :: second :: unifiedBreaks first second (y :: list)
      else x :: unifiedBreaks first second (y :: list)

/-- A list without the two marks at its end, if they stand there. -/
def withoutLastBreak (first second : α) : List α → List α
  | [] => []
  | x :: list =>
      if x = first ∧ list = [second] then [] else x :: withoutLastBreak first second list

variable {first second x : α} {list : List α}

theorem unifiedBreaks_both (list : List α) :
    unifiedBreaks first second (first :: second :: list) =
      first :: second :: unifiedBreaks first second list := by
  rw [unifiedBreaks, if_pos ⟨rfl, rfl⟩]

theorem unifiedBreaks_first (h : list.head? ≠ some second) :
    unifiedBreaks first second (first :: list) =
      first :: second :: unifiedBreaks first second list := by
  cases list with
  | nil => simp [unifiedBreaks]
  | cons y list =>
      have hy : y ≠ second := by simpa using h
      simp [unifiedBreaks, hy]

theorem unifiedBreaks_second (hne : second ≠ first) (list : List α) :
    unifiedBreaks first second (second :: list) =
      first :: second :: unifiedBreaks first second list := by
  cases list <;> simp [unifiedBreaks, hne]

theorem unifiedBreaks_cons (hfirst : x ≠ first) (hsecond : x ≠ second) (list : List α) :
    unifiedBreaks first second (x :: list) = x :: unifiedBreaks first second list := by
  cases list <;> simp [unifiedBreaks, hfirst, hsecond]

theorem unifiedBreaks_append {unbroken : List α} (hfirst : first ∉ unbroken)
    (hsecond : second ∉ unbroken) (list : List α) :
    unifiedBreaks first second (unbroken ++ list) =
      unbroken ++ unifiedBreaks first second list := by
  induction unbroken with
  | nil => rfl
  | cons x unbroken ih =>
      simp only [List.mem_cons, not_or] at hfirst hsecond
      rw [List.cons_append, unifiedBreaks_cons (Ne.symm hfirst.1) (Ne.symm hsecond.1),
        ih hfirst.2 hsecond.2]
      rfl

theorem withoutLastBreak_cons (h : ¬ (x = first ∧ list = [second])) :
    withoutLastBreak first second (x :: list) = x :: withoutLastBreak first second list := by
  rw [withoutLastBreak, if_neg h]

theorem withoutLastBreak_append {unbroken : List α} (h : first ∉ unbroken) (list : List α) :
    withoutLastBreak first second (unbroken ++ list) =
      unbroken ++ withoutLastBreak first second list := by
  induction unbroken with
  | nil => rfl
  | cons x unbroken ih =>
      simp only [List.mem_cons, not_or] at h
      rw [List.cons_append, withoutLastBreak_cons (fun hx => h.1 hx.1.symm), ih h.2]
      rfl

/-! ## Under an encoding -/

section Encoding

variable {β : Type}

/-- Whether an encoding of single items has one mark for each mark, and uses these marks for
nothing else. -/
structure CodesMarks (code : α → List β) (first second : α) (first' second' : β) : Prop where
  first_eq : code first = [first']
  second_eq : code second = [second']
  other {x : α} : x ≠ first → x ≠ second → code x ≠ [] ∧ first' ∉ code x ∧ second' ∉ code x
  apart : second ≠ first
  apart' : second' ≠ first'

namespace CodesMarks

variable {code : α → List β} {first' second' : β}

theorem ne_nil (h : CodesMarks code first second first' second') (x : α) : code x ≠ [] := by
  by_cases hfirst : x = first
  · simp [hfirst, h.first_eq]
  by_cases hsecond : x = second
  · simp [hsecond, h.second_eq]
  exact (h.other hfirst hsecond).1

/-- The second mark starts a code only where it is coded. -/
theorem eq_second_of_code_eq (h : CodesMarks code first second first' second')
    {more : List β} (hx : code x = second' :: more) : x = second := by
  by_cases hfirst : x = first
  · rw [hfirst, h.first_eq, List.cons.injEq] at hx
    exact absurd hx.1.symm h.apart'
  by_cases hsecond : x = second
  · exact hsecond
  exfalso
  apply (h.other hfirst hsecond).2.2
  rw [hx]
  exact List.mem_cons_self

theorem head?_flatMap_eq (h : CodesMarks code first second first' second')
    (hhead : (list.flatMap code).head? = some second') : list.head? = some second := by
  cases list with
  | nil => simp at hhead
  | cons x list =>
      obtain ⟨b, more, hx⟩ := List.exists_cons_of_ne_nil (h.ne_nil x)
      have hb : b = second' := by simpa [hx] using hhead
      rw [hb] at hx
      rw [List.head?_cons, h.eq_second_of_code_eq hx]

theorem flatMap_eq_second (h : CodesMarks code first second first' second')
    (hlist : list.flatMap code = [second']) : list = [second] := by
  cases list with
  | nil => simp at hlist
  | cons x list =>
      have hx : x = second := by
        have hhead : (x :: list).head? = some second :=
          h.head?_flatMap_eq (by rw [hlist]; rfl)
        simpa using hhead
      rw [List.flatMap_cons, hx, h.second_eq] at hlist
      have hrest : list.flatMap code = [] := by simpa using hlist
      cases list with
      | nil => rw [hx]
      | cons y list =>
          rw [List.flatMap_cons, List.append_eq_nil_iff] at hrest
          exact absurd hrest.1 (h.ne_nil y)

variable [DecidableEq β]

/-- A mark that makes a break alone does so in the coded list. -/
theorem unifiedBreaks_flatMap_break (h : CodesMarks code first second first' second')
    (hx : x = first ∨ x = second) (halone : x = first → list.head? ≠ some second) :
    unifiedBreaks first' second' ((x :: list).flatMap code) =
      first' :: second' :: unifiedBreaks first' second' (list.flatMap code) := by
  rw [List.flatMap_cons]
  rcases hx with rfl | rfl
  · rw [h.first_eq, List.singleton_append]
    apply unifiedBreaks_first
    intro hhead
    exact halone rfl (h.head?_flatMap_eq hhead)
  · rw [h.second_eq, List.singleton_append, unifiedBreaks_second h.apart']

omit [DecidableEq α] in
theorem unifiedBreaks_flatMap_other (h : CodesMarks code first second first' second')
    (hx : ¬ (x = first ∨ x = second)) :
    unifiedBreaks first' second' ((x :: list).flatMap code) =
      code x ++ unifiedBreaks first' second' (list.flatMap code) := by
  obtain ⟨hfirst, hsecond⟩ := not_or.1 hx
  obtain ⟨-, hfirst', hsecond'⟩ := h.other hfirst hsecond
  rw [List.flatMap_cons, unifiedBreaks_append hfirst' hsecond']

theorem unifiedBreaks_flatMap (h : CodesMarks code first second first' second')
    (list : List α) :
    unifiedBreaks first' second' (list.flatMap code) =
      (unifiedBreaks first second list).flatMap code := by
  have hbreak : ∀ list : List α, (first :: second :: list).flatMap code =
      first' :: second' :: list.flatMap code := by
    intro list
    rw [List.flatMap_cons, List.flatMap_cons, h.first_eq, h.second_eq]
    rfl
  fun_induction unifiedBreaks first second list with
  | case1 => rfl
  | case2 x hx =>
      rw [h.unifiedBreaks_flatMap_break hx (by simp), hbreak]
      rfl
  | case3 x hx => rw [h.unifiedBreaks_flatMap_other hx, List.flatMap_cons]; rfl
  | case4 x y list hxy ih =>
      obtain ⟨rfl, rfl⟩ := hxy
      rw [hbreak, hbreak, unifiedBreaks_both, ih]
  | case5 x y list hxy hx ih =>
      rw [h.unifiedBreaks_flatMap_break hx (by simpa using hxy), hbreak, ih]
  | case6 x y list hxy hx ih =>
      rw [h.unifiedBreaks_flatMap_other hx, ih, List.flatMap_cons]

theorem withoutLastBreak_flatMap (h : CodesMarks code first second first' second')
    (list : List α) :
    withoutLastBreak first' second' (list.flatMap code) =
      (withoutLastBreak first second list).flatMap code := by
  induction list with
  | nil => rfl
  | cons x list ih =>
      by_cases hfirst : x = first
      · rw [hfirst, List.flatMap_cons, h.first_eq, List.singleton_append]
        by_cases hlast : list = [second]
        · simp [hlast, h.second_eq, withoutLastBreak]
        · rw [withoutLastBreak_cons (fun hx => hlast (h.flatMap_eq_second hx.2)), ih,
            withoutLastBreak_cons (fun hx => hlast hx.2), List.flatMap_cons, h.first_eq]
          rfl
      · have hcode : first' ∉ code x := by
          by_cases hsecond : x = second
          · rw [hsecond, h.second_eq, List.mem_singleton]
            exact Ne.symm h.apart'
          · exact (h.other hfirst hsecond).2.1
        rw [List.flatMap_cons, withoutLastBreak_append hcode, ih,
          withoutLastBreak_cons (fun hx => hfirst hx.1), List.flatMap_cons]

end CodesMarks

end Encoding

end Marks

/-! ## Lines of a text -/

theorem isUnbroken_of_mem_splitLineEnds {text line : List Char}
    (h : line ∈ splitLineEnds text) : isUnbroken line = true := by
  fun_induction splitLineEnds text generalizing line with
  | case1 =>
      rw [List.mem_singleton] at h
      rw [h]
      rfl
  | case2 text ih =>
      rcases List.mem_cons.1 h with rfl | h
      · rfl
      · exact ih h
  | case3 text _ ih =>
      rcases List.mem_cons.1 h with rfl | h
      · rfl
      · exact ih h
  | case4 text ih =>
      rcases List.mem_cons.1 h with rfl | h
      · rfl
      · exact ih h
  | case5 c text _ hr hn ih =>
      obtain ⟨line', lines, hlines⟩ := List.exists_cons_of_ne_nil (splitLineEnds_ne_nil text)
      rw [hlines, consFirst] at h
      rw [hlines] at ih
      rcases List.mem_cons.1 h with rfl | h
      · exact isUnbroken_cons.2 ⟨⟨hr, hn⟩, ih List.mem_cons_self⟩
      · exact ih (List.mem_cons_of_mem _ h)

theorem joinLines_consFirst (c : Char) {lines : List (List Char)} (h : lines ≠ []) :
    joinLines (consFirst c lines) = c :: joinLines lines := by
  obtain ⟨line, lines, rfl⟩ := List.exists_cons_of_ne_nil h
  cases lines <;> rfl

theorem joinLines_nil_cons {lines : List (List Char)} (h : lines ≠ []) :
    joinLines ([] :: lines) = '\r' :: '\n' :: joinLines lines := by
  obtain ⟨line, lines, rfl⟩ := List.exists_cons_of_ne_nil h
  rfl

theorem joinLines_splitLineEnds (text : List Char) :
    joinLines (splitLineEnds text) = unifiedBreaks '\r' '\n' text := by
  fun_induction splitLineEnds text with
  | case1 => rfl
  | case2 text ih =>
      rw [joinLines_nil_cons (splitLineEnds_ne_nil text), ih, unifiedBreaks_both]
  | case3 text hnot ih =>
      rw [joinLines_nil_cons (splitLineEnds_ne_nil text), ih, unifiedBreaks_first]
      intro hhead
      cases text with
      | nil => simp at hhead
      | cons c text =>
          rw [List.head?_cons, Option.some.injEq] at hhead
          exact hnot text (by rw [hhead])
  | case4 text ih =>
      rw [joinLines_nil_cons (splitLineEnds_ne_nil text), ih, unifiedBreaks_second (by decide)]
  | case5 c text _ hr hn ih =>
      rw [joinLines_consFirst c (splitLineEnds_ne_nil text), ih, unifiedBreaks_cons hr hn]

theorem joinLines_dropEmptyLast {lines : List (List Char)}
    (h : ∀ line ∈ lines, isUnbroken line = true) :
    joinLines (dropEmptyLast lines) = withoutLastBreak '\r' '\n' (joinLines lines) := by
  have hbreak : ∀ line : List Char, isUnbroken line = true → '\r' ∉ line := by
    intro line hline hmem
    simpa using List.all_eq_true.1 hline _ hmem
  induction lines with
  | nil => rfl
  | cons line lines ih =>
      obtain ⟨hline, hlines⟩ := List.forall_mem_cons.1 h
      have hcut : ∀ rest, withoutLastBreak '\r' '\n' (line ++ rest) =
          line ++ withoutLastBreak '\r' '\n' rest :=
        withoutLastBreak_append (hbreak line hline)
      cases lines with
      | nil =>
          have hsame : joinLines (dropEmptyLast [line]) = line := by
            cases line <;> rfl
          rw [hsame, joinLines]
          have hline := hcut []
          rw [List.append_nil, withoutLastBreak, List.append_nil] at hline
          exact hline.symm
      | cons next lines =>
          have hdrop : dropEmptyLast (line :: next :: lines) =
              line :: dropEmptyLast (next :: lines) := rfl
          rw [hdrop, joinLines_cons, hcut]
          by_cases hempty : next = [] ∧ lines = []
          · -- the last line is the empty one behind the break
            rw [hempty.1, hempty.2]
            simp [dropEmptyLast, joinLines, withoutLastBreak]
          · have hjoined : joinLines (next :: lines) ≠ [] := by
              cases lines with
              | nil => simpa [joinLines] using hempty
              | cons other lines => simp [joinLines]
            have hkept : dropEmptyLast (next :: lines) ≠ [] := by
              cases lines with
              | nil =>
                  have hnext : next ≠ [] := by simpa using hempty
                  simp [dropEmptyLast, hnext]
              | cons other lines => simp [dropEmptyLast]
            rw [withoutLastBreak_cons (by simpa using hjoined), withoutLastBreak_cons (by simp),
              ← ih hlines]
            obtain ⟨first, others, hothers⟩ := List.exists_cons_of_ne_nil hkept
            rw [hothers, joinLines_cons]

/-- The lines of a text are joined to the text with CRLF for every line break and without the
last one. -/
theorem joinLines_scriptLines (text : List Char) :
    joinLines (scriptLines text) = withoutLastBreak '\r' '\n' (unifiedBreaks '\r' '\n' text) := by
  rw [scriptLines, joinLines_dropEmptyLast fun line => isUnbroken_of_mem_splitLineEnds,
    joinLines_splitLineEnds]

/-- Breaks of all kinds, among them one in front of a CRLF. -/
example : joinLines (scriptLines "a\r\r\nb\n\rc\n".toList) = "a\r\n\r\nb\r\n\r\nc".toList := by
  decide

end SetupForge.Text
