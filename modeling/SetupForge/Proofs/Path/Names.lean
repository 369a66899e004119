import SetupForge.Path

/-! # Names between slashes

A text without slashes is one name. The names of a text hold no slashes, so that each of them, read
as a path by itself, is this name again. The text of a path ends in its last name.
-/

namespace SetupForge

namespace Text

variable {separator : Char} {text piece : List Char}

theorem splitOn_eq_singleton (h : separator ∉ text) : splitOn separator text = [text] := by
  induction text with
  | nil => rfl
  | cons c text ih =>
      rw [List.mem_cons, not_or] at h
      rw [splitOn, if_neg (Ne.symm h.1), ih h.2]

theorem not_mem_of_mem_splitOn (h : piece ∈ splitOn separator text) : separator ∉ piece := by
  induction text generalizing piece with
  | nil =>
      rw [splitOn, List.mem_singleton] at h
      rw [h]
      exact List.not_mem_nil
  | cons c text ih =>
      rw [splitOn] at h
      by_cases hc : c = separator
      · rw [if_pos hc] at h
        rcases List.mem_cons.1 h with rfl | h
        · exact List.not_mem_nil
        · exact ih h
      · rw [if_neg hc] at h
        cases hsplit : splitOn separator text with
        | nil => exact absurd hsplit (splitOn_ne_nil separator text)
        | cons first pieces =>
            rw [hsplit] at h ih
            rcases List.mem_cons.1 h with rfl | h
            · rw [List.mem_cons, not_or]
              exact ⟨Ne.symm hc, ih (List.mem_cons_self ..)⟩
            · exact ih (List.mem_cons_of_mem _ h)

end Text

namespace Path

variable {text : List Char} {name : String}

/-- A text without slashes is one name, unless it is empty or a dot. -/
theorem ofString_ofList (h : '/' ∉ text) (hempty : text ≠ []) (hdot : text ≠ ['.']) :
    ofString (String.ofList text) = ⟨.current, [String.ofList text]⟩ := by
  have hroot : rootOf text = .current := by
    obtain ⟨c, rest, rfl⟩ := List.exists_cons_of_ne_nil hempty
    rw [List.mem_cons, not_or] at h
    rw [rootOf, List.takeWhile_cons_of_neg (by simpa using Ne.symm h.1)]
    rfl
  rw [ofString, String.toList_ofList, hroot, namesOf, Text.splitOn_eq_singleton h]
  simp [hempty, hdot]

theorem ofString_of_mem_namesOf (h : name ∈ namesOf text) : ofString name = ⟨.current, [name]⟩ := by
  obtain ⟨piece, hpiece, rfl⟩ := List.mem_map.1 h
  obtain ⟨hmem, hname⟩ := List.mem_filter.1 hpiece
  rw [decide_eq_true_eq] at hname
  exact ofString_ofList (Text.not_mem_of_mem_splitOn hmem) hname.1 hname.2

theorem ofString_fileName {text : String} (h : (ofString text).fileName ≠ "") :
    ofString (ofString text).fileName = ⟨.current, [(ofString text).fileName]⟩ := by
  apply ofString_of_mem_namesOf
  show (namesOf text.toList).getLast?.getD "" ∈ namesOf text.toList
  cases hlast : (namesOf text.toList).getLast? with
  | none =>
      rw [fileName, ofString, hlast] at h
      exact absurd rfl h
  | some last => exact List.mem_of_getLast? hlast

theorem exists_toString_child (path : Path) :
    ∃ above, ∀ name, name ≠ "" → (path.child name).toString = above ++ name := by
  by_cases hnames : path.names = []
  · refine ⟨path.root.slashes, fun name hname => ?_⟩
    rw [toString, child, hnames, List.nil_append, String.intercalate_singleton, if_neg]
    simp [hname]
  · refine ⟨path.root.slashes ++ "/".intercalate path.names ++ "/", fun name hname => ?_⟩
    rw [toString, child,
      String.intercalate_append_of_ne_nil hnames (List.cons_ne_nil name []),
      String.intercalate_singleton, if_neg]
    · simp only [String.append_assoc]
    · simp [hname]

end Path

end SetupForge
