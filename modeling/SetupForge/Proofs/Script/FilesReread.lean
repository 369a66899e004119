import SetupForge.Proofs.Script.FilesBody
import SetupForge.Proofs.Script.Rereading

/-! # The files section read back

A rebuilt section is written and read again. It is found with the same body exactly if the encoding
of the script keeps every entry and the empty line on top of the entries is not the last line of
the script, where it cannot be told from the line break of the header.
-/

namespace SetupForge.FilesSection

open Text Script

variable {family : String} {names lines above below : List String} {head line : String}
variable {encoding : Encoding} {bytes : Bytes}

def isFollowed (lines : List String) : Bool :=
  match Section.start? sectionName lines with
  | some start => (lines.drop (start + 1)).any Section.isHeader
  | none => false

theorem isFollowed_first (habove : above.any (Section.isHeaderFor sectionName) = false)
    (hhead : Section.isHeaderFor sectionName head = true) :
    isFollowed (above ++ head :: below) = below.any Section.isHeader := by
  rw [isFollowed, Section.start?_first isUnnamed_sectionName habove hhead]
  dsimp only
  rw [Section.drop_below]

theorem head?_rebuild (hsection : lines.any (Section.isHeaderFor sectionName) = true) :
    (rebuild family names lines).head? = lines.head? := by
  obtain ⟨above, head, below, rfl, habove, hhead⟩ := Lines.exists_first hsection
  rw [rebuild_first habove hhead]
  cases above <;> rfl

theorem mem_of_mem_body? {body : List String} (h : Section.body? sectionName lines = some body)
    (hline : line ∈ body) : line ∈ lines := by
  obtain ⟨above, head, below, rfl, habove, hhead⟩ :=
    Lines.exists_first (any_isHeaderFor_of_body? h)
  rw [body?_first habove hhead, Option.some.injEq] at h
  rw [← h] at hline
  exact List.mem_append_right _
    (List.mem_cons_of_mem _ ((List.takeWhile_sublist _).subset hline))

/-! ## Kept entries -/

theorem withoutEmptyLast_append_of_ne {front : List String} (h : ∀ line ∈ front, line ≠ "")
    (back : List String) : withoutEmptyLast (front ++ back) = front ++ withoutEmptyLast back := by
  induction front with
  | nil => rfl
  | cons line front ih =>
      obtain ⟨hline, hfront⟩ := List.forall_mem_cons.1 h
      rw [List.cons_append, withoutEmptyLast_cons hline, ih hfront]
      rfl

section Kept

variable (hkept : ∀ entry ∈ entries family names, encoding.keeps entry = true)

include hkept

theorem map_reread_entries :
    (entries family names).map encoding.reread = entries family names := by
  rw [List.map_congr_left fun entry hentry => Encoding.reread_of_has ?_, List.map_id']
  exact List.all_eq_true.1 (Bool.and_eq_true_iff.1 (hkept entry hentry)).2

end Kept

theorem withoutEmptyLast_body {rest : List String} (h : entries family names ≠ [] ∨ rest ≠ []) :
    withoutEmptyLast ("" :: (entries family names ++ rest)) =
      "" :: (entries family names ++ withoutEmptyLast rest) := by
  have hentries : ∀ entry ∈ entries family names, entry ≠ "" := by
    intro entry hentry
    obtain ⟨name, folder, flags, rfl⟩ := exists_of_mem_entries hentry
    exact FileEntry.line_ne_empty _ _ _
  have hback : entries family names ++ rest ≠ [] := by
    rcases h with h | h <;> simp [h]
  rw [← withoutEmptyLast_append_of_ne hentries, ← List.singleton_append,
    withoutEmptyLast_append [""] hback]
  rfl

theorem any_isHeader_iff :
    below.any Section.isHeader = true ↔
      below.dropWhile (fun line => !Section.isHeader line) ≠ [] := by
  rw [ne_eq, List.dropWhile_eq_nil_iff, ← Bool.not_eq_false, List.any_eq_false]
  simp

theorem takeWhile_reread (hgives : ∀ line ∈ below, encoding.Gives line) :
    (withoutEmptyLast ((below.dropWhile fun line => !Section.isHeader line).map
      encoding.reread)).takeWhile (fun line => !Section.isHeader line) = [] := by
  cases hrest : below.dropWhile fun line => !Section.isHeader line with
  | nil => rfl
  | cons next rest =>
      have hmem : next ∈ below.dropWhile fun line => !Section.isHeader line := by
        rw [hrest]
        exact List.mem_cons_self
      have hfirst := List.head?_dropWhile_not (fun line => !Section.isHeader line) below
      rw [hrest, List.head?_cons] at hfirst
      have hnext : Section.isHeader next = true := by simpa using hfirst
      have hread := Section.isHeader_reread (hgives next ((List.dropWhile_sublist _).subset hmem)) hnext
      have hne : encoding.reread next ≠ "" := by
        intro hempty
        rw [hempty] at hread
        cases hread
      rw [List.map_cons, withoutEmptyLast_cons hne, List.takeWhile_cons, hread]
      rfl

section Rebuilt

variable (habove : above.any (Section.isHeaderFor sectionName) = false)
variable (hhead : Section.isHeaderFor sectionName head = true)
variable (hgives : ∀ line ∈ above ++ head :: below, encoding.Gives line)
variable (hkept : ∀ entry ∈ entries family names, encoding.keeps entry = true)

include habove hhead hgives hkept

/-- What is read back below the header of the section. -/
theorem body?_reread_eq :
    Section.body? sectionName (withoutEmptyLast
        ((rebuild family names (above ++ head :: below)).map encoding.reread)) =
      some ((withoutEmptyLast ("" :: (entries family names ++
        (below.dropWhile fun line => !Section.isHeader line).map encoding.reread))).takeWhile
          fun line => !Section.isHeader line) := by
  have hfor : ∀ line ∈ above ++ head :: below,
      Section.isHeaderFor sectionName (encoding.reread line) =
        Section.isHeaderFor sectionName line :=
    fun line hline => Section.isHeaderFor_reread (by decide) (by decide) (hgives line hline)
  have habove' : (above.map encoding.reread).any (Section.isHeaderFor sectionName) = false := by
    rw [List.any_map, List.any_eq_false]
    intro line hline
    rw [Function.comp_apply, hfor line (by simp [hline])]
    exact List.any_eq_false.1 habove line hline
  have hhead' : Section.isHeaderFor sectionName (encoding.reread head) = true := by
    rw [hfor head (by simp), hhead]
  have hlines : withoutEmptyLast
      ((rebuild family names (above ++ head :: below)).map encoding.reread) =
      above.map encoding.reread ++ encoding.reread head ::
        withoutEmptyLast ("" :: (entries family names ++
          (below.dropWhile fun line => !Section.isHeader line).map encoding.reread)) := by
    have hempty : encoding.reread "" = "" := rfl
    have hfront := @withoutEmptyLast_append (above.map encoding.reread ++ [encoding.reread head])
      ("" :: (entries family names ++
        (below.dropWhile fun line => !Section.isHeader line).map encoding.reread)) (by simp)
    rw [List.append_assoc, List.append_assoc, List.singleton_append, List.singleton_append]
      at hfront
    rw [rebuild_first habove hhead, List.map_append, List.map_cons, List.map_cons, List.map_append,
      map_reread_entries hkept, hempty, hfront]
  rw [hlines, body?_first habove' hhead']

/-- The section is read back as it was rebuilt if it has entries or another section follows. -/
theorem body?_reread (h : entries family names ≠ [] ∨ below.any Section.isHeader = true) :
    Section.body? sectionName (withoutEmptyLast
        ((rebuild family names (above ++ head :: below)).map encoding.reread)) =
      some ("" :: entries family names) := by
  have hbelow : ∀ line ∈ below, encoding.Gives line := fun line hline =>
    hgives line (List.mem_append_right _ (List.mem_cons_of_mem _ hline))
  have hback : entries family names ≠ [] ∨
      (below.dropWhile fun line => !Section.isHeader line).map encoding.reread ≠ [] := by
    rw [any_isHeader_iff] at h
    simpa using h
  rw [body?_reread_eq habove hhead hgives hkept, withoutEmptyLast_body hback, ← List.cons_append,
    List.takeWhile_append_of_pos fun _ => plain_of_mem_body, takeWhile_reread hbelow,
    List.append_nil]

/-- The empty line of a section without entries at the end of a script is not read back. -/
theorem body?_reread_of_last (hnone : entries family names = [])
    (hlast : below.any Section.isHeader = false) :
    Section.body? sectionName (withoutEmptyLast
        ((rebuild family names (above ++ head :: below)).map encoding.reread)) = some [] := by
  have hrest : below.dropWhile (fun line => !Section.isHeader line) = [] := by
    by_contra hne
    rw [any_isHeader_iff.2 hne] at hlast
    cases hlast
  rw [body?_reread_eq habove hhead hgives hkept, hnone, hrest]
  rfl

end Rebuilt

/-! ## The section of a script that is read back -/

theorem isSome_body? (hsection : lines.any (Section.isHeaderFor sectionName) = true) :
    (Section.body? sectionName lines).isSome := by
  obtain ⟨above, head, below, rfl, habove, hhead⟩ := Lines.exists_first hsection
  rw [body?_first habove hhead]
  rfl

theorem any_isHeaderFor_reread
    (hsection : (ofBytes bytes).lines.any (Section.isHeaderFor sectionName) = true)
    (hread : IsReadBack { ofBytes bytes with
      lines := rebuild family names (ofBytes bytes).lines }) :
    (ofBytes (toBytes { ofBytes bytes with
        lines := rebuild family names (ofBytes bytes).lines })).lines.any
      (Section.isHeaderFor sectionName) = true := by
  have hgives : ∀ line ∈ (ofBytes bytes).lines, (ofBytes bytes).encoding.Gives line :=
    fun _ => gives_of_mem_lines
  rw [lines_reread (head?_rebuild hsection) hread]
  generalize (ofBytes bytes).lines = lines at *
  generalize (ofBytes bytes).encoding = encoding at *
  obtain ⟨above, head, below, rfl, habove, hhead⟩ := Lines.exists_first hsection
  have hfront : ∀ line ∈ above ++ [head], isUnbroken line.toList = true := fun line hline =>
    (hgives line (List.IsPrefix.subset ⟨below, by simp⟩ hline)).1
  have hlines : rebuild family names (above ++ head :: below) = (above ++ [head]) ++
      "" :: (entries family names ++ below.dropWhile fun line => !Section.isHeader line) := by
    rw [rebuild_first habove hhead]
    simp
  rw [hlines, List.any_eq_true]
  refine ⟨_, mem_scriptLines_written hfront (by simp) (by simp : head ∈ above ++ [head]), ?_⟩
  rw [Section.isHeaderFor_reread (by decide) (by decide) (hgives head (by simp)), hhead]

/-- A script that was read, rebuilt and written is read back with the rebuilt body exactly if its
encoding keeps all entries, and there are entries or another section follows. -/
theorem body?_ofBytes_toBytes_iff
    (hsection : (ofBytes bytes).lines.any (Section.isHeaderFor sectionName) = true)
    (hread : IsReadBack { ofBytes bytes with
      lines := rebuild family names (ofBytes bytes).lines }) :
    Section.body? sectionName (ofBytes (toBytes { ofBytes bytes with
        lines := rebuild family names (ofBytes bytes).lines })).lines =
      some ("" :: entries family names) ↔
    (∀ entry ∈ entries family names, (ofBytes bytes).encoding.keeps entry = true) ∧
      (entries family names ≠ [] ∨ isFollowed (ofBytes bytes).lines = true) := by
  have hgives : ∀ line ∈ (ofBytes bytes).lines, (ofBytes bytes).encoding.Gives line :=
    fun _ => gives_of_mem_lines
  rw [lines_reread (head?_rebuild hsection) hread]
  generalize (ofBytes bytes).lines = lines at *
  generalize (ofBytes bytes).encoding = encoding at *
  obtain ⟨above, head, below, rfl, habove, hhead⟩ := Lines.exists_first hsection
  rw [isFollowed_first habove hhead]
  -- where the entries are kept no line of the rebuilt script has a line break
  have hback : (∀ entry ∈ entries family names, encoding.keeps entry = true) →
      (scriptLines ((joinLines ((rebuild family names (above ++ head :: below)).map
        String.toList)).map encoding.written)).map String.ofList =
      withoutEmptyLast ((rebuild family names (above ++ head :: below)).map encoding.reread) := by
    intro hkept
    refine scriptLines_written encoding fun line hline => ?_
    rcases mem_of_mem_rebuild hsection hline with hline | rfl | hline
    · exact (hgives line hline).1
    · rfl
    · exact (Bool.and_eq_true_iff.1 (hkept line hline)).1
  constructor
  · intro hbody
    have hkept : ∀ entry ∈ entries family names, encoding.keeps entry = true :=
      fun entry hentry => keeps_of_mem_scriptLines
        (mem_of_mem_body? hbody (List.mem_cons_of_mem _ hentry))
    refine ⟨hkept, ?_⟩
    by_contra hlast
    rw [not_or, not_not, Bool.not_eq_true] at hlast
    rw [hback hkept, body?_reread_of_last habove hhead hgives hkept hlast.1 hlast.2] at hbody
    cases hbody
  · rintro ⟨hkept, hmore⟩
    rw [hback hkept]
    exact body?_reread habove hhead hgives hkept hmore

end SetupForge.FilesSection
