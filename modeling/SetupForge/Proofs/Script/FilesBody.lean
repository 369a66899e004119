import Mathlib.Data.List.Nodup
import Mathlib.Data.List.TakeWhile
import SetupForge.Proofs.Script.SectionEdits
import SetupForge.Script.FileEntry

/-! # The rebuilt files section

The body of a rebuilt files section is an empty line and the entries of the files, in place of what
stood there. An entry is no header, no marker, no heading and no install step. A file that is
listed once has its payload entry once, since neither another payload nor a program file has the
same entry.
-/

namespace SetupForge

open Text

/-! ## Entries -/

namespace FileEntry

variable {family name other folder flags : String}

theorem toList_line (name folder flags : String) :
    (line name folder flags).toList = "Source: \"\x7b#SourcePath\x7d\\".toList ++
      (name.toList ++ ("\"; DestDir: \"\x7b".toList ++ (folder.toList ++
        ("\x7d\"; Flags: ".toList ++ flags.toList)))) := by
  delta line
  simp only [String.toList_append, List.append_assoc]

theorem dropBlanks_line (name folder flags : String) :
    ∃ text, dropBlanks (line name folder flags).toList = 'S' :: text := by
  have hopen : ∃ text, "Source: \"\x7b#SourcePath\x7d\\".toList = 'S' :: text :=
    ⟨_, String.toList_ofList⟩
  have hline : ∃ text, (line name folder flags).toList = 'S' :: text := by
    obtain ⟨text, hopen⟩ := hopen
    exact ⟨_, (toList_line name folder flags).trans (congrArg (· ++ _) hopen)⟩
  obtain ⟨text, hline⟩ := hline
  rw [hline, dropBlanks_cons, if_neg (by decide)]
  exact ⟨_, rfl⟩

theorem inert_line (name folder flags : String) : Routine.Inert (line name folder flags) := by
  obtain ⟨text, htext⟩ := dropBlanks_line name folder flags
  exact Routine.inert_of_dropBlanks htext (by decide) (Routine.opensHeading_cons (by decide) text)

theorem isStep_line (family name folder flags : String) :
    RunStep.isStep family (line name folder flags) = false := by
  obtain ⟨text, htext⟩ := dropBlanks_line name folder flags
  exact RunStep.isStep_eq_false htext (by decide)

theorem isHeader_line (name folder flags : String) :
    Section.isHeader (line name folder flags) = false := by
  obtain ⟨text, htext⟩ := dropBlanks_line name folder flags
  cases hh : Section.isHeader (line name folder flags) with
  | false => rfl
  | true =>
      have hbracket := Section.opensBracket_of_isHeader hh
      rw [Section.opensBracket, htext] at hbracket
      exact absurd hbracket (by simp)

theorem line_ne_empty (name folder flags : String) : line name folder flags ≠ "" := by
  intro h
  obtain ⟨text, htext⟩ := dropBlanks_line name folder flags
  rw [h] at htext
  cases htext

theorem line_injective (folder flags : String) :
    Function.Injective fun name => line name folder flags := by
  intro name other h
  have hlists := congrArg String.toList h
  dsimp only at hlists
  rw [toList_line, toList_line] at hlists
  exact String.toList_inj.1 (List.append_cancel_right (List.append_cancel_left hlists))

theorem application_ne_payload (name other : String) : application name ≠ payload other := by
  intro h
  have hends : "ignoreversion".toList.getLast? = some 'n' ∧
      "deleteafterinstall".toList.getLast? = some 'l' := by decide
  have hlast : (application name).toList.getLast? = (payload other).toList.getLast? := by rw [h]
  rw [application, payload, toList_line, toList_line] at hlast
  simp only [List.getLast?_append, hends.1, hends.2, Option.some_or] at hlast
  exact absurd hlast (by decide)

theorem of?_eq_some_payload_iff :
    of? family name = some (payload other) ↔ isInstaller family name = true ∧ name = other := by
  unfold of?
  cases hi : isInstaller family name with
  | true =>
      have hsame : payload name = payload other ↔ name = other :=
        (line_injective "tmp" "deleteafterinstall").eq_iff
      rw [if_pos rfl, Option.some.injEq, hsame]
      simp
  | false =>
      rw [if_neg (by simp)]
      split
      · rw [Option.some.injEq]
        simpa using application_ne_payload name other
      · simp

end FileEntry

/-! ## The section -/

namespace FilesSection

variable {family name : String} {names lines above below : List String} {head line : String}

theorem exists_of_mem_entries (h : line ∈ entries family names) :
    ∃ name folder flags, line = FileEntry.line name folder flags := by
  obtain ⟨name, -, hentry⟩ := List.mem_filterMap.1 h
  unfold FileEntry.of? at hentry
  split at hentry
  · exact ⟨name, _, _, (Option.some.inj hentry).symm⟩
  · split at hentry
    · exact ⟨name, _, _, (Option.some.inj hentry).symm⟩
    · simp at hentry

theorem count_entries (h : FileEntry.isInstaller family name = true) (names : List String) :
    (entries family names).count (FileEntry.payload name) = names.count name := by
  have hentry : ∀ other ∈ sorted names,
      (FileEntry.of? family other == some (FileEntry.payload name)) = true ↔
        (other == name) = true := by
    intro other _
    rw [beq_iff_eq, beq_iff_eq, FileEntry.of?_eq_some_payload_iff]
    constructor
    · rintro ⟨-, rfl⟩
      rfl
    · rintro rfl
      exact ⟨h, rfl⟩
  calc (entries family names).count (FileEntry.payload name)
      = (sorted names).count name := by
        rw [entries, List.count_filterMap]
        exact List.countP_congr hentry
    _ = names.count name := (sorted_perm names).count_eq name

theorem isUnnamed_sectionName : Section.isUnnamed sectionName = false := by decide

theorem rebuild_first (habove : above.any (Section.isHeaderFor sectionName) = false)
    (hhead : Section.isHeaderFor sectionName head = true) :
    rebuild family names (above ++ head :: below) =
      above ++ head :: ("" :: (entries family names ++
        below.dropWhile fun line => !Section.isHeader line)) := by
  have hsplit : ∀ rest, above ++ head :: rest = (above ++ [head]) ++ rest := by simp
  have hlength : above.length + 1 = (above ++ [head]).length := by simp
  rw [rebuild, Section.start?_first isUnnamed_sectionName habove hhead]
  dsimp only
  rw [Section.clear_first isUnnamed_sectionName habove hhead, Lines.insertAt, hsplit, hlength,
    List.take_left, List.drop_left]
  simp

theorem mem_of_mem_rebuild (hsection : lines.any (Section.isHeaderFor sectionName) = true)
    (h : line ∈ rebuild family names lines) :
    line ∈ lines ∨ line = "" ∨ line ∈ entries family names := by
  obtain ⟨above, head, below, rfl, habove, hhead⟩ := Lines.exists_first hsection
  rw [rebuild_first habove hhead] at h
  simp only [List.mem_append, List.mem_cons] at h ⊢
  rcases h with h | h | h | h | h
  · exact Or.inl (Or.inl h)
  · exact Or.inl (Or.inr (Or.inl h))
  · exact Or.inr (Or.inl h)
  · exact Or.inr (Or.inr h)
  · exact Or.inl (Or.inr (Or.inr ((List.dropWhile_sublist _).subset h)))

theorem body?_first (habove : above.any (Section.isHeaderFor sectionName) = false)
    (hhead : Section.isHeaderFor sectionName head = true) :
    Section.body? sectionName (above ++ head :: below) =
      some (below.takeWhile fun line => !Section.isHeader line) := by
  rw [Section.body?_eq_bodyBelow? isUnnamed_sectionName, Section.bodyBelow?_first habove hhead]

theorem plain_of_mem_body (h : line ∈ "" :: entries family names) :
    (!Section.isHeader line) = true := by
  rcases List.mem_cons.1 h with rfl | h
  · decide
  · obtain ⟨name, folder, flags, rfl⟩ := exists_of_mem_entries h
    rw [FileEntry.isHeader_line]
    rfl

theorem body?_rebuild (h : lines.any (Section.isHeaderFor sectionName) = true) :
    Section.body? sectionName (rebuild family names lines) =
      some ("" :: entries family names) := by
  obtain ⟨above, head, below, rfl, habove, hhead⟩ := Lines.exists_first h
  have hrest : (below.dropWhile fun line => !Section.isHeader line).takeWhile
      (fun line => !Section.isHeader line) = [] := by
    rw [List.takeWhile_eq_nil_iff]
    exact List.dropWhile_get_zero_not _ below
  rw [rebuild_first habove hhead, body?_first habove hhead, ← List.cons_append,
    List.takeWhile_append_of_pos fun _ => plain_of_mem_body, hrest, List.append_nil]

theorem any_isHeaderFor_of_body? {body : List String}
    (h : Section.body? sectionName lines = some body) :
    lines.any (Section.isHeaderFor sectionName) = true := by
  by_contra hnone
  rw [Bool.not_eq_true] at hnone
  rw [Section.body?_eq_bodyBelow? isUnnamed_sectionName, Section.bodyBelow?_of_none hnone] at h
  cases h

theorem rebuild_eq_self_iff {body : List String}
    (h : Section.body? sectionName lines = some body) :
    rebuild family names lines = lines ↔ "" :: entries family names = body := by
  obtain ⟨above, head, below, rfl, habove, hhead⟩ :=
    Lines.exists_first (any_isHeaderFor_of_body? h)
  rw [body?_first habove hhead, Option.some.injEq] at h
  have hbelow := List.takeWhile_append_dropWhile
    (p := fun line => !Section.isHeader line) (l := below)
  rw [h] at hbelow
  rw [rebuild_first habove hhead, List.append_cancel_left_eq, List.cons.injEq, ← List.cons_append]
  conv => lhs; rhs; rhs; rw [← hbelow]
  rw [List.append_cancel_right_eq]
  exact and_iff_right rfl

end FilesSection

end SetupForge
