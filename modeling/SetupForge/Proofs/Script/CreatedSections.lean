import SetupForge.Proofs.Script.InstallerNames
import SetupForge.Proofs.Script.SectionEdits

/-! # Sections that are created

A section is looked for by its name without the blanks around it, and its header is made from the
name as it stands. So a created section is found again exactly if no blanks stand around the name.
With blanks the section stays missing, and creating it once more adds one more header.
-/

namespace SetupForge.Section

open Text

variable {name : String} {lines : List String}

/-! ## The header of a name -/

/-- Blanks between the brackets count in a header, and the name that is looked for has none. -/
theorem isHeaderFor_header_iff : isHeaderFor name (header name) = true ↔ trim name = name := by
  constructor
  · intro h
    rw [isHeaderFor, trim_header, beq_iff_eq, ← String.toList_inj, toList_lower, toList_lower,
      toList_header, toList_header, toList_trim] at h
    -- only the dotted capital gets longer in lowercase, and trimming adds none of these
    have hlength := congrArg List.length h
    have hsublist := trimChars_sublist name.toList
    have hshorter := hsublist.length_le
    have hdotted := hsublist.count_le 'İ'
    simp only [length_lowerChars, List.length_cons, List.length_append, List.length_nil,
      List.count_cons, List.count_append, List.count_nil] at hlength
    have hsame : trimChars name.toList = name.toList := hsublist.eq_of_length (by omega)
    rw [← String.toList_inj, toList_trim, hsame]
  · exact isHeaderFor_header_of_trim

/-! ## Creating a section -/

/-- Whether a section of a name is found once it has been created: there was one before, or the
name has no blanks around it. -/
def IsFindable (name : String) (lines : List String) : Prop :=
  (start? name lines).isSome = true ∨ trim name = name

theorem isSome_start?_iff (hname : isBlank name = false) :
    (start? name lines).isSome = true ↔ lines.any (isHeaderFor name) = true := by
  have hnone : start? name lines = none ↔ lines.any (isHeaderFor name) = false :=
    start?_eq_none_iff hname
  cases hstart : start? name lines with
  | none => simp [hnone.1 hstart]
  | some i =>
      rw [hstart] at hnone
      simpa using hnone

theorem isSome_start?_of_added (hname : isBlank name = false) {added : List String}
    (hadded : added.Perm (header name :: lines)) :
    (start? name added).isSome = true ↔ IsFindable name lines := by
  rw [IsFindable, isSome_start?_iff hname, isSome_start?_iff hname, hadded.any_eq, List.any_cons,
    Bool.or_eq_true, isHeaderFor_header_iff, or_comm]

theorem ensure_of_some {start : Nat} (h : start? name lines = some start) :
    ensure name lines = (start, lines) := by
  rw [ensure, h]

theorem ensure_of_none (h : start? name lines = none) :
    ensure name lines = (lines.length, lines ++ [header name]) := by
  rw [ensure, h]

theorem start?_of_ensure (hname : isBlank name = false) :
    start? name (ensure name lines).2 = some (ensure name lines).1 ↔ IsFindable name lines := by
  cases hstart : start? name lines with
  | some start =>
      have hfindable : IsFindable name lines := Or.inl (by rw [hstart]; rfl)
      rw [ensure_of_some hstart]
      exact iff_of_true hstart hfindable
  | none =>
      have hnone := (start?_eq_none_iff hname).1 hstart
      have hadded : (start? name (lines ++ [header name])).isSome = true ↔
          IsFindable name lines :=
        isSome_start?_of_added hname (List.perm_append_singleton (header name) lines)
      rw [ensure_of_none hstart, ← hadded]
      constructor
      · intro hfound
        rw [hfound]
        rfl
      · intro hfound
        rw [hadded, IsFindable, hstart] at hfound
        have hheader := isHeaderFor_header_of_trim (hfound.resolve_left (by simp))
        exact start?_first hname hnone hheader []

/-- Creating a section again adds nothing exactly if it is found. -/
theorem ensure_ensure_iff (hname : isBlank name = false) :
    ensure name (ensure name lines).2 = ensure name lines ↔ IsFindable name lines := by
  rw [← start?_of_ensure hname]
  constructor
  · intro hagain
    cases hstart : start? name (ensure name lines).2 with
    | some start =>
        rw [ensure_of_some hstart] at hagain
        rw [← hagain]
    | none =>
        rw [ensure_of_none hstart] at hagain
        have hlength := congrArg (fun created => created.2.length) hagain
        simp at hlength
  · intro hfound
    rw [ensure_of_some hfound]

theorem insertBefore_perm (name before : String) (lines : List String) :
    (insertBefore name before lines).2.Perm (header name :: lines) := by
  unfold insertBefore
  split
  · rename_i position _
    have hsplit := List.take_append_drop position lines
    show (lines.take position ++ [header name] ++ lines.drop position).Perm _
    conv => rhs; rw [← hsplit]
    rw [List.append_assoc, List.singleton_append]
    exact List.perm_middle
  · exact List.perm_append_singleton _ _

/-- Creating a section keeps all lines in order and adds its header at the end if none is found.
The position that it gives is where the section is found afterwards, creating it again changes
nothing, and a header that was inserted is found, each exactly if a section of the name was found
before or the name has no blanks around it. -/
theorem created_found_iff (hname : isBlank name = false) (lines : List String) :
    ((start? name lines).isSome = true ∧ (ensure name lines).2 = lines ∨
        start? name lines = none ∧ (ensure name lines).2 = lines ++ [header name]) ∧
      (start? name (ensure name lines).2 = some (ensure name lines).1 ↔ IsFindable name lines) ∧
      (ensure name (ensure name lines).2 = ensure name lines ↔ IsFindable name lines) ∧
      ∀ before, lines.Sublist (insertBefore name before lines).2 ∧
        ((start? name (insertBefore name before lines).2).isSome = true ↔
          IsFindable name lines) := by
  have hlines : (start? name lines).isSome = true ∧ (ensure name lines).2 = lines ∨
      start? name lines = none ∧ (ensure name lines).2 = lines ++ [header name] := by
    cases hstart : start? name lines with
    | some start => exact Or.inl ⟨rfl, by rw [ensure_of_some hstart]⟩
    | none => exact Or.inr ⟨rfl, by rw [ensure_of_none hstart]⟩
  refine ⟨hlines, start?_of_ensure hname, ensure_ensure_iff hname, fun before => ?_⟩
  exact ⟨sublist_insertBefore name before lines,
    isSome_start?_of_added hname (insertBefore_perm name before lines)⟩

/-- A section that is there is found by a name with blanks around it, and is found as well when a
header has been inserted above it. -/
theorem created_found_iff_capitals :
    let lines := ["[Setup]", "[RUN]"]
    isBlank " Run " = false ∧ IsFindable " Run " lines ∧ (ensure " Run " lines).2 = lines ∧
      start? " Run " (ensure " Run " lines).2 = some (ensure " Run " lines).1 ∧
      (start? " Run " (insertBefore " Run " "Setup" lines).2).isSome = true := by
  intro lines
  have hname : isBlank " Run " = false := by decide
  have hfound : (start? " Run " lines).isSome = true := by decide +kernel
  have hfindable : IsFindable " Run " lines := Or.inl hfound
  obtain ⟨hlines, hensure, -, hinsert⟩ := created_found_iff hname lines
  refine ⟨hname, hfindable, ?_, hensure.2 hfindable, (hinsert "Setup").2.2 hfindable⟩
  rcases hlines with ⟨-, hsame⟩ | ⟨hnone, -⟩
  · exact hsame
  · rw [hnone] at hfound
    cases hfound

/-- The header of a missing section is made with the blanks around the name, so that it is not found
and the next one is added below it. -/
theorem created_section_lost :
    ensure " Run " ["[Setup]"] = (1, ["[Setup]", "[ Run ]"]) ∧
      start? " Run " ["[Setup]", "[ Run ]"] = none ∧
      ensure " Run " ["[Setup]", "[ Run ]"] = (2, ["[Setup]", "[ Run ]", "[ Run ]"]) ∧
      start? " Run " (insertBefore " Run " "Setup" ["[Setup]"]).2 = none := by
  decide +kernel

end SetupForge.Section
