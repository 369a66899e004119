import SetupForge.Proofs.Script.SectionBody

/-! # Changes of one section

Adding, clearing and removing a section all put lines of this section in the place of others, above
a header or at the end of the script. No other section sees that: its body and the lines above the
first header are what they were.
-/

namespace SetupForge.Section

open Text Lines

variable {name other line head : String} {lines above below part : List String}

/-! ## Positions around the first header of a name -/

theorem start?_eq_none_iff (hname : isBlank name = false) :
    start? name lines = none ↔ lines.any (isHeaderFor name) = false := by
  rw [start?_eq hname, indexFrom?_zero_eq_none_iff]

theorem drop_body (above below : List String) (head : String) :
    (above ++ head :: below).drop
        (above.length + (below.takeWhile fun line => !isHeader line).length + 1) =
      below.dropWhile fun line => !isHeader line := by
  have hsplit := List.takeWhile_append_dropWhile (p := fun line => !isHeader line) (l := below)
  rw [Nat.add_right_comm, ← List.drop_drop, drop_below]
  conv => lhs; rhs; rw [← hsplit]
  exact List.drop_left

section First

variable (hname : isBlank name = false) (habove : above.any (isHeaderFor name) = false)
variable (hhead : isHeaderFor name head = true)

include hname habove hhead

theorem start?_first (below : List String) :
    start? name (above ++ head :: below) = some above.length := by
  rw [start?_eq hname, indexFrom?_first habove hhead]

theorem end?_first (below : List String) : end? name (above ++ head :: below) =
    some (above.length + (below.takeWhile fun line => !isHeader line).length) := by
  unfold end?
  rw [isUnnamed, hname, if_neg (by simp), start?_first hname habove hhead, Option.map_some,
    endFrom_below]

theorem remove_first (below : List String) :
    remove name (above ++ head :: below) =
      above ++ below.dropWhile fun line => !isHeader line := by
  rw [remove, start?_first hname habove hhead, end?_first hname habove hhead]
  simp only [isUnnamed, hname, Bool.false_eq_true, if_false, removeRange, List.take_left,
    drop_body]

theorem clear_first (below : List String) :
    clear name (above ++ head :: below) =
      above ++ head :: below.dropWhile fun line => !isHeader line := by
  rw [clear, start?_first hname habove hhead, end?_first hname habove hhead]
  simp only [isUnnamed, hname, Bool.false_or, decide_eq_true_eq]
  split
  · rename_i hshort
    have hbody : below.takeWhile (fun line => !isHeader line) = [] :=
      List.length_eq_zero_iff.1 (by omega)
    have hkept := List.takeWhile_append_dropWhile (p := fun line => !isHeader line) (l := below)
    rw [hbody, List.nil_append] at hkept
    rw [hkept]
  · have hfront : (above ++ head :: below).take (above.length + 1) = above ++ [head] := by
      have hsplit : above ++ head :: below = (above ++ [head]) ++ below := by simp
      have hlength : above.length + 1 = (above ++ [head]).length := by simp
      rw [hsplit, hlength, List.take_left]
    rw [removeRange, hfront, drop_body, List.append_assoc]
    rfl

end First

theorem remove_of_none (hname : isBlank name = false)
    (h : lines.any (isHeaderFor name) = false) : remove name lines = lines := by
  rw [remove, (start?_eq_none_iff hname).2 h]

theorem clear_of_none (hname : isBlank name = false)
    (h : lines.any (isHeaderFor name) = false) : clear name lines = lines := by
  rw [clear, (start?_eq_none_iff hname).2 h]

/-! ## The lines above the first header -/

theorem endFrom_zero_of_not_isHeader (h : isHeader head = false) (below : List String) :
    endFrom 0 (head :: below) = endFrom 1 (head :: below) := by
  have hindex : indexFrom? isHeader 0 (head :: below) = indexFrom? isHeader 1 (head :: below) := by
    simp [indexFrom?, List.findIdx?_cons, h, Function.comp_def]
  rw [endFrom, hindex, endFrom]

/-- The body of the unnamed section is what stands above the first header, if anything does. -/
theorem body?_of_isUnnamed (hname : isUnnamed name = true) (lines : List String) :
    body? name lines =
      if (lines.takeWhile fun line => !isHeader line).isEmpty then none
      else some (lines.takeWhile fun line => !isHeader line) := by
  unfold body? start? end?
  simp only [hname, if_true]
  cases lines with
  | nil => rfl
  | cons head below =>
      cases hh : isHeader head with
      | true => simp [hh]
      | false =>
          have hend : endFrom 1 (head :: below) =
              (below.takeWhile fun line => !isHeader line).length := by
            simpa using endFrom_below [] below head
          have hbody := List.prefix_iff_eq_take.1
            (List.takeWhile_prefix (fun line => !isHeader line) (l := below))
          simp [hh, endFrom_zero_of_not_isHeader hh, hend, slice, ← hbody]

/-! ## Parts of a script that hold lines of one section -/

/-- Whether lines open with a header, or are none. -/
def opensSection (lines : List String) : Bool := lines.head?.all isHeader

theorem opensSection_nil : opensSection [] = true := rfl

/-- Lines of sections of one name: they open with a header, and their headers are all for the
name. -/
structure IsPartOf (name : String) (part : List String) : Prop where
  opens : opensSection part = true
  heads : ∀ line ∈ part, isHeader line = true → isHeaderFor name line = true

theorem IsPartOf.nil (name : String) : IsPartOf name [] := ⟨rfl, by simp⟩

theorem takeWhile_of_opensSection (h : opensSection lines = true) :
    lines.takeWhile (fun line => !isHeader line) = [] := by
  cases lines with
  | nil => rfl
  | cons line lines =>
      have hline : isHeader line = true := by simpa [opensSection] using h
      simp [hline]

theorem dropWhile_of_opensSection (h : opensSection lines = true) :
    lines.dropWhile (fun line => !isHeader line) = lines := by
  have hsplit := List.takeWhile_append_dropWhile (p := fun line => !isHeader line) (l := lines)
  rwa [takeWhile_of_opensSection h, List.nil_append] at hsplit

theorem opensSection_dropWhile (lines : List String) :
    opensSection (lines.dropWhile fun line => !isHeader line) = true := by
  cases hrest : lines.dropWhile fun line => !isHeader line with
  | nil => rfl
  | cons line rest =>
      have hline := List.head?_dropWhile_not (fun line => !isHeader line) lines
      rw [hrest] at hline
      simpa [opensSection] using hline

/-- A part ends the lines above it where the lines below it end them. -/
theorem takeWhile_insert_part (hpart : opensSection part = true)
    (hbelow : opensSection below = true) (above : List String) :
    (above ++ (part ++ below)).takeWhile (fun line => !isHeader line) =
      (above ++ below).takeWhile fun line => !isHeader line := by
  have hopens : opensSection (part ++ below) = true := by
    cases part with
    | nil => exact hbelow
    | cons line part => exact hpart
  induction above with
  | nil =>
      rw [List.nil_append, List.nil_append, takeWhile_of_opensSection hopens,
        takeWhile_of_opensSection hbelow]
  | cons line above ih => simp only [List.cons_append, List.takeWhile_cons, ih]

/-- A part without a header of a name, above another section or at the end, leaves the body of
the name as it is. -/
theorem bodyBelow?_insert_part (hpart : opensSection part = true)
    (hnone : ∀ line ∈ part, isHeaderFor name line = false) (hbelow : opensSection below = true)
    (above : List String) :
    bodyBelow? name (above ++ (part ++ below)) = bodyBelow? name (above ++ below) := by
  induction above with
  | nil => exact bodyBelow?_append_of_none hnone below
  | cons line above ih =>
      simp only [List.cons_append, bodyBelow?, takeWhile_insert_part hpart hbelow, ih]

/-! ## Names -/

theorem toList_header (name : String) : (header name).toList = '[' :: (name.toList ++ [']']) := by
  simp [header, String.toList_append]

theorem trim_header (name : String) : trim (header name) = header name := by
  rw [← String.toList_inj, toList_trim, toList_header, trimChars_eq_self (by decide) (by decide)]

theorem isHeaderFor_header_of_trim (h : trim name = name) :
    isHeaderFor name (header name) = true := by
  rw [isHeaderFor, trim_header, h, beq_self_eq_true]

/-- A name as it stands between the brackets of a header. -/
structure IsName (name : String) : Prop where
  nonempty : name ≠ ""
  trimmed : trim name = name
  plain : '[' ∉ name.toList ∧ ']' ∉ name.toList

namespace IsName

theorem isBlank_eq (h : IsName name) : isBlank name = false := by
  cases hb : isBlank name with
  | false => rfl
  | true =>
      have hnil : dropBlanks name.toList = [] :=
        dropBlanks_eq_nil_iff.2 (by simpa [isBlank] using hb)
      have hempty : name.toList = [] := by
        rw [← h.trimmed, toList_trim, trimChars, hnil]
        rfl
      exact absurd (String.toList_eq_nil_iff.1 hempty) h.nonempty

theorem isHeader_of_isHeaderFor (h : IsName name) (hline : isHeaderFor name line = true) :
    isHeader line = true :=
  Section.isHeader_of_isHeaderFor h.isBlank_eq h.plain.2 hline

theorem isHeaderFor_header (h : IsName name) : isHeaderFor name (header name) = true :=
  isHeaderFor_header_of_trim h.trimmed

theorem isHeader_header (h : IsName name) : isHeader (header name) = true :=
  h.isHeader_of_isHeaderFor h.isHeaderFor_header

theorem isHeaderFor_of_ne (h : IsName name) (hother : IsName other)
    (hne : lower other ≠ lower name) (hline : isHeaderFor name line = true) :
    isHeaderFor other line = false := by
  refine Section.isHeaderFor_of_ne ?_ hline
  rwa [hother.trimmed, h.trimmed]

end IsName

/-- Lines with a part of one section in the place of another, above a header or at the end. -/
inductive Replaces (name : String) : List String → List String → Prop where
  | intro (above : List String) {old new below : List String} (old_part : IsPartOf name old)
      (new_part : IsPartOf name new) (opens : opensSection below = true) :
      Replaces name (above ++ (old ++ below)) (above ++ (new ++ below))

namespace Replaces

variable {changed : List String}

theorem refl (name : String) (lines : List String) : Replaces name lines lines := by
  simpa using intro lines (IsPartOf.nil name) (IsPartOf.nil name) opensSection_nil

theorem body?_of_ne (h : Replaces name lines changed) (hname : IsName name)
    (hother : IsName other) (hne : lower other ≠ lower name) :
    body? other changed = body? other lines := by
  have hnone : ∀ {part}, IsPartOf name part → ∀ line ∈ part, isHeaderFor other line = false := by
    intro part hpart line hl
    cases ho : isHeaderFor other line with
    | false => rfl
    | true =>
        have hline := hpart.heads line hl (hother.isHeader_of_isHeaderFor ho)
        exact ho.symm.trans (hname.isHeaderFor_of_ne hother hne hline)
  obtain ⟨above, hold, hnew, hbelow⟩ := h
  rw [body?_eq_bodyBelow? hother.isBlank_eq, body?_eq_bodyBelow? hother.isBlank_eq,
    bodyBelow?_insert_part hold.opens (hnone hold) hbelow,
    bodyBelow?_insert_part hnew.opens (hnone hnew) hbelow]

theorem body?_of_isUnnamed (h : Replaces name lines changed) (hother : isUnnamed other = true) :
    body? other changed = body? other lines := by
  obtain ⟨above, hold, hnew, hbelow⟩ := h
  rw [Section.body?_of_isUnnamed hother, Section.body?_of_isUnnamed hother,
    takeWhile_insert_part hold.opens hbelow, takeWhile_insert_part hnew.opens hbelow]

end Replaces

/-! ## Additions -/

theorem IsName.isPartOf_header (h : IsName name) : IsPartOf name [header name] :=
  ⟨h.isHeader_header, by simp [h.isHeaderFor_header]⟩

theorem replaces_ensure (hname : IsName name) (lines : List String) :
    Replaces name lines (ensure name lines).2 := by
  unfold ensure
  split
  · exact Replaces.refl name lines
  · simpa using Replaces.intro lines (IsPartOf.nil name) hname.isPartOf_header opensSection_nil

theorem exists_place_of_ensure (name : String) (lines : List String) :
    ∃ above below, lines = above ++ ([] ++ below) ∧ (ensure name lines).2 =
      above ++ ((if (start? name lines).isSome then [] else [header name]) ++ below) := by
  refine ⟨lines, [], by simp, ?_⟩
  unfold ensure
  split <;> rename_i hstart <;> simp [hstart]

theorem exists_insertBefore {before : String} (hbefore : IsName before) (name : String)
    (lines : List String) :
    ∃ above below, lines = above ++ below ∧
      (insertBefore name before lines).2 = above ++ ([header name] ++ below) ∧
      opensSection below = true := by
  rw [insertBefore, isUnnamed, hbefore.isBlank_eq, if_neg (by simp), start?_eq hbefore.isBlank_eq]
  cases hi : indexFrom? (isHeaderFor before) 0 lines with
  | none => exact ⟨lines, [], by simp, rfl, rfl⟩
  | some position =>
      obtain ⟨above, head, below, rfl, -, hhead, rfl⟩ := exists_first_of_indexFrom? hi
      refine ⟨above, head :: below, rfl, ?_, hbefore.isHeader_of_isHeaderFor hhead⟩
      simp only [insertAt, List.take_left, List.drop_left, List.append_assoc]

theorem replaces_insertBefore {before : String} (hname : IsName name) (hbefore : IsName before)
    (lines : List String) : Replaces name lines (insertBefore name before lines).2 := by
  obtain ⟨above, below, rfl, hinsert, hbelow⟩ := exists_insertBefore hbefore name lines
  rw [hinsert]
  exact Replaces.intro above (IsPartOf.nil name) hname.isPartOf_header hbelow

theorem remove_header (hname : IsName name) (habsent : start? name (above ++ below) = none)
    (hbelow : opensSection below = true) :
    remove name (above ++ ([header name] ++ below)) = above ++ below := by
  rw [start?_eq_none_iff hname.isBlank_eq, List.any_append, Bool.or_eq_false_iff] at habsent
  rw [List.singleton_append, remove_first hname.isBlank_eq habsent.1 hname.isHeaderFor_header,
    dropWhile_of_opensSection hbelow]

theorem remove_ensure (hname : IsName name) (habsent : start? name lines = none) :
    remove name (ensure name lines).2 = lines := by
  have hends : start? name (lines ++ []) = none := by rwa [List.append_nil]
  have hremove := remove_header hname hends rfl
  rw [ensure, habsent]
  simpa using hremove

theorem remove_insertBefore {before : String} (hname : IsName name) (hbefore : IsName before)
    (habsent : start? name lines = none) :
    remove name (insertBefore name before lines).2 = lines := by
  obtain ⟨above, below, rfl, hinsert, hbelow⟩ := exists_insertBefore hbefore name lines
  rw [hinsert, remove_header hname habsent hbelow]

/-! ## Removals -/

theorem find?_eq_none_of_none (h : lines.any (isHeaderFor name) = false) :
    lines.find? (isHeaderFor name) = none := by
  rw [List.find?_eq_none]
  exact List.any_eq_false.1 h

/-- The first section of a name among some lines, and what clearing and removing it leaves. -/
theorem exists_section (hname : IsName name) (h : lines.any (isHeaderFor name) = true) :
    ∃ above head body below, lines = above ++ (head :: body ++ below) ∧
      lines.find? (isHeaderFor name) = some head ∧ body? name lines = some body ∧
      clear name lines = above ++ ([head] ++ below) ∧ remove name lines = above ++ below ∧
      IsPartOf name (head :: body) ∧ IsPartOf name [head] ∧ opensSection below = true := by
  obtain ⟨above, head, below, rfl, habove, hhead⟩ := exists_first h
  have hblank := hname.isBlank_eq
  have hopens : isHeader head = true := hname.isHeader_of_isHeaderFor hhead
  have hbody := List.takeWhile_append_dropWhile (p := fun line => !isHeader line) (l := below)
  refine ⟨above, head, below.takeWhile fun line => !isHeader line,
    below.dropWhile fun line => !isHeader line, by rw [List.cons_append, hbody], ?_, ?_,
    clear_first hblank habove hhead below, remove_first hblank habove hhead below, ⟨hopens, ?_⟩,
    ⟨hopens, by simp [hhead]⟩, opensSection_dropWhile below⟩
  · simp [List.find?_append, find?_eq_none_of_none habove, hhead]
  · rw [body?_eq_bodyBelow? hblank, bodyBelow?_first habove hhead]
  · intro line hl hheader
    rcases List.mem_cons.1 hl with rfl | hl
    · exact hhead
    · have hplain := List.all_eq_true.1 List.all_takeWhile line hl
      simp [hheader] at hplain

theorem replaces_clear (hname : IsName name) (lines : List String) :
    Replaces name lines (clear name lines) := by
  cases h : lines.any (isHeaderFor name) with
  | false =>
      rw [clear_of_none hname.isBlank_eq h]
      exact Replaces.refl name lines
  | true =>
      obtain ⟨above, head, body, below, rfl, -, -, hclear, -, hold, hnew, hbelow⟩ :=
        exists_section hname h
      rw [hclear]
      exact Replaces.intro above hold hnew hbelow

theorem replaces_remove (hname : IsName name) (lines : List String) :
    Replaces name lines (remove name lines) := by
  cases h : lines.any (isHeaderFor name) with
  | false =>
      rw [remove_of_none hname.isBlank_eq h]
      exact Replaces.refl name lines
  | true =>
      obtain ⟨above, head, body, below, rfl, -, -, -, hremove, hold, -, hbelow⟩ :=
        exists_section hname h
      rw [hremove]
      exact Replaces.intro above hold (IsPartOf.nil name) hbelow

theorem body?_of_none (hname : IsName name) (h : lines.any (isHeaderFor name) = false) :
    body? name lines = none := by
  rw [body?_eq_bodyBelow? hname.isBlank_eq, bodyBelow?_of_none h]

theorem exists_place_of_clear (hname : IsName name) (lines : List String) :
    ∃ above below, lines = above ++ ((body? name lines).getD [] ++ below) ∧
      clear name lines = above ++ ([] ++ below) := by
  cases h : lines.any (isHeaderFor name) with
  | false =>
      refine ⟨lines, [], by simp [body?_of_none hname h], ?_⟩
      simp [clear_of_none hname.isBlank_eq h]
  | true =>
      obtain ⟨above, head, body, below, hlines, -, hbody, hclear, -⟩ := exists_section hname h
      refine ⟨above ++ [head], below, ?_, by simpa using hclear⟩
      rw [hbody]
      simpa using hlines

theorem exists_place_of_remove (hname : IsName name) (lines : List String) :
    ∃ above below,
      lines = above ++
        ((lines.find? (isHeaderFor name)).toList ++ (body? name lines).getD [] ++ below) ∧
      remove name lines = above ++ ([] ++ below) := by
  cases h : lines.any (isHeaderFor name) with
  | false =>
      refine ⟨lines, [], by simp [body?_of_none hname h, find?_eq_none_of_none h], ?_⟩
      simp [remove_of_none hname.isBlank_eq h]
  | true =>
      obtain ⟨above, head, body, below, hlines, hfind, hbody, -, hremove, -⟩ :=
        exists_section hname h
      refine ⟨above, below, ?_, by simpa using hremove⟩
      rw [hfind, hbody]
      simpa using hlines

/-! ## The four changes -/

/-- What can be done to a section of a script. -/
inductive Change where
  | ensure (name : String)
  | insertBefore (name before : String)
  | clear (name : String)
  | remove (name : String)
deriving DecidableEq, Repr

namespace Change

def sectionName : Change → String
  | ensure name | insertBefore name _ | clear name | remove name => name

def names : Change → List String
  | insertBefore name before => [name, before]
  | change => [change.sectionName]

def run : Change → List String → List String
  | ensure name, lines => (Section.ensure name lines).2
  | insertBefore name before, lines => (Section.insertBefore name before lines).2
  | clear name, lines => Section.clear name lines
  | remove name, lines => Section.remove name lines

def adds : Change → Bool
  | ensure _ | insertBefore _ _ => true
  | clear _ | remove _ => false

/-- The lines that a change takes out of a script. -/
def taken (lines : List String) : Change → List String
  | ensure _ | insertBefore _ _ => []
  | clear name => (body? name lines).getD []
  | remove name => (lines.find? (isHeaderFor name)).toList ++ (body? name lines).getD []

/-- The lines that a change puts into a script. -/
def given (lines : List String) : Change → List String
  | ensure name => if (start? name lines).isSome then [] else [header name]
  | insertBefore name _ => [header name]
  | clear _ | remove _ => []

variable {change : Change}

theorem isName_sectionName (hnames : ∀ name ∈ change.names, IsName name) :
    IsName change.sectionName := by
  apply hnames
  cases change <;> exact List.mem_cons_self

/-- Every change puts a part of its section in the place of another. -/
theorem replaces_run (hnames : ∀ name ∈ change.names, IsName name) (lines : List String) :
    Replaces change.sectionName lines (change.run lines) := by
  have hname := isName_sectionName hnames
  cases change with
  | ensure name => exact replaces_ensure hname lines
  | insertBefore name before =>
      exact replaces_insertBefore hname (hnames before (by simp [names])) lines
  | clear name => exact replaces_clear hname lines
  | remove name => exact replaces_remove hname lines

/-- What a change takes out and what it puts in stand in one place, and all other lines stay. -/
theorem exists_place (hnames : ∀ name ∈ change.names, IsName name) (lines : List String) :
    ∃ above below, lines = above ++ (change.taken lines ++ below) ∧
      change.run lines = above ++ (change.given lines ++ below) := by
  have hname := isName_sectionName hnames
  cases change with
  | ensure name => exact exists_place_of_ensure name lines
  | insertBefore name before =>
      obtain ⟨above, below, hlines, hinsert, -⟩ :=
        exists_insertBefore (hnames before (by simp [names])) name lines
      exact ⟨above, below, hlines, hinsert⟩
  | clear name => exact exists_place_of_clear hname lines
  | remove name => exact exists_place_of_remove hname lines

theorem remove_run (hnames : ∀ name ∈ change.names, IsName name) (hadds : change.adds = true)
    (habsent : start? change.sectionName lines = none) :
    Section.remove change.sectionName (change.run lines) = lines := by
  have hname := isName_sectionName hnames
  cases change with
  | ensure name => exact remove_ensure hname habsent
  | insertBefore name before =>
      exact remove_insertBefore hname (hnames before (by simp [names])) habsent
  | clear name => cases hadds
  | remove name => cases hadds

end Change

/-- Whatever is done to one section, no other section and nothing above the first header changes:
lines go out and come in at one place, all others stay in their order. A section that was added
can be removed again. -/
theorem change_is_local (change : Change) (hnames : ∀ name ∈ change.names, IsName name)
    (lines : List String) :
    (∀ other, IsName other → lower other ≠ lower change.sectionName →
      body? other (change.run lines) = body? other lines) ∧
    (∀ unnamed, isUnnamed unnamed = true →
      body? unnamed (change.run lines) = body? unnamed lines) ∧
    (∃ above below, lines = above ++ (change.taken lines ++ below) ∧
      change.run lines = above ++ (change.given lines ++ below)) ∧
    (change.adds = true → start? change.sectionName lines = none →
      remove change.sectionName (change.run lines) = lines) := by
  have hreplaces := Change.replaces_run hnames lines
  refine ⟨?_, ?_, Change.exists_place hnames lines, Change.remove_run hnames⟩
  · intro other hother hne
    exact hreplaces.body?_of_ne (Change.isName_sectionName hnames) hother hne
  · intro unnamed hunnamed
    exact hreplaces.body?_of_isUnnamed hunnamed

/-- A section that is added above another one, among sections with one name and lines above all
headers. -/
theorem change_is_local_inserted :
    let change : Change := .insertBefore "Run" "Code"
    let lines := ["#define App", "[Setup]", "AppName=App", " [CODE] ", "begin", "[setup]", "x=1"]
    (∀ name ∈ change.names, IsName name) ∧ IsName "Setup" ∧
      lower "Setup" ≠ lower change.sectionName ∧ isUnnamed " " = true ∧ change.adds = true ∧
      start? change.sectionName lines = none ∧
      body? "Setup" (change.run lines) = some ["AppName=App"] ∧
      body? " " (change.run lines) = some ["#define App"] ∧
      remove "Run" (change.run lines) = lines := by
  intro change lines
  have hrun : IsName "Run" := ⟨by decide, by decide, by decide⟩
  have hcode : IsName "Code" := ⟨by decide, by decide, by decide⟩
  have hsetup : IsName "Setup" := ⟨by decide, by decide, by decide⟩
  have hnames : ∀ name ∈ change.names, IsName name := by
    simp [change, Change.names, hrun, hcode]
  have hne : lower "Setup" ≠ lower change.sectionName := by decide
  have habsent : start? change.sectionName lines = none := by decide
  have hbodies : body? "Setup" lines = some ["AppName=App"] ∧
      body? " " lines = some ["#define App"] := by decide
  obtain ⟨hother, hunnamed, -, hremove⟩ := change_is_local change hnames lines
  refine ⟨hnames, hsetup, hne, by decide, rfl, habsent, ?_, ?_, hremove rfl habsent⟩
  · rw [hother "Setup" hsetup hne, hbodies.1]
  · rw [hunnamed " " (by decide), hbodies.2]

end SetupForge.Section
