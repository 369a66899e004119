import SetupForge.Proofs.Cleanup.Passage

/-! # Cleaning copies of the catalog

Copies of catalog routines among lines without markers: the cleanup takes out exactly the
copies and the blank lines directly below each of them, so a routine that the script's author
wrote under a signature of the catalog stays.
-/

namespace SetupForge.Routine

open Text Passage

variable {settings : RuntimeSettings} {major : Int} {routine : Routine}

theorem isBlock_map_fill (h : routine ∈ catalog) (hq : Placeholder.Quoteless settings major) :
    IsBlock (routine.lines.map (Placeholder.fill settings major)) := by
  obtain ⟨head, body, shape, hlaid⟩ := exists_laid_of_mem_catalog h
  rw [hlaid.map_fill]
  exact hlaid.isBlock hq

theorem copiesAny_map_fill (h : routine ∈ catalog) :
    copiesAny catalog (routine.lines.map (Placeholder.fill settings major)) = true := by
  obtain ⟨head, body, shape, hlaid⟩ := exists_laid_of_mem_catalog h
  rw [copiesAny, List.any_eq_true]
  refine ⟨routine, h, ?_⟩
  rw [hlaid.signature?_eq, hlaid.map_fill]
  simp [opensCopy, isMarker_markerLine]

theorem filter_dropWhile_isBlank {test : String → Bool}
    (h : ∀ line, isBlank line = true → test line = false) (lines : List String) :
    (lines.dropWhile isBlank).filter test = lines.filter test := by
  induction lines with
  | nil => rfl
  | cons line lines ih =>
      cases hb : isBlank line with
      | true =>
          have hno := h line hb
          rw [List.dropWhile_cons_of_pos hb, ih, List.filter_cons_of_neg (by simp [hno])]
      | false => rw [List.dropWhile_cons_of_neg (by simp [hb])]

/-- A generated copy of a routine, made with the default settings, and the lines below it. -/
structure Copy where
  routine : Routine
  major : Int
  below : List String

namespace Copy

def block (copy : Copy) : List String :=
  copy.routine.lines.map (Placeholder.fill {} copy.major)

def passage (copy : Copy) : Passage := ⟨copy.block, copy.below⟩

variable {copies : List Copy}

theorem forall_passages {meets : Passage → Prop} (h : ∀ copy ∈ copies, meets copy.passage) :
    ∀ p ∈ copies.map passage, meets p := by
  intro p hp
  obtain ⟨copy, hc, rfl⟩ := List.mem_map.1 hp
  exact h copy hc

theorem remaining_passages (copies : List Copy) :
    remaining (fun _ => false) (copies.map passage) =
      copies.flatMap fun copy => copy.block ++ copy.below := by
  rw [remaining, List.flatMap_map]
  rfl

theorem remaining_passages_of_gone {gone : List String → Bool}
    (h : ∀ copy ∈ copies, gone copy.block = true) :
    remaining gone (copies.map passage) =
      copies.flatMap fun copy => copy.below.dropWhile isBlank := by
  rw [remaining, List.flatMap_map]
  refine List.flatMap_congr fun copy hc => ?_
  rw [rest_of_gone (h copy hc)]
  rfl

theorem filter_belows {signature : String} (hr : routine ∈ catalog)
    (hs : routine.signature? = some signature) (copies : List Copy) :
    (copies.flatMap fun copy => copy.below.dropWhile isBlank).filter (carries signature) =
      (copies.flatMap below).filter (carries signature) := by
  rw [List.filter_flatMap, List.filter_flatMap]
  refine List.flatMap_congr fun copy _ => ?_
  exact filter_dropWhile_isBlank
    (fun line hb => carries_of_mem_catalog hr hs (looksLikeHeading_of_isBlank hb)) copy.below

end Copy

/-- Among unmarked lines the cleanup counts every copy and leaves exactly the lines between
the copies, without the blank lines below a copy; no line of the author's with a signature of
the catalog is lost. -/
theorem removeGenerated_copies {copies : List Copy} {top : List String}
    (hcat : ∀ copy ∈ copies, copy.routine ∈ catalog)
    (htop : ∀ line ∈ top, Marker.isMarker line = false)
    (hbelow : ∀ copy ∈ copies, ∀ line ∈ copy.below, Marker.isMarker line = false) :
    let cleaned := removeGenerated catalog
      (top ++ copies.flatMap fun copy => copy.block ++ copy.below)
    cleaned.2 = copies.length ∧ cleaned.1.failure = none ∧
      cleaned.1.lines = top ++ copies.flatMap (fun copy => copy.below.dropWhile isBlank) ∧
      ∀ routine ∈ catalog, ∀ signature, routine.signature? = some signature →
        cleaned.1.lines.filter (carries signature) =
          (top ++ copies.flatMap Copy.below).filter (carries signature) := by
  have hblock : ∀ passage ∈ copies.map Copy.passage, IsBlock passage.block :=
    Copy.forall_passages fun copy hc =>
      isBlock_map_fill (hcat copy hc) Placeholder.quoteless_default
  have hgone : ∀ copy ∈ copies, copiesAny catalog copy.block = true := fun copy hc =>
    copiesAny_map_fill (hcat copy hc)
  have hsig : ∀ routine ∈ catalog, ∃ signature, routine.signature? = some signature ∧
      Calm signature (copies.map Copy.passage) ∧
        Leads signature top (copies.map Copy.passage) := by
    intro routine hr
    obtain ⟨signature, hs⟩ := Option.isSome_iff_exists.1 (signature?_of_mem_catalog routine hr)
    exact ⟨signature, hs, calm_of_unmarked (Copy.forall_passages hbelow),
      leads_of_quiet (quiet_of_unmarked htop) (endsUnmarked_of_unmarked htop) _⟩
  obtain ⟨hlines, hfailure, hcount⟩ :=
    removeGenerated_remaining (fun _ => false) hsig hblock
  rw [Copy.remaining_passages] at hlines hfailure hcount
  rw [Copy.remaining_passages_of_gone (by simpa using hgone)] at hlines
  refine ⟨?_, hfailure, hlines, ?_⟩
  · have hall : ∀ passage ∈ copies.map Copy.passage, copiesAny catalog passage.block = true :=
      Copy.forall_passages hgone
    rw [hcount, List.countP_eq_length.2 (by simpa using hall), List.length_map]
  · intro routine hr signature hs
    rw [hlines, List.filter_append, List.filter_append, Copy.filter_belows hr hs]

/-- Three copies around an author's routine that carries the signature of two of them. -/
theorem removeGenerated_copies_aroundAuthorRoutine :
    let authored := ["function needsDotNet: boolean; ", "begin", "", "end;"]
    let copies : List Copy :=
      [⟨needsDotNet, 8, "" :: " " :: authored⟩, ⟨prepareToInstall, 9, []⟩,
        ⟨needsDotNet, 10, [""]⟩]
    (∀ copy ∈ copies, copy.routine ∈ catalog) ∧
      (∀ copy ∈ copies, ∀ line ∈ copy.below, Marker.isMarker line = false) ∧
      (removeGenerated catalog
        (["[Code]"] ++ copies.flatMap fun copy => copy.block ++ copy.below)).2 = 3 ∧
      (removeGenerated catalog
        (["[Code]"] ++ copies.flatMap fun copy => copy.block ++ copy.below)).1.lines =
          "[Code]" :: authored := by
  intro authored copies
  have hcat : ∀ copy ∈ copies, copy.routine ∈ catalog := by
    simp [copies, catalog]
  have htop : ∀ line ∈ ["[Code]"], Marker.isMarker line = false := by decide +kernel
  have hbelow : ∀ copy ∈ copies, ∀ line ∈ copy.below, Marker.isMarker line = false := by
    decide +kernel
  obtain ⟨hcount, -, hlines, -⟩ := removeGenerated_copies hcat htop hbelow
  refine ⟨hcat, hbelow, hcount, ?_⟩
  rw [hlines]
  decide +kernel

end SetupForge.Routine
