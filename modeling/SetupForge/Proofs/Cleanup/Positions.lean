import SetupForge.Proofs.Cleanup.Sweep

/-! # The cleanup by positions

The cleanup as a program that looks at one position of the script after another and deletes there.
It gives nothing at all once it uses a position where no line stands, or once a loop makes more
passes than it is allowed. In a catalog of routines with a signature this never happens: with two
passes for each line of the script and one more, every loop comes to its end, and the outcome is
that of the cleanup.
-/

namespace SetupForge

open Text

/-! ## Lines at positions -/

namespace Lines

/-- The line at a position, if one stands there. No line stands at a negative position. -/
def at? (position : Int) (lines : List String) : Option String :=
  if position < 0 then none else lines[position.toNat]?

def delete? (position : Int) (lines : List String) : Option (List String) := do
  let _ ← at? position lines
  return lines.eraseIdx position.toNat

def deleteRange? (first last : Int) (lines : List String) : Option (List String) :=
  if last < first then some lines
  else do
    let _ ← at? first lines
    let _ ← at? last lines
    return removeRange first.toNat last.toNat lines

/-- Looks at a number of positions, one after another, for a line that passes a test. -/
def seek? (test : String → Bool) (lines : List String) :
    (count position : Nat) → Option (Option Nat)
  | 0, _ => some none
  | count + 1, position => do
      let line ← at? position lines
      if test line then some (some position) else seek? test lines count (position + 1)

def deleteBlanks? (position : Nat) : (turns : Nat) → List String → Option (List String)
  | 0, _ => none
  | turns + 1, lines =>
      if position < lines.length then do
        let line ← at? position lines
        if isBlank line then do
          let rest ← delete? position lines
          deleteBlanks? position turns rest
        else some lines
      else some lines

variable {lines : List String} {test : String → Bool} {count position first last turns : Nat}

theorem at?_natCast (position : Nat) (lines : List String) :
    at? position lines = lines[position]? := by
  rw [at?, if_neg (by omega), Int.toNat_natCast]

theorem at?_of_lt (h : position < lines.length) : at? position lines = some lines[position] := by
  rw [at?_natCast, List.getElem?_eq_getElem h]

theorem delete?_of_lt (h : position < lines.length) :
    delete? position lines = some (lines.eraseIdx position) := by
  rw [delete?, at?_of_lt h]
  rfl

theorem deleteRange?_of_lt (hle : first ≤ last) (h : last < lines.length) :
    deleteRange? first last lines = some (removeRange first last lines) := by
  have hfirst : first < lines.length := by omega
  rw [deleteRange?, if_neg (by omega), at?_of_lt hfirst, at?_of_lt h]
  rfl

theorem eq_false_of_indexFrom?_eq_none (h : indexFrom? test position lines = none) {i : Nat}
    {line : String} (hi : position ≤ i) (hline : lines[i]? = some line) : test line = false := by
  rw [indexFrom?, Option.map_eq_none_iff, List.findIdx?_eq_none_iff] at h
  apply h
  rw [List.mem_iff_getElem?]
  exact ⟨i - position, by rw [List.getElem?_drop, Nat.add_sub_cancel' hi, hline]⟩

theorem spec_of_indexFrom? {index : Nat} (h : indexFrom? test position lines = some index) :
    (∃ line, lines[index]? = some line ∧ test line = true) ∧
      ∀ i line, position ≤ i → i < index → lines[i]? = some line → test line = false := by
  rw [indexFrom?, Option.map_eq_some_iff] at h
  obtain ⟨j, hj, rfl⟩ := h
  obtain ⟨hlt, htest, hbefore⟩ := List.findIdx?_eq_some_iff_getElem.1 hj
  rw [List.getElem_drop] at htest
  constructor
  · exact ⟨_, by rw [Nat.add_comm, List.getElem?_eq_getElem], htest⟩
  · intro i line hi hij hline
    have hearlier := hbefore (i - position) (by omega)
    rw [List.getElem_drop] at hearlier
    have hsame : lines[position + (i - position)]? = some line := by
      rw [Nat.add_sub_cancel' hi, hline]
    obtain ⟨_, hget⟩ := List.getElem_of_getElem? hsame
    simpa [hget] using hearlier

theorem seek?_eq (test : String → Bool) (h : count = lines.length - position) :
    seek? test lines count position = some (indexFrom? test position lines) := by
  induction count generalizing position with
  | zero =>
      have hrest : lines.drop position = [] := List.drop_eq_nil_iff.2 (by omega)
      simp [seek?, indexFrom?, hrest]
  | succ count ih =>
      have hlt : position < lines.length := by omega
      have hnext : seek? test lines count (position + 1) =
          some (indexFrom? test (position + 1) lines) := ih (by omega)
      have hfirst : lines.drop position = lines[position] :: lines.drop (position + 1) :=
        List.drop_eq_getElem_cons hlt
      rw [seek?, at?_of_lt hlt, indexFrom?, hfirst, List.findIdx?_cons]
      by_cases htest : test lines[position] = true
      · simp [htest]
      · simp only [Option.bind_eq_bind, Option.bind_some, htest, hnext, indexFrom?]
        simp only [Bool.false_eq_true, if_false, Option.map_map, Option.some.injEq]
        congr 1
        funext i
        show i + (position + 1) = i + 1 + position
        omega

theorem deleteBlanks?_append {above below : List String} (h : below.length < turns) :
    deleteBlanks? above.length turns (above ++ below) =
      some (above ++ below.dropWhile isBlank) := by
  induction below generalizing turns with
  | nil =>
      cases turns with
      | zero => cases h
      | succ turns => simp [deleteBlanks?]
  | cons line below ih =>
      cases turns with
      | zero => cases h
      | succ turns =>
          have hlt : above.length < (above ++ line :: below).length := by simp
          have hline : (above ++ line :: below)[above.length] = line := by simp
          have herase : (above ++ line :: below).eraseIdx above.length = above ++ below := by
            simp [List.eraseIdx_append_of_length_le]
          have hrest : deleteBlanks? above.length turns (above ++ below) =
              some (above ++ below.dropWhile isBlank) := ih (Nat.lt_of_succ_lt_succ h)
          rw [deleteBlanks?, if_pos hlt, at?_of_lt hlt, delete?_of_lt hlt, hline, herase,
            List.dropWhile_cons]
          by_cases hblank : isBlank line = true
          · rw [if_pos hblank, ← hrest]
            simp [hblank]
          · rw [if_neg hblank]
            simp [hblank]

end Lines

/-! ## The end of a block -/

namespace Pascal

open Lines

def seekBlockEnd? (lines : List String) :
    (count position : Nat) → Option Comment → (used : Bool) → (depth : Nat) → Option (Option Nat)
  | 0, _, _, _, _ => some none
  | count + 1, position, pending, used, depth => do
      let line ← at? position lines
      let scan := code pending line.toList
      if (used || opensBlock scan.1) && depthAfter scan.1 depth == 0 then some (some position)
      else
        seekBlockEnd? lines count (position + 1) scan.2 (used || opensBlock scan.1)
          (depthAfter scan.1 depth)

theorem seekBlockEnd?_eq {lines : List String} {count position : Nat}
    (h : count = lines.length - position) (pending : Option Comment) (used : Bool) (depth : Nat) :
    seekBlockEnd? lines count position pending used depth =
      some ((blockLength? pending used depth (lines.drop position)).map (· + position)) := by
  induction count generalizing position pending used depth with
  | zero =>
      have hrest : lines.drop position = [] := List.drop_eq_nil_iff.2 (by omega)
      simp [seekBlockEnd?, blockLength?, hrest]
  | succ count ih =>
      have hlt : position < lines.length := by omega
      have hfirst : lines.drop position = lines[position] :: lines.drop (position + 1) :=
        List.drop_eq_getElem_cons hlt
      rw [seekBlockEnd?, at?_of_lt hlt, hfirst, blockLength?]
      dsimp only [Option.bind_eq_bind, Option.bind_some]
      split
      · simp
      · have hnext : (fun n : Nat => n + (position + 1)) = (· + position) ∘ (· + 1) := by
          funext n
          show n + (position + 1) = n + 1 + position
          omega
        rw [ih (by omega), Option.map_map, hnext]

end Pascal

/-! ## The next marker -/

namespace Sweep

open Lines Routine

variable {name signature : String} {lines : List String} {position turns : Nat}

/-- Looks for a signature from a position on, in at most some turns, until a marker stands directly
above it. -/
def seekMarker? (signature : String) (lines : List String) :
    (turns position : Nat) → Option (Option Nat)
  | 0, _ => none
  | turns + 1, position => do
      match ← seek? (carries signature) lines (lines.length - position) position with
      | none => some none
      | some index =>
          let above ← at? (index - 1) lines
          if Marker.isMarker above then some (some (index - 1))
          else seekMarker? signature lines turns (index + 1)

theorem marker?_congr {index : Nat} (hle : position ≤ index + 1)
    (hnone : ∀ i, position - 1 ≤ i → i < index → opensCopy signature (lines.drop i) = false) :
    marker? signature position lines = marker? signature (index + 1) lines := by
  apply Option.ext
  intro marker
  rw [marker?_eq_some_iff, marker?_eq_some_iff]
  constructor
  · rintro ⟨hfrom, hopens, hbefore⟩
    have hindex : index ≤ marker := by
      by_contra hlt
      rw [hnone marker hfrom (by omega)] at hopens
      cases hopens
    exact ⟨hindex, hopens, fun i hi hlt => hbefore i (by omega) hlt⟩
  · rintro ⟨hfrom, hopens, hbefore⟩
    refine ⟨by omega, hopens, fun i hi hlt => ?_⟩
    by_cases hi' : i < index
    · exact hnone i hi hi'
    · exact hbefore i (by omega) hlt

/-- No copy opens above a line that does not carry the signature. -/
theorem opensCopy_drop_eq_false {i : Nat} (h : ∀ line, lines[i + 1]? = some line →
    carries signature line = false) : opensCopy signature (lines.drop i) = false := by
  rw [Bool.eq_false_iff, Ne, opensCopy_drop_iff]
  rintro ⟨above, line, -, hline, -, hcarries⟩
  rw [h line hline] at hcarries
  cases hcarries

theorem marker?_of_absent (hpos : 0 < position)
    (h : indexFrom? (carries signature) position lines = none) :
    marker? signature position lines = none := by
  rw [Option.eq_none_iff_forall_ne_some]
  intro marker hmarker
  obtain ⟨hfrom, hopens, -⟩ := marker?_eq_some_iff.1 hmarker
  rw [opensCopy_drop_eq_false fun line hline =>
    eq_false_of_indexFrom?_eq_none h (by omega) hline] at hopens
  cases hopens

/-- Where the signature stands next, its copy is found if a marker stands above it, and otherwise
the search goes on below. -/
theorem marker?_of_index {index : Nat} (hpos : 0 < position)
    (h : indexFrom? (carries signature) position lines = some index)
    (habove : index - 1 < lines.length) :
    marker? signature position lines =
      if Marker.isMarker lines[index - 1] then some (index - 1)
      else marker? signature (index + 1) lines := by
  have hfrom := (indexFrom?_lt h).1
  obtain ⟨⟨line, hline, hcarries⟩, hbefore⟩ := spec_of_indexFrom? h
  have hquiet : ∀ i, position - 1 ≤ i → i < index - 1 →
      opensCopy signature (lines.drop i) = false := fun i hi hlt =>
    opensCopy_drop_eq_false fun other hother =>
      hbefore (i + 1) other (by omega) (by omega) hother
  have hopens : opensCopy signature (lines.drop (index - 1)) = true ↔
      Marker.isMarker lines[index - 1] = true := by
    have hsucc : index - 1 + 1 = index := by omega
    rw [opensCopy_drop_iff, hsucc, List.getElem?_eq_getElem habove, hline]
    simp [hcarries]
  by_cases hmarked : Marker.isMarker lines[index - 1] = true
  · rw [if_pos hmarked]
    exact marker?_eq_some_iff.2 ⟨by omega, hopens.2 hmarked, hquiet⟩
  · rw [if_neg hmarked]
    apply marker?_congr (by omega)
    intro i hi hlt
    by_cases hlast : i < index - 1
    · exact hquiet i hi hlast
    · have hi' : i = index - 1 := by omega
      rw [hi', Bool.eq_false_iff, Ne, hopens]
      exact hmarked

/-- With a turn for each position that is left and one more, the search comes to its end. -/
theorem seekMarker?_eq (hpos : 0 < position) (h : lines.length - position < turns) :
    seekMarker? signature lines turns position = some (marker? signature position lines) := by
  induction turns generalizing position with
  | zero => cases h
  | succ turns ih =>
      rw [seekMarker?, seek?_eq (carries signature) rfl]
      dsimp only [Option.bind_eq_bind, Option.bind_some]
      cases hindex : indexFrom? (carries signature) position lines with
      | none => rw [marker?_of_absent hpos hindex]
      | some index =>
          obtain ⟨hfrom, hlt⟩ := indexFrom?_lt hindex
          have habove : index - 1 < lines.length := by omega
          have hpred : (index : Int) - 1 = (index - 1 : Nat) := by omega
          dsimp only
          rw [hpred, at?_of_lt habove, Option.bind_some, marker?_of_index hpos hindex habove]
          by_cases hmarked : Marker.isMarker lines[index - 1] = true
          · rw [if_pos hmarked, if_pos hmarked]
          · rw [if_neg hmarked, if_neg hmarked]
            exact ih (by omega) (by omega)

/-! ## Passes of the loop -/

/-- One pass of the loop: it finds no marker, or deals with the next one. -/
def pass? (name signature : String) (sweep : Sweep) : Option (Option Sweep) := do
  match ← seekMarker? signature sweep.lines (sweep.lines.length + 1) (max sweep.cursor 1) with
  | none => some none
  | some marker =>
      match ← Pascal.seekBlockEnd? sweep.lines (sweep.lines.length - marker) marker none false 0 with
      | none =>
          some (some { sweep with
            cursor := marker + 2
            notes := sweep.notes ++ [unterminated name marker] })
      | some last => do
          let below ← deleteRange? marker last sweep.lines
          let lines ← deleteBlanks? marker (below.length + 1) below
          some (some {
            lines
            cursor := marker
            removed := sweep.removed + 1
            notes := sweep.notes ++ [.debug "CODE" s!"Removed generated module: {name}"] })

def loop? (name signature : String) : (passes : Nat) → Sweep → Option Sweep
  | 0, _ => none
  | passes + 1, sweep => do
      match ← pass? name signature sweep with
      | none => some sweep
      | some after => loop? name signature passes after

theorem marker?_max_one (signature : String) (cursor : Nat) (lines : List String) :
    marker? signature (max cursor 1) lines = marker? signature cursor lines := by
  have hstart : max cursor 1 - 1 = cursor - 1 := by omega
  rw [marker?, marker?, hstart]

theorem deleteBlanks?_removeRange {first last : Nat} (hfirst : first < lines.length) :
    deleteBlanks? first ((removeRange first last lines).length + 1)
        (removeRange first last lines) = some (dropBlock first last lines) := by
  have hlength : (lines.take first).length = first := List.length_take_of_le (Nat.le_of_lt hfirst)
  have hturns : (lines.drop (last + 1)).length < (removeRange first last lines).length + 1 := by
    rw [removeRange, List.length_append]
    omega
  have hblanks : deleteBlanks? (lines.take first).length _
      (lines.take first ++ lines.drop (last + 1)) = _ := deleteBlanks?_append hturns
  rwa [hlength] at hblanks

/-- A pass uses only positions of lines, and does one step. -/
theorem pass?_eq (name signature : String) (sweep : Sweep) :
    pass? name signature sweep = some (step name signature sweep) := by
  have hseek : seekMarker? signature sweep.lines (sweep.lines.length + 1) (max sweep.cursor 1) =
      some (marker? signature (max sweep.cursor 1) sweep.lines) :=
    seekMarker?_eq (by omega) (by omega)
  rw [pass?, hseek, marker?_max_one, step]
  dsimp only [Option.bind_eq_bind, Option.bind_some]
  cases hmarker : marker? signature sweep.cursor sweep.lines with
  | none => rfl
  | some marker =>
      dsimp only
      rw [Pascal.seekBlockEnd?_eq rfl, Option.bind_some, ← Pascal.blockEnd?]
      cases hend : Pascal.blockEnd? sweep.lines marker with
      | none => rfl
      | some last =>
          obtain ⟨hle, hlt⟩ := Pascal.blockEnd?_bounds hend
          dsimp only
          rw [deleteRange?_of_lt hle hlt, Option.bind_some,
            deleteBlanks?_removeRange (by omega), Option.bind_some]

/-- The loop makes no more passes than there is work, and one more to find that nothing is left. -/
theorem loop?_eq {passes : Nat} {sweep : Sweep} (h : sweep.work.toNat < passes) :
    loop? name signature passes sweep = some (finish name signature sweep) := by
  induction passes generalizing sweep with
  | zero => cases h
  | succ passes ih =>
      rw [loop?, pass?_eq]
      dsimp only [Option.bind_eq_bind, Option.bind_some]
      cases hstep : step name signature sweep with
      | none => rw [finish_of_step_eq_none hstep]
      | some after =>
          have hpos := work_pos_of_step hstep
          have hless := work_lt_of_step hstep
          rw [finish_of_step hstep]
          exact ih (by omega)

end Sweep

/-! ## The whole cleanup -/

namespace Routine

/-- The cleanup by positions, with as many passes for the loop of a routine as the lines that it
starts on allow. -/
def cleanUp? (passes : Nat → Nat) : List Routine → List String → Option (Edit × Nat)
  | [], lines => some ({ lines }, 0)
  | routine :: rest, lines => do
      let signature ← routine.signature?
      let sweep ← Sweep.loop? routine.name signature (passes lines.length) { lines }
      let (edit, removed) ← cleanUp? passes rest sweep.lines
      some ({ edit with notes := sweep.notes ++ edit.notes }, sweep.removed + removed)

theorem isSome_signature? {routine : Routine} (h : 2 ≤ routine.lines.length) :
    ∃ signature, routine.signature? = some signature :=
  ⟨routine.lines[1], List.getElem?_eq_getElem h⟩

theorem cleanUp?_eq {catalog : List Routine} {lines : List String} {passes : Nat → Nat}
    (hcatalog : ∀ routine ∈ catalog, 2 ≤ routine.lines.length)
    (hpasses : ∀ count, 2 * count < passes count) :
    cleanUp? passes catalog lines = some (removeGenerated catalog lines) := by
  induction catalog generalizing lines with
  | nil => rfl
  | cons routine rest ih =>
      obtain ⟨signature, hsignature⟩ := isSome_signature? (hcatalog routine List.mem_cons_self)
      have hwork : (Sweep.mk lines 0 0 []).work.toNat < passes lines.length := by
        have hcount := hpasses lines.length
        rw [Sweep.work]
        dsimp only
        omega
      have hrest : cleanUp? passes rest (Sweep.run routine.name signature lines).lines =
          some (removeGenerated rest (Sweep.run routine.name signature lines).lines) :=
        ih fun other hmem => hcatalog other (List.mem_cons_of_mem _ hmem)
      rw [cleanUp?, removeGenerated, hsignature]
      dsimp only [Option.bind_eq_bind, Option.bind_some]
      rw [Sweep.loop?_eq hwork, Option.bind_some, ← Sweep.run_eq_finish, hrest, Option.bind_some]

/-- With two passes for each line that is there and one more for the loop of each routine, the
cleanup by positions comes to its end and never uses a position without a line. What it leaves are
lines of the script in their order, and all of them exactly if it took out no copy. -/
theorem cleanUp_ends_in_range {catalog : List Routine}
    (hcatalog : ∀ routine ∈ catalog, 2 ≤ routine.lines.length) (lines : List String) :
    cleanUp? (2 * · + 1) catalog lines = some (removeGenerated catalog lines) ∧
      (removeGenerated catalog lines).1.lines.Sublist lines ∧
      ((removeGenerated catalog lines).2 = 0 ↔
        (removeGenerated catalog lines).1.lines = lines) := by
  obtain ⟨hsublist, -, -⟩ := removeGenerated_lines catalog lines
  refine ⟨?_, hsublist, ?_⟩
  · exact cleanUp?_eq hcatalog fun _ => Nat.lt_succ_self _
  · exact (removeGenerated_eq_self_iff catalog lines).symm

/-- A block that ends on its marker and one that does not end. -/
theorem cleanUp_ends_in_range_bareMarker :
    let lines :=
      ["\x7b innotool:auto-generated NeedsDotNet \x7d begin end", "function NeedsDotNet: Boolean;",
        "\x7b innotool:auto-generated NeedsDotNet \x7d", "function NeedsDotNet: Boolean;"]
    (∀ routine ∈ [needsDotNet], 2 ≤ routine.lines.length) ∧
      (cleanUp? (2 * · + 1) [needsDotNet] lines).map (fun (edit, removed) =>
        (edit.lines, removed)) = some (lines.drop 1, 1) := by
  intro lines
  have hcatalog : ∀ routine ∈ [needsDotNet], 2 ≤ routine.lines.length := by decide
  have hlines : ((removeGenerated [needsDotNet] lines).1.lines,
      (removeGenerated [needsDotNet] lines).2) = (lines.drop 1, 1) := by decide +kernel
  obtain ⟨hends, -, -⟩ := cleanUp_ends_in_range hcatalog lines
  refine ⟨hcatalog, ?_⟩
  rw [hends, Option.map_some]
  exact congrArg some hlines

end Routine

end SetupForge
