import SetupForge.Failure
import SetupForge.Journal
import SetupForge.Pascal.Block
import SetupForge.Script.Basic
import SetupForge.Script.Routine

/-! # Removing generated routines

A generated routine is a marker with a signature below it, up to the end of its block,
and the blank lines that follow. A signature without a marker above it is left alone, and
so is a block that does not end.
-/

namespace SetupForge

open Text

/-- Lines being edited, what was reported, and what stopped the editing. -/
structure Edit where
  lines : List String
  notes : List Note := []
  failure : Option Failure := none
deriving DecidableEq, Repr

structure Sweep where
  lines : List String
  /-- Where the search goes on. -/
  cursor : Nat := 0
  removed : Nat := 0
  notes : List Note := []
deriving DecidableEq, Repr

namespace Sweep

/-- The position of the first marker directly above a signature that stands at a position or
below it. -/
def marker? (signature : String) (cursor : Nat) (lines : List String) : Option Nat :=
  (((lines.zip lines.tail).drop (cursor - 1)).findIdx? fun pair =>
    Marker.isMarker pair.1 && Routine.carries signature pair.2).map (· + (cursor - 1))

/-- Removes a block and the blank lines below it. -/
def dropBlock (first last : Nat) (lines : List String) : List String :=
  lines.take first ++ (lines.drop (last + 1)).dropWhile isBlank

def unterminated (name : String) (marker : Nat) : Note :=
  .warning "CODE" s!"Unterminated generated block for {name} at line {marker + 1}"

def step (name signature : String) (sweep : Sweep) : Option Sweep :=
  match marker? signature sweep.cursor sweep.lines with
  | none => none
  | some marker =>
      match Pascal.blockEnd? sweep.lines marker with
      | none =>
          some { sweep with
            cursor := marker + 2
            notes := sweep.notes ++ [unterminated name marker] }
      | some last =>
          some {
            lines := dropBlock marker last sweep.lines
            cursor := marker
            removed := sweep.removed + 1
            notes := sweep.notes ++ [.debug "CODE" s!"Removed generated module: {name}"] }

def runFuel (name signature : String) : Nat → Sweep → Sweep
  | 0, sweep => sweep
  | fuel + 1, sweep =>
      match step name signature sweep with
      | none => sweep
      | some sweep => runFuel name signature fuel sweep

/-- Removes the generated copies of a routine. A copy either leaves the lines, and the cursor
goes back by at most one, or stays, and the cursor moves on; so twice the number of lines
bounds the number of copies dealt with. -/
def run (name signature : String) (lines : List String) : Sweep :=
  runFuel name signature (2 * lines.length) { lines }

theorem marker?_bounds {signature : String} {cursor marker : Nat} {lines : List String}
    (h : marker? signature cursor lines = some marker) :
    cursor ≤ marker + 1 ∧ marker + 1 < lines.length := by
  simp only [marker?, Option.map_eq_some_iff] at h
  obtain ⟨i, hi, rfl⟩ := h
  obtain ⟨hlt, -⟩ := List.findIdx?_eq_some_iff_getElem.1 hi
  simp only [List.length_drop, List.length_zip, List.length_tail] at hlt
  omega

theorem length_dropBlock_lt {first last : Nat} {lines : List String} (h : first ≤ last)
    (hl : last < lines.length) : (dropBlock first last lines).length < lines.length := by
  have hd := List.IsSuffix.length_le (List.dropWhile_suffix isBlank (l := lines.drop (last + 1)))
  simp only [List.length_drop] at hd
  simp only [dropBlock, List.length_append, List.length_take]
  omega

/-- What a sweep still has to do: two for each line, less the lines already passed. -/
def work (sweep : Sweep) : Int := 2 * sweep.lines.length - sweep.cursor

theorem work_lt_of_step {name signature : String} {before after : Sweep}
    (h : step name signature before = some after) : after.work < before.work := by
  unfold step at h
  split at h
  · simp at h
  · rename_i marker hm
    have hb := marker?_bounds hm
    split at h
    · simp only [Option.some.injEq] at h
      subst h
      simp only [work]
      omega
    · rename_i last hl
      have hlast := Pascal.blockEnd?_bounds hl
      have hlen := length_dropBlock_lt hlast.1 hlast.2
      simp only [Option.some.injEq] at h
      subst h
      simp only [work]
      omega

end Sweep

namespace Routine

/-- Removes the generated copies of all routines of a catalog, in its order. A routine without
a signature cannot be looked for among two or more lines. -/
def removeGenerated : List Routine → List String → Edit × Nat
  | [], lines => ({ lines }, 0)
  | routine :: rest, lines =>
      match routine.signature? with
      | none =>
          if lines.length < 2 then removeGenerated rest lines
          else ({ lines, failure := some (.indexOutOfRange none) }, 0)
      | some signature =>
          let sweep := Sweep.run routine.name signature lines
          let (edit, removed) := removeGenerated rest sweep.lines
          ({ edit with notes := sweep.notes ++ edit.notes }, sweep.removed + removed)

end Routine

end SetupForge
