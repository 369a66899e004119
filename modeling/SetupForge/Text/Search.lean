/-! # Looking for a text inside another -/

namespace SetupForge.Text

/-- Cuts a text around the first occurrence of a part. -/
def cut? (part : List Char) : List Char → Option (List Char × List Char)
  | [] => if part.isEmpty then some ([], []) else none
  | c :: text =>
      if part.isPrefixOf (c :: text) then some ([], (c :: text).drop part.length)
      else (cut? part text).map fun (before, after) => (c :: before, after)

def occursIn (part : List Char) : List Char → Bool
  | [] => part.isEmpty
  | c :: text => part.isPrefixOf (c :: text) || occursIn part text

def contains (text part : String) : Bool := occursIn part.toList text.toList

/-- Replaces the occurrences of a part from left to right, after passing over `skip` characters
that belong to an occurrence already replaced. -/
def replaceFrom (part new : List Char) : (skip : Nat) → List Char → List Char
  | _, [] => []
  | skip + 1, _ :: text => replaceFrom part new skip text
  | 0, c :: text =>
      if part.isPrefixOf (c :: text) then new ++ replaceFrom part new (part.length - 1) text
      else c :: replaceFrom part new 0 text

def replaceAll (part new text : List Char) : List Char := replaceFrom part new 0 text

def splitOn (separator : Char) : List Char → List (List Char)
  | [] => [[]]
  | c :: text =>
      if c = separator then [] :: splitOn separator text
      else
        match splitOn separator text with
        | [] => [[c]]
        | piece :: pieces => (c :: piece) :: pieces

theorem eq_append_of_cut? {part text before after : List Char}
    (h : cut? part text = some (before, after)) : text = before ++ part ++ after := by
  induction text generalizing before with
  | nil =>
      rw [cut?] at h
      split at h
      · have : part = [] := by simpa using ‹part.isEmpty = true›
        simp_all
      · simp at h
  | cons c text ih =>
      rw [cut?] at h
      split at h
      · rename_i hp
        obtain ⟨rest, hr⟩ := List.isPrefixOf_iff_prefix.1 hp
        simp only [Option.some.injEq, Prod.mk.injEq] at h
        obtain ⟨rfl, rfl⟩ := h
        rw [← hr]
        simp
      · simp only [Option.map_eq_some_iff, Prod.mk.injEq, Prod.exists] at h
        obtain ⟨b, a, hc, rfl, rfl⟩ := h
        rw [ih hc]
        simp

theorem isSome_cut? (part text : List Char) : (cut? part text).isSome = occursIn part text := by
  induction text with
  | nil => cases h : part.isEmpty <;> simp [cut?, occursIn, h]
  | cons c text ih =>
      cases h : part.isPrefixOf (c :: text) <;> simp [cut?, occursIn, h, ih]

theorem replaceFrom_of_not_occursIn {part text : List Char} (new : List Char)
    (h : occursIn part text = false) : replaceFrom part new 0 text = text := by
  induction text with
  | nil => rfl
  | cons c text ih =>
      simp only [occursIn, Bool.or_eq_false_iff] at h
      simp [replaceFrom, h.1, ih h.2]

theorem splitOn_ne_nil (separator : Char) (text : List Char) : splitOn separator text ≠ [] := by
  cases text with
  | nil => simp [splitOn]
  | cons c text =>
      rw [splitOn]
      split
      · simp
      · split <;> simp

end SetupForge.Text
