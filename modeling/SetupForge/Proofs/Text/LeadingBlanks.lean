import SetupForge.Proofs.Script.InstallerNames
import SetupForge.Text.Blank

/-! # Blanks in front of a text

A blank has no other case, so that it agrees with itself only when case is ignored. Blanks in front
of a text that does not start with one can be told from the text.
-/

namespace SetupForge.Text

def blankCodes : List Nat :=
  [9, 10, 11, 12, 13, 28, 29, 30, 31, 32, 0x85, 0xa0, 0x1680, 0x2000, 0x2001, 0x2002, 0x2003,
    0x2004, 0x2005, 0x2006, 0x2007, 0x2008, 0x2009, 0x200a, 0x2028, 0x2029, 0x202f, 0x205f, 0x3000]

variable {p c : Char} {pattern word text rest : List Char}

theorem toNat_mem_blankCodes (h : isBlankChar c = true) : c.toNat ∈ blankCodes := by
  simp only [isBlankChar, Bool.or_eq_true, Bool.and_eq_true, decide_eq_true_eq,
    beq_iff_eq] at h
  simp only [blankCodes, List.mem_cons, List.not_mem_nil, or_false]
  omega

theorem lowerLetter_of_isBlankChar (h : isBlankChar c = true) : lowerLetter c = c := by
  have hall : ∀ code ∈ blankCodes, lowerLetter (Char.ofNat code) = Char.ofNat code := by
    decide +kernel
  have hlower := hall c.toNat (toNat_mem_blankCodes h)
  rwa [Char.ofNat_toNat] at hlower

theorem lowered_not_mem_blankCodes : ∀ run ∈ capitalTable, ∀ code ∈ blankCodes,
    (code : Int) < run.first + run.shift ∨ run.last + run.shift < code := by decide +kernel

theorem lowerLetter_eq_self_of_isBlankChar (h : isBlankChar (lowerLetter c) = true) :
    lowerLetter c = c := by
  unfold lowerLetter at h ⊢
  split
  · rename_i hascii
    rw [if_pos hascii] at h
    exact of_toNat_lt (fun c => isBlankChar c.toLower = true → c.toLower = c) (by decide) hascii h
  · rename_i hascii
    rw [if_neg hascii] at h
    split
    · rename_i run hfind
      rw [hfind] at h
      dsimp only at h
      have hholds := List.find?_some hfind
      simp only [CapitalRun.holds, Bool.and_eq_true, decide_eq_true_eq] at hholds
      have hcode := toNat_mem_blankCodes h
      have hapart := lowered_not_mem_blankCodes run (List.mem_of_find?_eq_some hfind) _ hcode
      have hpos : ∀ code ∈ blankCodes, 0 < code := by decide
      have hcode := hpos _ hcode
      by_cases hvalid : ((c.toNat : Int) + run.shift).toNat.isValidChar
      · rw [Char.ofNat, dif_pos hvalid] at hapart hcode
        have hn : (Char.ofNatAux _ hvalid).toNat = ((c.toNat : Int) + run.shift).toNat := rfl
        omega
      · rw [Char.ofNat, dif_neg hvalid] at h
        exact absurd h (by decide)
    · rfl

theorem sibling_not_mem_blankCodes : ∀ entry ∈ siblingTable, ∀ code ∈ entry.2,
    isBlankChar (Char.ofNat code) = false := by decide +kernel

theorem eq_of_sameLetter_of_isBlankChar (hsame : sameLetter p c = true)
    (h : isBlankChar c = true) : p = c := by
  rw [sameLetter, Bool.or_eq_true, beq_iff_eq, decide_eq_true_eq, lowerLetter_of_isBlankChar h]
    at hsame
  rcases hsame with hlower | hmem
  · rw [hlower, lowerLetter_eq_self_of_isBlankChar (hlower ▸ h)]
  · unfold siblings at hmem
    split at hmem
    · rename_i entry hfind
      obtain ⟨code, hcode, rfl⟩ := List.mem_map.1 hmem
      rw [sibling_not_mem_blankCodes entry (List.mem_of_find?_eq_some hfind) code hcode] at h
      cases h
    · cases hmem

/-- What follows a leading occurrence of a pattern is the rest behind a word that agrees with it. -/
theorem dropLeadingAnyCase?_eq_some_iff :
    dropLeadingAnyCase? pattern text = some rest ↔
      ∃ word, text = word ++ rest ∧ AgreeAnyCase pattern word := by
  induction pattern generalizing text with
  | nil => simp [dropLeadingAnyCase?]
  | cons p pattern ih =>
      cases text with
      | nil =>
          refine iff_of_false (by simp [dropLeadingAnyCase?]) ?_
          rintro ⟨word, htext, hagree⟩
          rw [(List.append_eq_nil_iff.1 htext.symm).1] at hagree
          cases hagree
      | cons c text =>
          rw [dropLeadingAnyCase?]
          split
          · rename_i hc
            rw [ih]
            constructor
            · rintro ⟨word, rfl, hagree⟩
              exact ⟨c :: word, rfl, agreeAnyCase_cons.2 ⟨hc, hagree⟩⟩
            · rintro ⟨word, htext, hagree⟩
              cases word with
              | nil => cases hagree
              | cons d word =>
                  obtain ⟨rfl, rfl⟩ := List.cons.inj htext
                  exact ⟨word, rfl, (agreeAnyCase_cons.1 hagree).2⟩
          · rename_i hc
            refine iff_of_false (by simp) ?_
            rintro ⟨word, htext, hagree⟩
            cases word with
            | nil => cases hagree
            | cons d word =>
                obtain ⟨rfl, rfl⟩ := List.cons.inj htext
                exact hc (agreeAnyCase_cons.1 hagree).1

/-! ## Leading blanks -/

def AllBlank (text : List Char) : Prop := ∀ c ∈ text, isBlankChar c = true

def StartsBlank (text : List Char) : Prop := ∃ c ∈ text.head?, isBlankChar c = true

theorem any_head?_iff_startsBlank (text : List Char) :
    text.head?.any isBlankChar = true ↔ StartsBlank text := Option.any_eq_true ..

instance (text : List Char) : Decidable (StartsBlank text) :=
  decidable_of_iff _ (any_head?_iff_startsBlank text)

theorem startsBlank_cons : StartsBlank (c :: text) ↔ isBlankChar c = true := by
  simp [StartsBlank]

theorem not_startsBlank_nil : ¬ StartsBlank [] := by
  simp [StartsBlank]

theorem allBlank_takeWhile (text : List Char) : AllBlank (text.takeWhile isBlankChar) :=
  fun _ => List.mem_takeWhile_imp

theorem not_startsBlank_dropBlanks (text : List Char) : ¬ StartsBlank (dropBlanks text) := by
  induction text with
  | nil => exact not_startsBlank_nil
  | cons c text ih =>
      rw [dropBlanks_cons]
      split
      · exact ih
      · rename_i hc
        rwa [startsBlank_cons]

theorem dropBlanks_of_not_startsBlank (h : ¬ StartsBlank text) : dropBlanks text = text := by
  cases text with
  | nil => rfl
  | cons c text => rw [dropBlanks_cons, if_neg (fun hc => h (startsBlank_cons.2 hc))]

theorem takeWhile_of_not_startsBlank (h : ¬ StartsBlank text) :
    text.takeWhile isBlankChar = [] := by
  cases text with
  | nil => rfl
  | cons c text => rw [List.takeWhile_cons, if_neg (fun hc => h (startsBlank_cons.2 hc))]

section Blanks

variable {blanks others : List Char}

theorem dropBlanks_append (hblanks : AllBlank blanks) (h : ¬ StartsBlank text) :
    dropBlanks (blanks ++ text) = text := by
  rw [dropBlanks, List.dropWhile_append_of_pos hblanks]
  exact dropBlanks_of_not_startsBlank h

theorem takeWhile_append (hblanks : AllBlank blanks) (h : ¬ StartsBlank text) :
    (blanks ++ text).takeWhile isBlankChar = blanks := by
  rw [List.takeWhile_append_of_pos hblanks, takeWhile_of_not_startsBlank h, List.append_nil]

theorem takeWhile_append_dropBlanks (text : List Char) :
    text.takeWhile isBlankChar ++ dropBlanks text = text := List.takeWhile_append_dropWhile

/-- Blanks in front of a text end where the text starts. -/
theorem blanks_inj (hblanks : AllBlank blanks) (hothers : AllBlank others)
    (htext : ¬ StartsBlank text) (hrest : ¬ StartsBlank rest)
    (h : blanks ++ text = others ++ rest) : blanks = others ∧ text = rest := by
  have hfirst := congrArg (List.takeWhile isBlankChar) h
  rw [takeWhile_append hblanks htext, takeWhile_append hothers hrest] at hfirst
  exact ⟨hfirst, List.append_cancel_left (hfirst ▸ h)⟩

end Blanks

/-- A word starts with a blank only if its pattern does. -/
theorem not_startsBlank_append (hpattern : ¬ StartsBlank pattern) (hne : pattern ≠ [])
    (hword : AgreeAnyCase pattern word) (text : List Char) : ¬ StartsBlank (word ++ text) := by
  cases hword with
  | nil => exact absurd rfl hne
  | cons hc _ =>
      rw [List.cons_append, startsBlank_cons]
      intro hblank
      rw [startsBlank_cons, eq_of_sameLetter_of_isBlankChar hc hblank] at hpattern
      exact hpattern hblank

/-- Words that agree with one pattern have one length. -/
theorem words_inj {other : List Char} (hword : AgreeAnyCase pattern word)
    (hother : AgreeAnyCase pattern other) (h : word ++ text = other ++ rest) :
    word = other ∧ text = rest :=
  List.append_inj h (hword.length_eq.symm.trans hother.length_eq)

end SetupForge.Text
