import SetupForge.Proofs.Sync.Insertion

/-! # The body of a section

The body of a named section by recursion on the lines: what stands between the first header of
the name and the next header. The header of a name without a closing bracket is a header for the
search of section ends too, so lines that are put below other headers, or headers put above them,
leave the body as it is.
-/

namespace SetupForge

open Text

/-! ## Signs and brackets in lowercase texts -/

namespace Text

/-- Whether a character is a sign or a digit that stands below the small letters. -/
def isSign (c : Char) : Bool := c ≠ '\x00' && c.toNat ≤ 0x5d && !c.isAlpha

def isBracket (c : Char) : Bool := c == '[' || c == ']'

theorem isSign_of_isBracket {c : Char} (h : isBracket c = true) : isSign c = true := by
  simp only [isBracket, Bool.or_eq_true, beq_iff_eq] at h
  rcases h with rfl | rfl <;> decide

theorem of_toNat_lt {bound : Nat} (P : Char → Prop) (h : ∀ n < bound, P (Char.ofNat n)) {c : Char}
    (hc : c.toNat < bound) : P c := by
  have hchar := h c.toNat hc
  rwa [Char.ofNat_toNat] at hchar

theorem toLower_eq_self_of_isSign {c : Char} (hc : c.toNat < 0x80) :
    isSign c.toLower = true → c.toLower = c :=
  of_toNat_lt (fun c => isSign c.toLower = true → c.toLower = c) (by decide) hc

theorem lt_lowered_of_mem_capitalTable :
    ∀ run ∈ capitalTable, 0x5d < (run.first : Int) + run.shift := by decide +kernel

theorem isSign_ofNat {n : Nat} (h : 0x5d < n) : isSign (Char.ofNat n) = false := by
  by_cases hv : n.isValidChar
  · have hn : (Char.ofNat n).toNat = n := by
      rw [Char.ofNat, dif_pos hv]
      rfl
    have hbig : ¬ (Char.ofNat n).toNat ≤ 0x5d := by omega
    simp [isSign, hbig]
  · rw [Char.ofNat, dif_neg hv]
    decide

theorem lowerLetter_eq_self_of_isSign {c : Char} (h : isSign (lowerLetter c) = true) :
    lowerLetter c = c := by
  unfold lowerLetter at h ⊢
  split
  · rename_i hascii
    rw [if_pos hascii] at h
    exact toLower_eq_self_of_isSign hascii h
  · rename_i hascii
    rw [if_neg hascii] at h
    split
    · rename_i run hfind
      rw [hfind] at h
      have hmem := List.mem_of_find?_eq_some hfind
      have hlow := lt_lowered_of_mem_capitalTable run hmem
      have hholds := List.find?_some hfind
      simp only [CapitalRun.holds, Bool.and_eq_true, decide_eq_true_eq] at hholds
      have hbig : 0x5d < ((c.toNat : Int) + run.shift).toNat := by omega
      rw [isSign_ofNat hbig] at h
      simp at h
    · rfl

theorem lowerLetter_eq_self_of_isBracket {c : Char} (h : isBracket (lowerLetter c) = true) :
    lowerLetter c = c :=
  lowerLetter_eq_self_of_isSign (isSign_of_isBracket h)

theorem toNat_le_of_isSign {c : Char} (h : isSign c = true) : c.toNat ≤ 0x5d := by
  simp_all [isSign]

theorem lowerLetter_of_isSign {c : Char} (h : isSign c = true) : lowerLetter c = c := by
  have hlow : c.toNat < 0x5e := Nat.lt_succ_of_le (toNat_le_of_isSign h)
  exact of_toNat_lt (fun c => isSign c = true → lowerLetter c = c) (by decide) hlow h

theorem lowerLetter_of_isBracket {c : Char} (h : isBracket c = true) : lowerLetter c = c :=
  lowerLetter_of_isSign (isSign_of_isBracket h)

theorem mem_lowerFrom_iff {c : Char} (hc : isBracket c = true) (afterCased : Bool)
    (text : List Char) : c ∈ lowerFrom afterCased text ↔ c ∈ text := by
  induction text generalizing afterCased with
  | nil => simp [lowerFrom]
  | cons d text ih =>
      have hne : ∀ x : Char, isBracket x = false → c ≠ x := by
        rintro x hx rfl
        rw [hx] at hc
        simp at hc
      rw [lowerFrom]
      split
      · rename_i hd
        have hsigma : ∀ b : Bool, c ≠ (if b then 'ς' else 'σ') := by
          intro b
          apply hne
          cases b <;> decide
        rw [List.mem_cons, List.mem_cons, ih, hd]
        exact or_congr (iff_of_false (hsigma _) (hne 'Σ' (by decide))) Iff.rfl
      · split
        · rename_i hd
          simp [ih, hd, hne 'İ' (by decide), hne 'i' (by decide), hne '\u0307' (by decide)]
        · have hletter : c = lowerLetter d ↔ c = d := by
            constructor
            · intro h
              have hself := lowerLetter_eq_self_of_isBracket (h ▸ hc)
              rw [h, hself]
            · rintro rfl
              exact (lowerLetter_of_isBracket hc).symm
          simp [ih, hletter]

theorem lowerFrom_ne_nil {afterCased : Bool} {text : List Char} (h : text ≠ []) :
    lowerFrom afterCased text ≠ [] := by
  cases text with
  | nil => exact absurd rfl h
  | cons c text =>
      rw [lowerFrom]
      split
      · simp
      · split <;> simp

theorem meetsCased_append_bracket (text : List Char) :
    meetsCased (text ++ [']']) = meetsCased text := by
  induction text with
  | nil => decide
  | cons c text ih => simp only [List.cons_append, meetsCased, ih]

theorem lowerFrom_append_bracket (afterCased : Bool) (text : List Char) :
    lowerFrom afterCased (text ++ [']']) = lowerFrom afterCased text ++ [']'] := by
  induction text generalizing afterCased with
  | nil => cases afterCased <;> decide
  | cons c text ih =>
      rw [List.cons_append, lowerFrom, lowerFrom, meetsCased_append_bracket]
      split
      · rw [ih]
        rfl
      · split
        · rw [ih]
          rfl
        · rw [ih]
          rfl

end Text

/-! ## Headers -/

namespace Section

variable {name line : String}

theorem toList_lower_header (name : String) :
    (lower (header name)).toList = '[' :: (lowerChars name.toList ++ [']']) := by
  have hopen : (header name).toList = '[' :: (name.toList ++ [']']) := by
    simp [header, String.toList_append]
  rw [toList_lower, hopen, lowerChars, lowerFrom, if_neg (by decide), if_neg (by decide),
    lowerFrom_append_bracket]
  rfl

theorem lowerChars_of_isHeaderFor (h : isHeaderFor name line = true) :
    lowerChars (trimChars line.toList) = '[' :: (lowerChars (trim name).toList ++ [']']) := by
  rw [isHeaderFor, beq_iff_eq, ← String.toList_inj, toList_lower, toList_trim,
    toList_lower_header] at h
  exact h

theorem lower_trim_eq_of_isHeaderFor {other : String} (h : isHeaderFor name line = true)
    (h' : isHeaderFor other line = true) : lower (trim name) = lower (trim other) := by
  have hsame := (lowerChars_of_isHeaderFor h).symm.trans (lowerChars_of_isHeaderFor h')
  rw [List.cons.injEq] at hsame
  have hnames := List.append_cancel_right hsame.2
  rw [← String.toList_inj, toList_lower, toList_lower, hnames]

theorem isHeaderFor_of_ne {other : String} (hne : lower (trim name) ≠ lower (trim other))
    (h : isHeaderFor other line = true) : isHeaderFor name line = false := by
  cases hn : isHeaderFor name line with
  | false => rfl
  | true => exact absurd (lower_trim_eq_of_isHeaderFor hn h) hne

theorem trimChars_sublist (text : List Char) : (trimChars text).Sublist text := by
  have hinside := trimChars_prefix text
  exact hinside.sublist.trans (List.dropWhile_sublist isBlankChar)

theorem mem_of_mem_trimChars {c : Char} {text : List Char} (h : c ∈ trimChars text) :
    c ∈ text := (trimChars_sublist text).subset h

theorem trimChars_ne_nil {text : List Char} {c : Char} (hc : c ∈ text)
    (hblank : isBlankChar c = false) : trimChars text ≠ [] := by
  intro hnil
  have hfront : c ∈ dropBlanks text := by
    rw [← List.takeWhile_append_dropWhile (p := isBlankChar) (l := text)] at hc
    rcases List.mem_append.1 hc with hc | hc
    · have hyes := List.all_eq_true.1 List.all_takeWhile c hc
      rw [hblank] at hyes
      simp at hyes
    · exact hc
  have hall := dropBlanks_eq_nil_iff.1 (List.reverse_eq_nil_iff.1 hnil)
  rw [hall c (List.mem_reverse.2 hfront)] at hblank
  simp at hblank

theorem head?_dropWhile_ne {c : Char} {text : List Char} (h : c ∈ text) :
    (text.dropWhile (· ≠ c)).head? = some c := by
  induction text with
  | nil => simp at h
  | cons d text ih =>
      by_cases hd : d = c
      · simp [hd]
      · have hmem : c ∈ text := by simpa [Ne.symm hd] using h
        simpa [hd] using ih hmem

theorem opensHeader_of_mem {text : List Char} (hfirst : text.head? ≠ some ']')
    (hmem : ']' ∈ text) : opensHeader ('[' :: text) = true := by
  have hinner : (text.takeWhile (· ≠ ']')).isEmpty = false := by
    cases text with
    | nil => simp at hmem
    | cons c text =>
        have hc : c ≠ ']' := by simpa using hfirst
        simp [hc]
  rw [opensHeader, hinner, head?_dropWhile_ne hmem]
  rfl

theorem isHeader_of_isHeaderFor (hname : isBlank name = false) (hb : ']' ∉ name.toList)
    (h : isHeaderFor name line = true) : isHeader line = true := by
  have hlower := lowerChars_of_isHeaderFor h
  obtain ⟨c, text, next, htext, hc, hrest⟩ := lowerFrom_eq_cons (by decide) hlower
  have hopen : c = '[' := by
    have hself := lowerLetter_eq_self_of_isBracket (c := c) (by rw [hc]; rfl)
    rw [← hself, hc]
  obtain ⟨d, hd, hblank⟩ : ∃ d ∈ name.toList, isBlankChar d = false := by
    simpa [isBlank] using hname
  have hinner : lowerChars (trim name).toList ≠ [] := by
    apply lowerFrom_ne_nil
    rw [toList_trim]
    exact trimChars_ne_nil hd hblank
  have hclosed : ']' ∉ lowerChars (trim name).toList := by
    rw [lowerChars, mem_lowerFrom_iff rfl, toList_trim]
    intro hmem
    exact hb (mem_of_mem_trimChars hmem)
  -- the text between the brackets is not empty, since its lowercase form is not
  have hfirst : text.head? ≠ some ']' := by
    intro hhead
    cases text with
    | nil => simp at hhead
    | cons e text =>
        rw [List.head?_cons, Option.some.injEq] at hhead
        subst hhead
        cases hl : lowerChars (trim name).toList with
        | nil => exact hinner hl
        | cons x rest =>
            rw [hl, lowerFrom, if_neg (by decide), if_neg (by decide), List.cons_append,
              List.cons.injEq] at hrest
            have hbracket : lowerLetter ']' = ']' := by decide
            rw [hl, ← hrest.1, hbracket] at hclosed
            exact hclosed List.mem_cons_self
  have hlast : ']' ∈ text := by
    rw [← mem_lowerFrom_iff rfl next, hrest]
    simp
  rw [isHeader, htext, hopen]
  exact opensHeader_of_mem hfirst hlast

def opensBracket (text : List Char) : Bool := (dropBlanks text).head? == some '['

theorem opensBracket_of_isHeader (h : isHeader line = true) :
    opensBracket line.toList = true := by
  obtain ⟨after, hafter⟩ := trimChars_prefix line.toList
  rw [opensBracket, ← hafter]
  rw [isHeader] at h
  unfold opensHeader at h
  split at h
  · rename_i text htext
    rw [htext]
    rfl
  · simp at h

theorem opensBracket_of_isHeaderFor (h : isHeaderFor name line = true) :
    opensBracket line.toList = true := by
  obtain ⟨c, text, hdrop, hc⟩ := dropBlanks_of_isHeaderFor h
  have hself := lowerLetter_eq_self_of_isBracket (c := c) (by rw [hc]; rfl)
  rw [opensBracket, hdrop, ← hself, hc]
  rfl

theorem opensBracket_of_isStep {family : String} (h : RunStep.isStep family line = true) :
    opensBracket line.toList = false := by
  obtain ⟨c, _, _, hdrop, hc, -⟩ := RunStep.letters_of_isStep h
  rw [opensBracket, hdrop, List.head?_cons]
  refine beq_false_of_ne ?_
  rintro hbracket
  rw [Option.some.injEq] at hbracket
  have hno : sameLetter 'F' '[' = false := by decide
  rw [hbracket, hno] at hc
  simp at hc

theorem isStep_of_isHeaderFor {family : String} (h : isHeaderFor name line = true) :
    RunStep.isStep family line = false := by
  cases hs : RunStep.isStep family line with
  | false => rfl
  | true =>
      have hbracket := opensBracket_of_isStep hs
      rw [opensBracket_of_isHeaderFor h] at hbracket
      exact hbracket

/-! ## Bodies -/

/-- The lines below the first header of a name, up to the next header. -/
def bodyBelow? (name : String) : List String → Option (List String)
  | [] => none
  | line :: lines =>
      if isHeaderFor name line then some (lines.takeWhile fun line => !isHeader line)
      else bodyBelow? name lines

variable {lines : List String}

theorem bodyBelow?_first {above below : List String} {head : String}
    (habove : above.any (isHeaderFor name) = false) (hhead : isHeaderFor name head = true) :
    bodyBelow? name (above ++ head :: below) =
      some (below.takeWhile fun line => !isHeader line) := by
  induction above with
  | nil => simp [bodyBelow?, hhead]
  | cons line above ih =>
      rw [List.any_cons, Bool.or_eq_false_iff] at habove
      simp [bodyBelow?, habove.1, ih habove.2]

theorem bodyBelow?_of_none (h : lines.any (isHeaderFor name) = false) :
    bodyBelow? name lines = none := by
  induction lines with
  | nil => rfl
  | cons line lines ih =>
      rw [List.any_cons, Bool.or_eq_false_iff] at h
      simp [bodyBelow?, h.1, ih h.2]

theorem drop_below (above below : List String) (head : String) :
    (above ++ head :: below).drop (above.length + 1) = below := by
  have hsplit : above ++ head :: below = (above ++ [head]) ++ below := by simp
  have hlength : above.length + 1 = (above ++ [head]).length := by simp
  rw [hsplit, hlength, List.drop_left]

theorem endFrom_below (above below : List String) (head : String) :
    endFrom (above.length + 1) (above ++ head :: below) =
      above.length + (below.takeWhile fun line => !isHeader line).length := by
  rw [List.takeWhile_eq_take_findIdx_not, endFrom, Lines.indexFrom?, drop_below]
  simp only [Bool.not_not]
  cases hi : below.findIdx? isHeader with
  | none =>
      rw [List.findIdx?_eq_none_iff_findIdx_eq.1 hi]
      simp only [Option.map_none, List.length_append, List.length_cons, List.take_length]
      omega
  | some i =>
      obtain ⟨hlt, hidx⟩ := List.findIdx?_eq_some_iff_findIdx_eq.1 hi
      rw [hidx]
      simp only [Option.map_some, List.length_take]
      omega

theorem slice_endFrom (above below : List String) (head : String) :
    Lines.slice (above.length + 1) (endFrom (above.length + 1) (above ++ head :: below))
        (above ++ head :: below) = below.takeWhile fun line => !isHeader line := by
  rw [endFrom_below, Lines.slice, List.drop_take, drop_below, Nat.add_right_comm,
    Nat.add_sub_cancel_left]
  exact (List.prefix_iff_eq_take.1 (List.takeWhile_prefix _)).symm

/-- The body of a named section is what stands below its first header. -/
theorem body?_eq_bodyBelow? (hname : isBlank name = false) (lines : List String) :
    body? name lines = bodyBelow? name lines := by
  have hend : end? name lines =
      (start? name lines).map fun start => endFrom (start + 1) lines := by
    unfold end?
    rw [isUnnamed, hname]
    rfl
  rw [body?, hend, start?_eq hname]
  cases hi : Lines.indexFrom? (isHeaderFor name) 0 lines with
  | none => exact (bodyBelow?_of_none (Lines.indexFrom?_zero_eq_none_iff.1 hi)).symm
  | some start =>
      obtain ⟨above, head, below, rfl, habove, hhead, rfl⟩ :=
        Lines.exists_first_of_indexFrom? hi
      rw [bodyBelow?_first habove hhead, isUnnamed, hname]
      simp only [Option.map_some, Bool.false_eq_true, if_false, slice_endFrom]

theorem takeWhile_filter {keep test : String → Bool}
    (h : ∀ line, test line = false → keep line = true) (lines : List String) :
    (lines.filter keep).takeWhile test = (lines.takeWhile test).filter keep := by
  induction lines with
  | nil => rfl
  | cons line lines ih =>
      cases ht : test line with
      | true => cases hk : keep line <;> simp [ht, hk, ih]
      | false => simp [ht, h line ht]

/-- Where all headers are kept, a body loses the lines that the script loses. -/
theorem bodyBelow?_filter {keep : String → Bool}
    (hname : ∀ line, isHeaderFor name line = true → keep line = true)
    (hheader : ∀ line, isHeader line = true → keep line = true) (lines : List String) :
    bodyBelow? name (lines.filter keep) = (bodyBelow? name lines).map (List.filter keep) := by
  induction lines with
  | nil => rfl
  | cons line lines ih =>
      have hrest : (lines.filter keep).takeWhile (fun line => !isHeader line) =
          (lines.takeWhile fun line => !isHeader line).filter keep :=
        takeWhile_filter (fun line hl => hheader line (by simpa using hl)) lines
      rw [bodyBelow?]
      cases hn : isHeaderFor name line with
      | true =>
          rw [List.filter_cons_of_pos (hname line hn), bodyBelow?, hn, if_pos rfl, if_pos rfl,
            hrest]
          rfl
      | false =>
          rw [if_neg (by simp), ← ih]
          cases hk : keep line with
          | true => rw [List.filter_cons_of_pos hk, bodyBelow?, hn, if_neg (by simp)]
          | false => rw [List.filter_cons_of_neg (by simp [hk])]

section Insertion

open Lines

variable {test : String → Bool} {new : List String}

theorem takeWhile_insertBelow (htest : ∀ line, test line = true → isHeader line = true)
    (lines : List String) :
    (insertBelow test new lines).takeWhile (fun line => !isHeader line) =
      lines.takeWhile fun line => !isHeader line := by
  induction lines with
  | nil => rfl
  | cons line lines ih =>
      rw [insertBelow]
      cases ht : test line with
      | true => simp [htest line ht]
      | false => simp only [Bool.false_eq_true, if_false, List.takeWhile_cons, ih]

theorem takeWhile_insertAbove {other : String}
    (htest : ∀ line, test line = true → isHeader line = true) (hother : isHeader other = true)
    (lines : List String) :
    (insertAbove test [other] lines).takeWhile (fun line => !isHeader line) =
      lines.takeWhile fun line => !isHeader line := by
  induction lines with
  | nil => simp [insertAbove, hother]
  | cons line lines ih =>
      rw [insertAbove]
      cases ht : test line with
      | true => simp [htest line ht, hother]
      | false => simp only [Bool.false_eq_true, if_false, List.takeWhile_cons, ih]

theorem bodyBelow?_append_of_none (h : ∀ line ∈ new, isHeaderFor name line = false)
    (below : List String) : bodyBelow? name (new ++ below) = bodyBelow? name below := by
  induction new with
  | nil => rfl
  | cons line new ih =>
      rw [List.cons_append, bodyBelow?, h line List.mem_cons_self, if_neg (by simp)]
      exact ih fun line hl => h line (List.mem_cons_of_mem _ hl)

theorem bodyBelow?_insertBelow
    (htest : ∀ line, test line = true → isHeader line = true ∧ isHeaderFor name line = false)
    (hnew : ∀ line ∈ new, isHeaderFor name line = false) (lines : List String) :
    bodyBelow? name (insertBelow test new lines) = bodyBelow? name lines := by
  induction lines with
  | nil => rfl
  | cons line lines ih =>
      rw [insertBelow]
      cases hn : isHeaderFor name line with
      | true =>
          have hne : test line = false := by
            cases ht : test line with
            | false => rfl
            | true => rw [(htest line ht).2] at hn; simp at hn
          simp [bodyBelow?, hne, hn, takeWhile_insertBelow fun line hl => (htest line hl).1]
      | false =>
          cases ht : test line with
          | true => simp [bodyBelow?, hn, bodyBelow?_append_of_none hnew]
          | false => simp [bodyBelow?, hn, ih]

theorem bodyBelow?_insertAbove {other : String}
    (htest : ∀ line, test line = true → isHeader line = true)
    (hother : isHeader other = true) (hname : isHeaderFor name other = false)
    (lines : List String) :
    bodyBelow? name (insertAbove test [other] lines) = bodyBelow? name lines := by
  induction lines with
  | nil => simp [insertAbove, bodyBelow?, hname]
  | cons line lines ih =>
      rw [insertAbove]
      cases ht : test line with
      | true => simp [bodyBelow?, hname]
      | false =>
          cases hn : isHeaderFor name line with
          | true => simp [bodyBelow?, hn, takeWhile_insertAbove htest hother]
          | false => simp [bodyBelow?, hn, ih]

end Insertion

end Section

end SetupForge
