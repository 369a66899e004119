import Mathlib.Data.List.Induction
import SetupForge.Number.Binary64
import SetupForge.Text.Digit

/-! # Numbers and their texts

A text of ASCII digits is read as the integer that its digits write. Zeros in front, which fill a
number up to its width, do not count. An integer that was read from a text, or that is the integer
part of a number of 64 bits, has few enough digits to be written again.
-/

namespace SetupForge

namespace Text

/-! ## Numbers that can be written -/

theorem toNat_of_isDigit {c : Char} (h : c.isDigit = true) :
    48 ≤ c.toNat ∧ c.toNat ≤ 57 := by
  simp only [Char.isDigit, Bool.and_eq_true, decide_eq_true_eq] at h
  exact ⟨h.1, h.2⟩

theorem asciiDigit?_lt {c : Char} {digit : Nat} (h : asciiDigit? c = some digit) : digit < 10 := by
  unfold asciiDigit? at h
  split at h
  · rename_i hdigit
    simp only [Option.some.injEq] at h
    have hrange := toNat_of_isDigit hdigit
    have hzero : '0'.toNat = 48 := rfl
    omega
  · cases h

theorem digit?_lt {c : Char} {digit : Nat} (h : digit? c = some digit) : digit < 10 := by
  unfold digit? at h
  split at h
  · exact asciiDigit?_lt h
  · obtain ⟨start, hstart, rfl⟩ := Option.map_eq_some_iff.1 h
    have hrange := List.find?_some hstart
    simp only [Bool.and_eq_true, decide_eq_true_eq] at hrange
    omega

theorem lt_of_groupedDigits? {text : List Char} {digits : List Nat}
    (h : groupedDigits? text = some digits) : ∀ digit ∈ digits, digit < 10 := by
  fun_induction groupedDigits? text generalizing digits with
  | case1 => cases h
  | case2 => cases h
  | case3 c first hfirst =>
      cases h
      exact List.forall_mem_singleton.2 (digit?_lt hfirst)
  | case4 c first hfirst text ih =>
      obtain ⟨rest, hrest, rfl⟩ := Option.map_eq_some_iff.1 h
      exact List.forall_mem_cons.2 ⟨digit?_lt hfirst, ih hrest⟩
  | case5 c first hfirst text hend hmark ih =>
      obtain ⟨rest, hrest, rfl⟩ := Option.map_eq_some_iff.1 h
      exact List.forall_mem_cons.2 ⟨digit?_lt hfirst, ih hrest⟩

theorem ofDigits_lt {digits : List Nat} (h : ∀ digit ∈ digits, digit < 10) :
    ofDigits 10 digits < Nat.pow 10 digits.length := by
  induction digits using List.reverseRecOn with
  | nil => simp
  | append_singleton digits digit ih =>
      rw [ofDigits_append_singleton, List.length_append, List.length_singleton]
      have hlast : digit < 10 := h digit (by simp)
      have hrest : ofDigits 10 digits < Nat.pow 10 digits.length :=
        ih fun other hmem => h other (List.mem_append_left _ hmem)
      have hpower : Nat.pow 10 (digits.length + 1) = Nat.pow 10 digits.length * 10 := rfl
      omega

theorem hasText_of_natAbs_lt {n : Int} {digits : Nat} (h : n.natAbs < Nat.pow 10 digits)
    (hdigits : digits ≤ maxIntegerDigits) : hasText n = true := by
  unfold hasText
  generalize maxIntegerDigits = most at hdigits
  have hpower : Nat.pow 10 digits ≤ Nat.pow 10 most := Nat.pow_le_pow_right (by decide) hdigits
  exact decide_eq_true (Nat.lt_of_lt_of_le h hpower)

theorem hasText_of_digit {n : Int} (h : n.natAbs < 10) : hasText n = true := by
  have hone : n.natAbs < Nat.pow 10 1 := h
  exact hasText_of_natAbs_lt hone (by decide)

theorem hasText_of_integer? {text : String} {n : Int} (h : integer? text = some n) :
    hasText n = true := by
  unfold integer? at h
  dsimp only at h
  split at h
  · cases h
  · rename_i digits hdigits
    split at h
    · cases h
    · rename_i hlength
      have hbound := ofDigits_lt (lt_of_groupedDigits? hdigits)
      have habs : n.natAbs = ofDigits 10 digits := by
        rw [Option.some.injEq] at h
        subst h
        split <;> simp
      exact hasText_of_natAbs_lt (habs ▸ hbound) (Nat.le_of_not_lt hlength)

/-! ## Texts of digits -/

section Digits

variable {c : Char} {text digits others : List Char} {width n : Nat}

def AllDigits (text : List Char) : Prop := ∀ c ∈ text, c.isDigit = true

theorem AllDigits.append (h : AllDigits digits) (h' : AllDigits others) :
    AllDigits (digits ++ others) := List.forall_mem_append.2 ⟨h, h'⟩

theorem digit?_of_isDigit (h : c.isDigit = true) : digit? c = some (c.toNat - '0'.toNat) := by
  have hrange := toNat_of_isDigit h
  rw [digit?, if_pos (by omega), asciiDigit?, if_pos h]

theorem dropWhile_of_forall {p : Char → Bool} (h : ∀ c ∈ text, p c = false) :
    text.dropWhile p = text := by
  cases text with
  | nil => rfl
  | cons c text => rw [List.dropWhile_cons, h c List.mem_cons_self, if_neg (by decide)]

theorem trimNumber_of_digits (h : AllDigits text) : trimNumber text = text := by
  have hascii : (text.all fun c => c.toNat < 0x80) = true := by
    rw [List.all_eq_true]
    intro c hc
    have hrange := toNat_of_isDigit (h c hc)
    simp only [decide_eq_true_eq]
    omega
  have hspace : ∀ c ∈ text, ((9 ≤ c.toNat && c.toNat ≤ 13) || decide (c = ' ')) = false := by
    intro c hc
    have hrange := toNat_of_isDigit (h c hc)
    have hne : c ≠ ' ' := by
      rintro rfl
      exact absurd hrange.1 (by decide)
    simp only [hne, decide_false, Bool.or_false, Bool.and_eq_false_iff, decide_eq_false_iff_not]
    omega
  rw [trimNumber, if_pos hascii]
  dsimp only
  rw [dropWhile_of_forall hspace, dropWhile_of_forall fun c hc => hspace c (List.mem_reverse.1 hc),
    List.reverse_reverse]

theorem groupedDigits?_of_digits (hne : text ≠ []) (h : AllDigits text) :
    groupedDigits? text = some (text.map fun c => c.toNat - '0'.toNat) := by
  induction text with
  | nil => exact absurd rfl hne
  | cons c text ih =>
      have hdigit := digit?_of_isDigit (h c List.mem_cons_self)
      have hrest : AllDigits text := fun d hd => h d (List.mem_cons_of_mem c hd)
      cases text with
      | nil => simp [groupedDigits?, hdigit]
      | cons d text =>
          have hmark : d ≠ '_' := by
            rintro rfl
            exact absurd (hrest '_' List.mem_cons_self) (by decide)
          rw [groupedDigits?, hdigit]
          simp [ih (by simp) hrest, hmark]

theorem ofDigits_map_eq (text : List Char) :
    ofDigits 10 (text.map fun c => c.toNat - '0'.toNat) = Nat.ofDigitChars 10 text 0 := by
  rw [ofDigits, List.foldl_map, Nat.ofDigitChars_eq_foldl]
  congr 1
  funext value c
  rw [Nat.mul_comm]

theorem integer?_of_digits (hne : text ≠ []) (h : AllDigits text)
    (hlength : text.length ≤ maxIntegerDigits) :
    integer? (String.ofList text) = some ((Nat.ofDigitChars 10 text 0 : Nat) : Int) := by
  have hdigits := groupedDigits?_of_digits hne h
  have hsign : ∀ body, text ≠ '-' :: body ∧ text ≠ '+' :: body := by
    intro body
    constructor <;> rintro rfl <;> exact absurd (h _ List.mem_cons_self) (by decide)
  rw [integer?, String.toList_ofList, trimNumber_of_digits h]
  split
  rename_i negative body hbody
  have hunsigned : (false, text) = (negative, body) := by
    rw [← hbody]
    split
    · exact absurd rfl (hsign _).1
    · exact absurd rfl (hsign _).2
    · rfl
  obtain ⟨rfl, rfl⟩ := Prod.mk.inj hunsigned
  have hfew : ¬ (text.map fun c => c.toNat - '0'.toNat).length > maxIntegerDigits := by
    rw [List.length_map]
    omega
  rw [hdigits]
  dsimp only
  rw [if_neg hfew, ofDigits_map_eq]
  rfl

/-! ## Filled numbers -/

theorem allDigits_toDigits (n : Nat) : AllDigits (Nat.toDigits 10 n) :=
  fun _ => Nat.isDigit_of_mem_toDigits (by decide) (by decide)

theorem toList_padded (width n : Nat) : (padded width n).toList =
    List.replicate (width - (Nat.toDigits 10 n).length) '0' ++ Nat.toDigits 10 n := by
  rw [padded, String.toList_ofList]

theorem allDigits_padded (width n : Nat) : AllDigits (padded width n).toList := by
  rw [toList_padded]
  apply AllDigits.append
  · intro c hc
    rw [List.eq_of_mem_replicate hc]
    decide
  · exact allDigits_toDigits n

theorem ofDigitChars_padded (width n : Nat) :
    Nat.ofDigitChars 10 (padded width n).toList 0 = n := by
  rw [toList_padded, Nat.ofDigitChars_append, Nat.ofDigitChars_replicate_zero, Nat.mul_zero,
    Nat.ofDigitChars_ten_toDigits]

theorem length_padded (hwidth : 0 < width) (h : n < Nat.pow 10 width) :
    (padded width n).toList.length = width := by
  have hle := (Nat.length_toDigits_le_iff (by decide) hwidth).2 h
  rw [toList_padded, List.length_append, List.length_replicate]
  omega

/-- Behind other digits a filled number counts from the power of ten of its width on. -/
theorem ofDigitChars_append_padded (hwidth : 0 < width) (h : n < Nat.pow 10 width)
    (digits : List Char) :
    Nat.ofDigitChars 10 (digits ++ (padded width n).toList) 0 =
      Nat.ofDigitChars 10 digits 0 * Nat.pow 10 width + n := by
  rw [Nat.ofDigitChars_append, Nat.ofDigitChars_eq_ofDigitChars_zero, ofDigitChars_padded,
    length_padded hwidth h, Nat.mul_comm]
  rfl

end Digits

end Text

namespace Binary64

/-- Whether a number is infinite, or finite and of 64 bits. -/
def isOrdered : Binary64 → Bool
  | .notNumber => false
  | .infinite _ => true
  | .finite _ significand exponent => significand < Nat.pow 2 53 && exponent ≤ greatestExponent

theorem ratio_fst_lt {significand bits : Nat} {exponent top : Int}
    (hsignificand : significand < Nat.pow 2 bits) (hexponent : exponent ≤ top) :
    (ratio significand exponent).1 < Nat.pow 2 (bits + top.toNat) := by
  unfold ratio
  split
  · exact Nat.lt_of_lt_of_le hsignificand (Nat.pow_le_pow_right (by decide) (Nat.le_add_right _ _))
  · have hpower : Nat.pow 2 exponent.toNat ≤ Nat.pow 2 top.toNat :=
      Nat.pow_le_pow_right (by decide) (Int.toNat_le_toNat hexponent)
    have hsplit : Nat.pow 2 (bits + top.toNat) = Nat.pow 2 bits * Nat.pow 2 top.toNat :=
      Nat.pow_add 2 bits top.toNat
    rw [hsplit]
    exact Nat.mul_lt_mul_of_lt_of_le hsignificand hpower (Nat.two_pow_pos _)

theorem hasText_of_truncate? {number : Binary64} {n : Int} (hnumber : number.isOrdered = true)
    (h : number.truncate? = some n) : Text.hasText n = true := by
  cases number with
  | notNumber => cases h
  | infinite negative => cases h
  | finite negative significand exponent =>
      simp only [isOrdered, Bool.and_eq_true, decide_eq_true_eq] at hnumber
      have hratio := ratio_fst_lt hnumber.1 hnumber.2
      have habs : n.natAbs = (ratio significand exponent).1 / (ratio significand exponent).2 := by
        simp only [truncate?, signedRatio?, Option.map_some, Option.some.injEq] at h
        subst h
        rw [Int.natAbs_tdiv, Int.natAbs_natCast]
        split
        · rw [Int.natAbs_neg, Int.natAbs_natCast]
          rfl
        · rw [Int.natAbs_natCast]
          rfl
      have hbits : 53 + greatestExponent.toNat ≤ Text.maxIntegerDigits := by decide
      generalize 53 + greatestExponent.toNat = bits at hratio hbits
      have hsize : n.natAbs < Nat.pow 10 bits :=
        calc n.natAbs ≤ (ratio significand exponent).1 := habs ▸ Nat.div_le_self _ _
          _ < Nat.pow 2 bits := hratio
          _ ≤ Nat.pow 10 bits := Nat.pow_le_pow_left (by decide) bits
      exact Text.hasText_of_natAbs_lt hsize hbits

end Binary64

end SetupForge
