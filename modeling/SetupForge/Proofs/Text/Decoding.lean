import SetupForge.Proofs.Text.Encodings

/-! # Bytes read and written again

Bytes that an encoding reads without a loss are those that it writes for the text. UTF-8 reads
nothing else than what it writes. Windows-1252 reads every byte, and loses the five that stand for
nothing.
-/

namespace SetupForge

/-! ## UTF-8 -/

namespace Utf8

theorem byte_eq {n : Nat} {b : UInt8} (h : n = b.toNat) : byte n = b := by
  rw [h]
  exact UInt8.ofNat_toNat

theorem toNat_of_continuation? {b : UInt8} {low : Nat} (h : continuation? b = some low) :
    low < 0x40 ∧ b.toNat = 0x80 + low := by
  unfold continuation? at h
  split at h
  · rename_i hrange
    simp only [Bool.and_eq_true, decide_eq_true_eq] at hrange
    rw [Option.some.injEq] at h
    omega
  · cases h

theorem toNat_of_isValidChar {n : Nat} (h : n.isValidChar) : (Char.ofNat n).toNat = n := by
  unfold Char.ofNat
  rw [dif_pos h]
  unfold Char.ofNatAux Char.toNat
  simp

theorem toNat_of_scalar? {least code : Nat} {c : Char} (h : scalar? least code = some c) :
    least ≤ code ∧ c.toNat = code := by
  unfold scalar? at h
  split at h
  · rename_i hcode
    cases h
    exact ⟨hcode.1, toNat_of_isValidChar hcode.2⟩
  · cases h

section Lead

variable {a b₁ b₂ b₃ : UInt8} {low middle high : Nat} {c : Char}

/-! The bytes of a character follow from the number that its bits make up. -/

theorem encodeChar_of_two (ha : 0xc0 ≤ a.toNat ∧ a.toNat < 0xe0)
    (hlow : continuation? b₁ = some low)
    (hc : scalar? 0x80 ((a.toNat - 0xc0) * 0x40 + low) = some c) : encodeChar c = [a, b₁] := by
  obtain ⟨hl, hb₁⟩ := toNat_of_continuation? hlow
  obtain ⟨hleast, hcode⟩ := toNat_of_scalar? hc
  have hone : ¬ c.toNat < 0x80 := by omega
  have htwo : c.toNat < 0x800 := by omega
  simp only [encodeChar, if_neg hone, if_pos htwo]
  rw [byte_eq (b := a) (by omega), byte_eq (b := b₁) (by omega)]

theorem encodeChar_of_three (ha : 0xe0 ≤ a.toNat ∧ a.toNat < 0xf0)
    (hmiddle : continuation? b₁ = some middle) (hlow : continuation? b₂ = some low)
    (hc : scalar? 0x800 ((a.toNat - 0xe0) * 0x1000 + middle * 0x40 + low) = some c) :
    encodeChar c = [a, b₁, b₂] := by
  obtain ⟨hm, hb₁⟩ := toNat_of_continuation? hmiddle
  obtain ⟨hl, hb₂⟩ := toNat_of_continuation? hlow
  obtain ⟨hleast, hcode⟩ := toNat_of_scalar? hc
  have hone : ¬ c.toNat < 0x80 := by omega
  have htwo : ¬ c.toNat < 0x800 := by omega
  have hthree : c.toNat < 0x10000 := by omega
  simp only [encodeChar, if_neg hone, if_neg htwo, if_pos hthree]
  rw [byte_eq (b := a) (by omega), byte_eq (b := b₁) (by omega), byte_eq (b := b₂) (by omega)]

theorem encodeChar_of_four (ha : 0xf0 ≤ a.toNat) (hhigh : continuation? b₁ = some high)
    (hmiddle : continuation? b₂ = some middle) (hlow : continuation? b₃ = some low)
    (hc : scalar? 0x10000
      ((a.toNat - 0xf0) * 0x40000 + high * 0x1000 + middle * 0x40 + low) = some c) :
    encodeChar c = [a, b₁, b₂, b₃] := by
  obtain ⟨hh, hb₁⟩ := toNat_of_continuation? hhigh
  obtain ⟨hm, hb₂⟩ := toNat_of_continuation? hmiddle
  obtain ⟨hl, hb₃⟩ := toNat_of_continuation? hlow
  obtain ⟨hleast, hcode⟩ := toNat_of_scalar? hc
  have hone : ¬ c.toNat < 0x80 := by omega
  have htwo : ¬ c.toNat < 0x800 := by omega
  have hthree : ¬ c.toNat < 0x10000 := by omega
  simp only [encodeChar, if_neg hone, if_neg htwo, if_neg hthree]
  rw [byte_eq (b := a) (by omega), byte_eq (b := b₁) (by omega), byte_eq (b := b₂) (by omega),
    byte_eq (b := b₃) (by omega)]

end Lead

theorem encodeChar_of_next? {bytes rest : Bytes} {c : Char} (h : next? bytes = some (c, rest)) :
    encodeChar c ++ rest = bytes := by
  cases bytes with
  | nil => cases h
  | cons a bytes =>
      rw [next?.eq_def] at h
      dsimp only at h
      -- one case for each number of bytes that the first byte calls for
      split at h
      · rename_i hone
        cases h
        have hcode : (Char.ofNat a.toNat).toNat = a.toNat :=
          toNat_of_isValidChar (Or.inl (by omega))
        simp only [encodeChar, hcode, if_pos hone]
        rw [byte_eq rfl]
        rfl
      split at h
      · rename_i htwo
        simp only [Bool.and_eq_true, decide_eq_true_eq] at htwo
        split at h
        · obtain ⟨low, hlow, h⟩ := Option.bind_eq_some_iff.1 h
          obtain ⟨_, hc, h⟩ := Option.bind_eq_some_iff.1 h
          cases h
          rw [encodeChar_of_two htwo hlow hc]
          rfl
        · cases h
      split at h
      · rename_i hthree
        simp only [Bool.and_eq_true, decide_eq_true_eq] at hthree
        split at h
        · obtain ⟨middle, hmiddle, h⟩ := Option.bind_eq_some_iff.1 h
          obtain ⟨low, hlow, h⟩ := Option.bind_eq_some_iff.1 h
          obtain ⟨_, hc, h⟩ := Option.bind_eq_some_iff.1 h
          cases h
          rw [encodeChar_of_three hthree hmiddle hlow hc]
          rfl
        · cases h
      split at h
      · rename_i hfour
        simp only [Bool.and_eq_true, decide_eq_true_eq] at hfour
        split at h
        · obtain ⟨high, hhigh, h⟩ := Option.bind_eq_some_iff.1 h
          obtain ⟨middle, hmiddle, h⟩ := Option.bind_eq_some_iff.1 h
          obtain ⟨low, hlow, h⟩ := Option.bind_eq_some_iff.1 h
          obtain ⟨_, hc, h⟩ := Option.bind_eq_some_iff.1 h
          cases h
          rw [encodeChar_of_four hfour.1 hhigh hmiddle hlow hc]
          rfl
        · cases h
      · cases h

theorem encode_of_decodeFuel {fuel : Nat} {bytes : Bytes} {text : List Char}
    (h : decodeFuel fuel bytes = some text) : encode text = bytes := by
  induction fuel generalizing bytes text with
  | zero =>
      cases bytes with
      | nil =>
          cases h
          rfl
      | cons a bytes => cases h
  | succ fuel ih =>
      cases bytes with
      | nil =>
          cases h
          rfl
      | cons a bytes =>
          simp only [decodeFuel] at h
          split at h
          · cases h
          · rename_i c rest hnext
            obtain ⟨others, hothers, rfl⟩ := Option.map_eq_some_iff.1 h
            rw [encode_cons, ih hothers]
            exact encodeChar_of_next? hnext

theorem decode?_eq_some_iff {bytes : Bytes} {text : List Char} :
    decode? bytes = some text ↔ encode text = bytes := by
  constructor
  · intro h
    exact encode_of_decodeFuel h
  · rintro rfl
    exact decode?_encode text

end Utf8

/-! ## Windows-1252 -/

namespace Windows1252

def undefinedBytes : Bytes := [0x81, 0x8d, 0x8f, 0x90, 0x9d]

theorem encodeChar?_decodeByte {b : UInt8} (h : b ∉ undefinedBytes) :
    encodeChar? (decodeByte b) = some b := by
  have hall : ∀ n < 0x100, UInt8.ofNat n ∉ undefinedBytes →
      encodeChar? (decodeByte (UInt8.ofNat n)) = some (UInt8.ofNat n) := by
    decide +kernel
  have hb : UInt8.ofNat b.toNat = b := UInt8.ofNat_toNat
  have hbyte := hall b.toNat b.toNat_lt
  rw [hb] at hbyte
  exact hbyte h

theorem encode_decode {bytes : Bytes} (h : ∀ b ∈ bytes, b ∉ undefinedBytes) :
    encode (decode bytes) = bytes := by
  induction bytes with
  | nil => rfl
  | cons b bytes ih =>
      obtain ⟨hb, hbytes⟩ := List.forall_mem_cons.1 h
      have hrest := ih hbytes
      simp only [encode, decode, List.map_cons, List.map_map, encodeChar?_decodeByte hb,
        Option.getD_some] at hrest ⊢
      rw [hrest]

end Windows1252

end SetupForge
