import SetupForge.Proofs.Text.LineBreaks
import SetupForge.Script.Basic

/-! # Texts written and read again

What an encoding writes reads as the same text, if the encoding has a form for each character.
UTF-8 has one for every character, Windows-1252 for those of its table.
-/

namespace SetupForge

open Text

/-! ## UTF-8 -/

namespace Utf8

theorem toNat_byte {n : Nat} (h : n < 0x100) : (byte n).toNat = n := by
  rw [byte, UInt8.toNat_ofNat']
  exact Nat.mod_eq_of_lt h

theorem continuation?_byte {n : Nat} (h : n < 0x40) :
    continuation? (byte (0x80 + n)) = some n := by
  rw [continuation?, toNat_byte (by omega)]
  have hlow : 0x80 + n < 0xc0 := by omega
  simp [hlow]

theorem scalar?_toNat {least : Nat} {c : Char} (h : least ≤ c.toNat) :
    scalar? least c.toNat = some c := by
  have hvalid : c.toNat.isValidChar := c.valid
  rw [scalar?, if_pos ⟨h, hvalid⟩, Char.ofNat_toNat]

section Lead

variable {a b₁ b₂ b₃ : UInt8} {low middle high : Nat} {c : Char} (rest : Bytes)

theorem next?_of_two (ha : 0xc0 ≤ a.toNat ∧ a.toNat < 0xe0) (hlow : continuation? b₁ = some low)
    (hc : scalar? 0x80 ((a.toNat - 0xc0) * 0x40 + low) = some c) :
    next? (a :: b₁ :: rest) = some (c, rest) := by
  have hone : ¬ a.toNat < 0x80 := by omega
  rw [next?, if_neg hone, if_pos (by simpa using ha)]
  refine Option.bind_eq_some_iff.2 ⟨low, hlow, ?_⟩
  exact Option.bind_eq_some_iff.2 ⟨c, hc, rfl⟩

theorem next?_of_three (ha : 0xe0 ≤ a.toNat ∧ a.toNat < 0xf0)
    (hmiddle : continuation? b₁ = some middle) (hlow : continuation? b₂ = some low)
    (hc : scalar? 0x800 ((a.toNat - 0xe0) * 0x1000 + middle * 0x40 + low) = some c) :
    next? (a :: b₁ :: b₂ :: rest) = some (c, rest) := by
  have hone : ¬ a.toNat < 0x80 := by omega
  have htwo : ¬ a.toNat < 0xe0 := by omega
  rw [next?, if_neg hone, if_neg (by simp [htwo]), if_pos (by simpa using ha)]
  refine Option.bind_eq_some_iff.2 ⟨middle, hmiddle, ?_⟩
  refine Option.bind_eq_some_iff.2 ⟨low, hlow, ?_⟩
  exact Option.bind_eq_some_iff.2 ⟨c, hc, rfl⟩

theorem next?_of_four (ha : 0xf0 ≤ a.toNat ∧ a.toNat < 0xf8)
    (hhigh : continuation? b₁ = some high) (hmiddle : continuation? b₂ = some middle)
    (hlow : continuation? b₃ = some low)
    (hc : scalar? 0x10000
      ((a.toNat - 0xf0) * 0x40000 + high * 0x1000 + middle * 0x40 + low) = some c) :
    next? (a :: b₁ :: b₂ :: b₃ :: rest) = some (c, rest) := by
  have hone : ¬ a.toNat < 0x80 := by omega
  have htwo : ¬ a.toNat < 0xe0 := by omega
  have hthree : ¬ a.toNat < 0xf0 := by omega
  rw [next?, if_neg hone, if_neg (by simp [htwo]), if_neg (by simp [hthree]),
    if_pos (by simpa using ha)]
  refine Option.bind_eq_some_iff.2 ⟨high, hhigh, ?_⟩
  refine Option.bind_eq_some_iff.2 ⟨middle, hmiddle, ?_⟩
  refine Option.bind_eq_some_iff.2 ⟨low, hlow, ?_⟩
  exact Option.bind_eq_some_iff.2 ⟨c, hc, rfl⟩

end Lead

theorem next?_encodeChar (c : Char) (rest : Bytes) :
    next? (encodeChar c ++ rest) = some (c, rest) := by
  have hmax : c.toNat < 0x110000 := by
    have hvalid : c.toNat.isValidChar := c.valid
    rcases hvalid with h | ⟨-, h⟩ <;> omega
  have hscalar : ∀ {least n : Nat}, least ≤ c.toNat → n = c.toNat → scalar? least n = some c :=
    fun hleast hn => hn ▸ scalar?_toNat hleast
  unfold encodeChar
  dsimp only
  split
  · rename_i hone
    have hlead : (byte c.toNat).toNat = c.toNat := toNat_byte (by omega)
    simp [next?, hlead, hone, Char.ofNat_toNat]
  split
  · have hlead : (byte (0xc0 + c.toNat / 0x40)).toNat = 0xc0 + c.toNat / 0x40 :=
      toNat_byte (by omega)
    refine next?_of_two rest (by omega) (continuation?_byte (by omega)) (hscalar ?_ ?_) <;> omega
  split
  · have hlead : (byte (0xe0 + c.toNat / 0x1000)).toNat = 0xe0 + c.toNat / 0x1000 :=
      toNat_byte (by omega)
    refine next?_of_three rest (by omega) (continuation?_byte (by omega))
      (continuation?_byte (by omega)) (hscalar ?_ ?_) <;> omega
  · have hlead : (byte (0xf0 + c.toNat / 0x40000)).toNat = 0xf0 + c.toNat / 0x40000 :=
      toNat_byte (by omega)
    refine next?_of_four rest (by omega) (continuation?_byte (by omega))
      (continuation?_byte (by omega)) (continuation?_byte (by omega)) (hscalar ?_ ?_) <;> omega

theorem decodeFuel_encode {fuel : Nat} {text : List Char} (h : text.length ≤ fuel) :
    decodeFuel fuel (encode text) = some text := by
  induction text generalizing fuel with
  | nil => cases fuel <;> rfl
  | cons c text ih =>
      obtain ⟨fuel, rfl⟩ : ∃ n, fuel = n + 1 := ⟨fuel - 1, by simp at h; omega⟩
      obtain ⟨first, others, hbytes⟩ := List.exists_cons_of_ne_nil (encodeChar_ne_nil c)
      have hnext := next?_encodeChar c (encode text)
      rw [encode_cons]
      rw [hbytes, List.cons_append] at hnext ⊢
      have hrest : decodeFuel fuel (encode text) = some text := ih (by simpa using h)
      simp only [decodeFuel, hnext, hrest, Option.map_some]

theorem length_le_length_encode (text : List Char) : text.length ≤ (encode text).length := by
  induction text with
  | nil => simp
  | cons c text ih =>
      have hpos := List.length_pos_iff.2 (encodeChar_ne_nil c)
      rw [encode_cons, List.length_append, List.length_cons]
      omega

theorem decode?_encode (text : List Char) : decode? (encode text) = some text :=
  decodeFuel_encode (length_le_length_encode text)

theorem dropMark_eq (bytes : Bytes) :
    bytes = if (dropMark bytes).1 then mark ++ (dropMark bytes).2 else (dropMark bytes).2 := by
  unfold dropMark
  split
  · rename_i h
    obtain ⟨rest, rfl⟩ := List.isPrefixOf_iff_prefix.1 h
    simp
  · rfl

end Utf8

/-! ## Windows-1252 -/

namespace Windows1252

theorem length_upperTable : upperTable.length = 0x20 := rfl

theorem decodeByte_of_encodeChar? {c : Char} {b : UInt8} (h : encodeChar? c = some b) :
    decodeByte b = c := by
  unfold encodeChar? at h
  dsimp only at h
  split at h
  · rename_i hplain
    simp only [Option.some.injEq] at h
    have hb : b.toNat = c.toNat := by
      rw [← h, UInt8.toNat_ofNat']
      exact Nat.mod_eq_of_lt (by omega)
    rw [decodeByte, if_neg (by omega), hb, Char.ofNat_toNat]
  split at h
  · simp at h
  · obtain ⟨i, hi, rfl⟩ := Option.map_eq_some_iff.1 h
    obtain ⟨hlt, hcode, -⟩ := List.findIdx?_eq_some_iff_getElem.1 hi
    rw [length_upperTable] at hlt
    have hb : (UInt8.ofNat (0x80 + i)).toNat = 0x80 + i := by
      rw [UInt8.toNat_ofNat']
      exact Nat.mod_eq_of_lt (by omega)
    have hget : upperTable.getD i 0xfffd = c.toNat := by
      rw [List.getD_eq_getElem?_getD, List.getElem?_eq_getElem (by simpa [length_upperTable])]
      simpa using hcode
    rw [decodeByte, if_pos (by omega), hb, Nat.add_sub_cancel_left, hget, Char.ofNat_toNat]

theorem decode_encode {text : List Char} (h : ∀ c ∈ text, (encodeChar? c).isSome) :
    decode (encode text) = text := by
  induction text with
  | nil => rfl
  | cons c text ih =>
      obtain ⟨hc, htext⟩ := List.forall_mem_cons.1 h
      obtain ⟨b, hb⟩ := Option.isSome_iff_exists.1 hc
      have hrest := ih htext
      simp only [decode, encode, List.map_cons, List.map_map, hb, Option.getD_some,
        decodeByte_of_encodeChar? hb] at hrest ⊢
      rw [hrest]

end Windows1252

end SetupForge
