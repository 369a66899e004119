import SetupForge.Text.Utf8

/-! # Windows-1252

The one-byte encoding of scripts that are not UTF-8. Five bytes stand for nothing and
read as the replacement character; characters without a byte are written as `?`.
-/

namespace SetupForge.Windows1252

/-- The code points of the bytes `0x80` to `0x9f`; `0xfffd` marks the five undefined ones. -/
def upperTable : List Nat := [
  0x20ac, 0xfffd, 0x201a, 0x0192, 0x201e, 0x2026, 0x2020, 0x2021,
  0x02c6, 0x2030, 0x0160, 0x2039, 0x0152, 0xfffd, 0x017d, 0xfffd,
  0xfffd, 0x2018, 0x2019, 0x201c, 0x201d, 0x2022, 0x2013, 0x2014,
  0x02dc, 0x2122, 0x0161, 0x203a, 0x0153, 0xfffd, 0x017e, 0x0178]

def decodeByte (b : UInt8) : Char :=
  if 0x80 ≤ b.toNat ∧ b.toNat < 0xa0 then Char.ofNat (upperTable.getD (b.toNat - 0x80) 0xfffd)
  else Char.ofNat b.toNat

def encodeChar? (c : Char) : Option UInt8 :=
  let n := c.toNat
  if n < 0x80 ∨ (0xa0 ≤ n ∧ n < 0x100) then some (UInt8.ofNat n)
  else if n = 0xfffd then none
  else (upperTable.findIdx? (· == n)).map fun i => UInt8.ofNat (0x80 + i)

def decode (bytes : Bytes) : List Char := bytes.map decodeByte

/-- The bytes of a text, with `?` for every character that has none. -/
def encode (text : List Char) : Bytes :=
  text.map fun c => (encodeChar? c).getD (UInt8.ofNat '?'.toNat)

end SetupForge.Windows1252
