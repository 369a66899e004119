/-! # UTF-8

Bytes of a text and back. Decoding refuses overlong forms, surrogates, code points
beyond the last plane and sequences that break off.
-/

namespace SetupForge

abbrev Bytes := List UInt8

namespace Utf8

def byte (n : Nat) : UInt8 := UInt8.ofNat n

def encodeChar (c : Char) : Bytes :=
  let n := c.toNat
  if n < 0x80 then [byte n]
  else if n < 0x800 then [byte (0xc0 + n / 0x40), byte (0x80 + n % 0x40)]
  else if n < 0x10000 then
    [byte (0xe0 + n / 0x1000), byte (0x80 + n / 0x40 % 0x40), byte (0x80 + n % 0x40)]
  else
    [byte (0xf0 + n / 0x40000), byte (0x80 + n / 0x1000 % 0x40),
      byte (0x80 + n / 0x40 % 0x40), byte (0x80 + n % 0x40)]

def encode (text : List Char) : Bytes := text.flatMap encodeChar

def continuation? (b : UInt8) : Option Nat :=
  if 0x80 ≤ b.toNat && b.toNat < 0xc0 then some (b.toNat - 0x80) else none

/-- The character of a code point, if it has one and is not below the least code point that
needs so many bytes. -/
def scalar? (least code : Nat) : Option Char :=
  if least ≤ code ∧ code.isValidChar then some (Char.ofNat code) else none

def next? : Bytes → Option (Char × Bytes)
  | [] => none
  | a :: rest =>
      let lead := a.toNat
      if lead < 0x80 then some (Char.ofNat lead, rest)
      else if 0xc0 ≤ lead && lead < 0xe0 then
        match rest with
        | b :: rest => do
            let low ← continuation? b
            let c ← scalar? 0x80 ((lead - 0xc0) * 0x40 + low)
            some (c, rest)
        | _ => none
      else if 0xe0 ≤ lead && lead < 0xf0 then
        match rest with
        | b :: c :: rest => do
            let high ← continuation? b
            let low ← continuation? c
            let c ← scalar? 0x800 ((lead - 0xe0) * 0x1000 + high * 0x40 + low)
            some (c, rest)
        | _ => none
      else if 0xf0 ≤ lead && lead < 0xf8 then
        match rest with
        | b :: c :: d :: rest => do
            let high ← continuation? b
            let middle ← continuation? c
            let low ← continuation? d
            let c ← scalar? 0x10000
              ((lead - 0xf0) * 0x40000 + high * 0x1000 + middle * 0x40 + low)
            some (c, rest)
        | _ => none
      else none

def decodeFuel : Nat → Bytes → Option (List Char)
  | _, [] => some []
  | 0, _ :: _ => none
  | fuel + 1, bytes =>
      match next? bytes with
      | none => none
      | some (c, rest) => (decodeFuel fuel rest).map (c :: ·)

/-- The text of some bytes, or nothing when they are not UTF-8. A character takes at least one
byte, so the number of bytes bounds the number of characters. -/
def decode? (bytes : Bytes) : Option (List Char) := decodeFuel bytes.length bytes

def replacement : Char := '\ufffd'

def decodeAnyFuel : Nat → Bytes → List Char
  | 0, _ => []
  | _, [] => []
  | fuel + 1, byte :: bytes =>
      match next? (byte :: bytes) with
      | some (c, rest) => c :: decodeAnyFuel fuel rest
      | none => replacement :: decodeAnyFuel fuel bytes

/-- The text of some bytes, with a replacement for every byte that belongs to no character. -/
def decodeAny (bytes : Bytes) : List Char := decodeAnyFuel bytes.length bytes

/-- The mark that some writers put before UTF-8 text. -/
def mark : Bytes := [0xef, 0xbb, 0xbf]

/-- The bytes after a leading mark, and whether there was one. -/
def dropMark (bytes : Bytes) : Bool × Bytes :=
  if mark.isPrefixOf bytes then (true, bytes.drop mark.length) else (false, bytes)

/-- The text of UTF-8 bytes after an optional mark. -/
def decodeMarked? (bytes : Bytes) : Option (List Char) := decode? (dropMark bytes).2

@[simp] theorem encode_nil : encode [] = [] := rfl

@[simp] theorem encode_cons (c : Char) (text : List Char) :
    encode (c :: text) = encodeChar c ++ encode text := rfl

theorem encodeChar_ne_nil (c : Char) : encodeChar c ≠ [] := by
  unfold encodeChar
  dsimp only
  repeat' split
  all_goals simp

end Utf8

end SetupForge
