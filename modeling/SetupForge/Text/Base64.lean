import SetupForge.Text.Utf8

/-! # Base 64

Four characters write three bytes. Characters outside the alphabet are passed over, and the
text ends where enough padding completes a group of four.
-/

namespace SetupForge.Base64

def value? (c : Char) : Option Nat :=
  if 'A' ≤ c ∧ c ≤ 'Z' then some (c.toNat - 'A'.toNat)
  else if 'a' ≤ c ∧ c ≤ 'z' then some (c.toNat - 'a'.toNat + 26)
  else if '0' ≤ c ∧ c ≤ '9' then some (c.toNat - '0'.toNat + 52)
  else if c = '+' then some 62
  else if c = '/' then some 63
  else none

def padding : Char := '='

/-- The bytes that a text writes from inside a group: `place` counts the characters of the group
so far, `pending` holds the bits that no byte has yet, and `padded` counts the padding since. A
group that is not complete at the end is refused. -/
def decodeFrom (place pending padded : Nat) : List Char → Option Bytes
  | [] => if place = 0 then some [] else none
  | c :: text =>
      if c = padding then
        if place < 2 then decodeFrom place pending padded text
        else if 4 ≤ place + padded + 1 then some []
        else decodeFrom place pending (padded + 1) text
      else
        match value? c with
        | none => decodeFrom place pending padded text
        | some value =>
            let byte (bits : Nat) : UInt8 := UInt8.ofNat bits
            match place with
            | 0 => decodeFrom 1 value 0 text
            | 1 => (decodeFrom 2 (value % 16) 0 text).map (byte (pending * 4 + value / 16) :: ·)
            | 2 => (decodeFrom 3 (value % 4) 0 text).map (byte (pending * 16 + value / 4) :: ·)
            | _ => (decodeFrom 0 0 0 text).map (byte (pending * 64 + value) :: ·)

def decode? (text : List Char) : Option Bytes := decodeFrom 0 0 0 text

example : decode? "aGk=".toList = some [104, 105] := by decide +kernel
example : decode? "a".toList = none := by decide +kernel

end SetupForge.Base64
