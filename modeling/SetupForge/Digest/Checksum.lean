import SetupForge.Text.Utf8

/-! # Checksums of some bytes

Two short checks that compressed data carries: the remainder of a division of bit polynomials,
and a pair of sums.
-/

namespace SetupForge.Checksum

/-- The divisor of the remainder, its lowest bit first. -/
def divisor : UInt32 := 0xedb88320

def remainderStep (remainder : UInt32) : UInt32 :=
  if remainder &&& 1 = 1 then (remainder >>> 1) ^^^ divisor else remainder >>> 1

def addByte (remainder : UInt32) (byte : UInt8) : UInt32 :=
  (List.range 8).foldl (fun remainder _ => remainderStep remainder) (remainder ^^^ byte.toUInt32)

def cyclic (bytes : Bytes) : UInt32 := ~~~(bytes.foldl addByte 0xffffffff)

def sumModulus : Nat := 65521

/-- The sum of the bytes and one, and the sum of these sums after each byte. -/
def sums (bytes : Bytes) : Nat × Nat :=
  bytes.foldl (fun (sum, total) byte =>
    let sum := (sum + byte.toNat) % sumModulus
    (sum, (total + sum) % sumModulus)) (1, 0)

def summed (bytes : Bytes) : Nat :=
  let (sum, total) := sums bytes
  total * 0x10000 + sum

example : cyclic ("123456789".toList.map fun c => UInt8.ofNat c.toNat) = 0xcbf43926 := by
  decide +kernel

end SetupForge.Checksum
