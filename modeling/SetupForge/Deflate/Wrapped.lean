import SetupForge.Deflate.Inflate
import SetupForge.Digest.Checksum

/-! # Wrapped compressed data

Compressed data stands between a header and a check, of which there are two kinds, or alone.
Data that breaks off gives what can be read of it.
-/

namespace SetupForge.Deflate

open Reader

/-! ## Members of a file -/

def memberMark : Nat := 0x8b1f

def knownMethod : Nat := 8

def skipTextFuel : (fuel : Nat) → Reader Unit
  | 0 => throw .starved
  | fuel + 1 => do
      if (← take 8) = 0 then pure () else skipTextFuel fuel

/-- Passes over a text and the zero byte that ends it. -/
def skipText : Reader Unit := do
  skipTextFuel ((← get).bits.length + 1)

def bytesOfBits (bits : List Bool) : Bytes :=
  (List.range (bits.length / 8)).map fun i => UInt8.ofNat (numberOf ((bits.drop (8 * i)).take 8))

def memberHeader : Reader Unit := do
  let start := (← get).bits
  require ((← take 16) = memberMark) .header
  let kind ← take 16
  require (kind % 256 = knownMethod) .method
  require (kind / 0x2000 = 0) .flags
  let _ ← take 48
  if kind.testBit 10 then
    let length ← take 16
    let _ ← take (8 * length)
  if kind.testBit 11 then skipText
  if kind.testBit 12 then skipText
  if kind.testBit 9 then
    let header := bytesOfBits (start.take (start.length - (← get).bits.length))
    require ((← take 16) = (Checksum.cyclic header).toNat % 0x10000) .headerCheck

/-- Reads a member: its header, its blocks, and the check and length of what they write. -/
def member : Reader Unit := do
  memberHeader
  blocks
  align
  let output := (← get).output
  require ((← take 32) = (Checksum.cyclic output.toList).toNat) .dataCheck
  require ((← take 32) = output.size % 0x100000000) .lengthCheck

/-- What members write, one after another. What follows a member and is none does not count, but
the first has to be one. -/
def membersFuel (isFirst : Bool) : (fuel : Nat) → List Bool → Except Fault Bytes
  | 0, _ => .ok []
  | fuel + 1, bits =>
      match (member.run).run { bits } with
      | (.error (.fault fault), _) => if isFirst then .error fault else .ok []
      | (.error .starved, state) => .ok state.output.toList
      | (.ok (), state) => do
          let rest ← membersFuel false fuel state.bits
          pure (state.output.toList ++ rest)

def members (bytes : Bytes) : Except Fault Bytes :=
  membersFuel true (bytes.length + 1) (bitsOfBytes bytes)

/-! ## Streams -/

def reversedWord (word : Nat) : Nat :=
  (List.range 4).foldl (fun number i => number * 256 + (word >>> (8 * i)) % 256) 0

/-- Reads a stream: its header, its blocks and the check of what they write. -/
def stream : Reader Unit := do
  let head ← take 16
  require ((head % 256 * 256 + head / 256) % 31 = 0) .header
  require (head % 16 = knownMethod) .method
  require (head / 16 % 16 ≤ 7) .window
  if head.testBit 13 then
    let _ ← take 32
    fail .dictionary
  blocks
  align
  let output := (← get).output
  require (reversedWord (← take 32) = Checksum.summed output.toList) .dataCheck

def outputOf (reader : Reader Unit) (bytes : Bytes) : Except Fault Bytes :=
  match (reader.run).run { bits := bitsOfBytes bytes } with
  | (.error (.fault fault), _) => .error fault
  | (_, state) => .ok state.output.toList

/-- What a stream in some bytes writes. Bytes that hold none are blocks without a header. -/
def streamOrBlocks (bytes : Bytes) : Except Fault Bytes :=
  match outputOf stream bytes with
  | .ok output => .ok output
  | .error _ => outputOf blocks bytes

end SetupForge.Deflate
