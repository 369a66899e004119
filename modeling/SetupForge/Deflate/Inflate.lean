import SetupForge.Deflate.Code

/-! # Blocks of compressed data

Data comes in blocks: bytes as they are, or symbols of two codes. A symbol is a byte, the end of
the block, or the length of bytes to be written again, which a distance follows. The codes are
fixed or stand at the start of the block, where their numbers of bits are told by a third code.
-/

namespace SetupForge.Deflate

open Reader

def endSymbol : Nat := 256

/-- The lengths of the symbols after the end symbol: the least, and how many bits add to it. -/
def lengthSteps : List (Nat × Nat) := [
  (3, 0), (4, 0), (5, 0), (6, 0), (7, 0), (8, 0), (9, 0), (10, 0), (11, 1), (13, 1), (15, 1),
  (17, 1), (19, 2), (23, 2), (27, 2), (31, 2), (35, 3), (43, 3), (51, 3), (59, 3), (67, 4),
  (83, 4), (99, 4), (115, 4), (131, 5), (163, 5), (195, 5), (227, 5), (258, 0)]

/-- The distances of the symbols of their code: the least, and how many bits add to it. -/
def distanceSteps : List (Nat × Nat) := [
  (1, 0), (2, 0), (3, 0), (4, 0), (5, 1), (7, 1), (9, 2), (13, 2), (17, 3), (25, 3), (33, 4),
  (49, 4), (65, 5), (97, 5), (129, 6), (193, 6), (257, 7), (385, 7), (513, 8), (769, 8),
  (1025, 9), (1537, 9), (2049, 10), (3073, 10), (4097, 11), (6145, 11), (8193, 12), (12289, 12),
  (16385, 13), (24577, 13)]

example : lengthSteps.length = 29 := rfl
example : distanceSteps.length = 30 := rfl

structure BlockCodes where
  literals : Code
  distances : Code

def fixedCodes : BlockCodes :=
  { literals := .ofLengths
      (List.replicate 144 8 ++ List.replicate 112 9 ++ List.replicate 24 7 ++ List.replicate 8 8)
    distances := .ofLengths (List.replicate 32 5) }

/-- Writes the bytes again that a length and a distance stand for. -/
def copyBack (codes : BlockCodes) (length : Nat) : Reader Unit := do
  match distanceSteps[(← codes.distances.takeSymbol?).getD distanceSteps.length]? with
  | none => fail .unknownDistance
  | some (least, extra) => do
      let distance := least + (← take extra)
      require (distance ≤ (← get).output.size) .tooFarBack
      repeatFrom distance length

/-- Reads the symbols of a block to its end. Each takes a bit at least, so `fuel` need not exceed
the number of bits. -/
def symbolsFuel (codes : BlockCodes) : (fuel : Nat) → Reader Unit
  | 0 => throw .starved
  | fuel + 1 => do
      match ← codes.literals.takeSymbol? with
      | none => fail .unknownLiteral
      | some symbol =>
          if symbol < endSymbol then do
            write (UInt8.ofNat symbol)
            symbolsFuel codes fuel
          else if symbol = endSymbol then pure ()
          else
            match lengthSteps[symbol - endSymbol - 1]? with
            | none => fail .unknownLiteral
            | some (least, extra) => do
                copyBack codes (least + (← take extra))
                symbolsFuel codes fuel

def symbols (codes : BlockCodes) : Reader Unit := do
  symbolsFuel codes ((← get).bits.length + 1)

def copyBytes : (count : Nat) → Reader Unit
  | 0 => pure ()
  | count + 1 => do
      write (UInt8.ofNat (← take 8))
      copyBytes count

def storedBlock : Reader Unit := do
  align
  let lengths ← take 32
  let length := lengths % 0x10000
  require (length + lengths / 0x10000 = 0xffff) .storedLength
  copyBytes length

/-- The order in which the third code is told. -/
def lengthOrder : List Nat := [16, 17, 18, 0, 8, 7, 9, 6, 10, 5, 11, 4, 12, 3, 13, 2, 14, 1, 15]

def takeMany (width : Nat) : (count : Nat) → Reader (List Nat)
  | 0 => pure []
  | count + 1 => do
      let first ← take width
      return first :: (← takeMany width count)

def lengthCodeOf (lengths : List Nat) : Code :=
  let entries := lengthOrder.zip lengths
  .ofLengths ((List.range lengthOrder.length).map fun symbol => (entries.lookup symbol).getD 0)

/-- Reads numbers of bits until there are as many as needed, the latest first. Each symbol of the
third code is a number, or repeats the last number or zero. A code without symbols reads as
zeros. -/
def lengthsFuel (code : Code) (needed : Nat) : (fuel : Nat) → List Nat → Reader (List Nat)
  | 0, lengths => pure lengths
  | fuel + 1, lengths =>
      if needed ≤ lengths.length then pure lengths
      else do
        let repeated (value? : Option Nat) (least extra : Nat) : Reader (List Nat) := do
          let count := least + (← take extra)
          match value? with
          | none => fail .lengthRepeat
          | some value => do
              require (lengths.length + count ≤ needed) .lengthRepeat
              lengthsFuel code needed fuel (List.replicate count value ++ lengths)
        match (← code.takeSymbol?).getD 0 with
        | 16 => repeated lengths.head? 3 2
        | 17 => repeated (some 0) 3 3
        | 18 => repeated (some 0) 11 7
        | length => lengthsFuel code needed fuel (length :: lengths)

def blockCodes : Reader BlockCodes := do
  let counts ← take 14
  let literals := counts % 32 + 257
  let distances := counts / 32 % 32 + 1
  require (literals ≤ 286 && distances ≤ 30) .codeCounts
  let code := lengthCodeOf (← takeMany 3 (counts / 1024 + 4))
  require (code.isComplete || code.isEmpty) .lengthCode
  let needed := literals + distances
  let lengths := (← lengthsFuel code needed needed []).reverse
  require (lengths.getD endSymbol 0 != 0) .endMissing
  let literalCode := Code.ofLengths (lengths.take literals)
  require literalCode.isUsable .literalCode
  let distanceCode := Code.ofLengths (lengths.drop literals)
  require distanceCode.isUsable .distanceCode
  return { literals := literalCode, distances := distanceCode }

def block : Reader Bool := do
  let head ← take 3
  match head / 2 with
  | 0 => storedBlock
  | 1 => symbols fixedCodes
  | 2 => symbols (← blockCodes)
  | _ => fail .blockKind
  return head % 2 = 1

/-- Reads blocks up to the last. Each takes a bit at least, so `fuel` need not exceed the number of
bits. -/
def blocksFuel : (fuel : Nat) → Reader Unit
  | 0 => throw .starved
  | fuel + 1 => do
      if ← block then pure () else blocksFuel fuel

def blocks : Reader Unit := do
  blocksFuel ((← get).bits.length + 1)

end SetupForge.Deflate
