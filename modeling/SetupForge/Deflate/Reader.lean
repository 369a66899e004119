import SetupForge.Text.Utf8

/-! # Reading compressed bits

The bits of a byte come with the lowest first, and so do those of a number. A reader takes bits
and writes bytes; it stops at a fault of the data or where the bits run out. What it has written
by then is kept.
-/

namespace SetupForge.Deflate

inductive Fault where
  | header
  | method
  | window
  /-- The data refers to text that is not part of it. -/
  | dictionary
  | flags
  | headerCheck
  | blockKind
  | storedLength
  | codeCounts
  | lengthCode
  | lengthRepeat
  | endMissing
  | literalCode
  | distanceCode
  | unknownLiteral
  | unknownDistance
  | tooFarBack
  | dataCheck
  | lengthCheck
deriving DecidableEq, Repr

def Fault.name? : Fault → Option String
  | .header => some "incorrect header check"
  | .method => some "unknown compression method"
  | .window => some "invalid window size"
  | .dictionary => none
  | .flags => some "unknown header flags set"
  | .headerCheck => some "header crc mismatch"
  | .blockKind => some "invalid block type"
  | .storedLength => some "invalid stored block lengths"
  | .codeCounts => some "too many length or distance symbols"
  | .lengthCode => some "invalid code lengths set"
  | .lengthRepeat => some "invalid bit length repeat"
  | .endMissing => some "invalid code -- missing end-of-block"
  | .literalCode => some "invalid literal/lengths set"
  | .distanceCode => some "invalid distances set"
  | .unknownLiteral => some "invalid literal/length code"
  | .unknownDistance => some "invalid distance code"
  | .tooFarBack => some "invalid distance too far back"
  | .dataCheck => some "incorrect data check"
  | .lengthCheck => some "incorrect length check"

def Fault.message (fault : Fault) : String :=
  match fault.name? with
  | some name => s!"Error -3 while decompressing data: {name}"
  | none => "Error 2 while decompressing data"

inductive Stop where
  | starved
  | fault (fault : Fault)
deriving DecidableEq, Repr

structure State where
  bits : List Bool
  output : Array UInt8 := #[]

abbrev Reader := ExceptT Stop (StateM State)

/-- The bits of a number, the lowest first. -/
def bitsOf (width number : Nat) : List Bool := (List.range width).map number.testBit

def numberOf (bits : List Bool) : Nat :=
  bits.foldr (fun bit number => 2 * number + bit.toNat) 0

def bitsOfBytes (bytes : Bytes) : List Bool := bytes.flatMap fun byte => bitsOf 8 byte.toNat

def cutBits? : (count : Nat) → List Bool → Option (List Bool × List Bool)
  | 0, bits => some ([], bits)
  | _ + 1, [] => none
  | count + 1, bit :: bits => (cutBits? count bits).map fun (taken, rest) => (bit :: taken, rest)

namespace Reader

def fail (fault : Fault) : Reader α := throw (.fault fault)

def require (condition : Bool) (fault : Fault) : Reader Unit :=
  if condition then pure () else fail fault

def take (count : Nat) : Reader Nat := do
  let state ← get
  match cutBits? count state.bits with
  | some (taken, bits) => do
      set { state with bits }
      pure (numberOf taken)
  | none => throw .starved

def align : Reader Unit :=
  modify fun state => { state with bits := state.bits.drop (state.bits.length % 8) }

def write (byte : UInt8) : Reader Unit :=
  modify fun state => { state with output := state.output.push byte }

/-- Writes some bytes again, one by one, of which each stands some way before the end. -/
def repeatFrom (distance : Nat) : (count : Nat) → Reader Unit
  | 0 => pure ()
  | count + 1 => do
      let output := (← get).output
      write (output.getD (output.size - distance) 0)
      repeatFrom distance count

end Reader

end SetupForge.Deflate
