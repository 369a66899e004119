import SetupForge.Deflate.Reader

/-! # Prefix codes

A code gives each symbol some bits, and no symbol's bits start another's. It is told by the
number of bits of each symbol: symbols of fewer bits come first, those of as many in order, and
each gets the next free combination.
-/

namespace SetupForge.Deflate

/-- A code: for each number of bits from one on, the symbols that have so many. -/
structure Code where
  levels : List (Array Nat)

namespace Code

def level (lengths : List Nat) (bits : Nat) : Array Nat :=
  ((lengths.zipIdx.filter fun entry => entry.1 == bits).map (·.2)).toArray

/-- The code in which symbols have given numbers of bits; zero stands for symbols that do not
occur. There is a level of one bit even if no symbol occurs. -/
def ofLengths (lengths : List Nat) : Code :=
  ⟨(List.range (max 1 (lengths.foldl max 0))).map fun i => level lengths (i + 1)⟩

/-- How many combinations of the bits of the last level are free; nothing if there are too many
symbols. -/
def free? (code : Code) : Option Nat :=
  code.levels.foldlM (fun free level =>
    if level.size ≤ 2 * free then some (2 * free - level.size) else none) 1

def isEmpty (code : Code) : Bool := code.levels.all Array.isEmpty

def isComplete (code : Code) : Bool := code.free? == some 0

/-- Whether a code can stand for the symbols of a text: it is complete, or one bit is enough. -/
def isUsable (code : Code) : Bool :=
  code.isComplete || code.isEmpty || (code.free?.isSome && code.levels.length == 1)

/-- Takes the bits of a symbol; `first` is the number of the first combination of a level and
`number` that of the bits taken so far. Nothing is found if the bits lead to no symbol. -/
def find? : List (Array Nat) → (first number : Nat) → List Bool → Option (Option Nat × List Bool)
  | [], _, _, bits => some (none, bits)
  | _ :: _, _, _, [] => none
  | level :: levels, first, number, bit :: bits =>
      let number := 2 * number + bit.toNat
      let first := 2 * first
      match level[number - first]? with
      | some symbol => some (some symbol, bits)
      | none => find? levels (first + level.size) number bits

def takeSymbol? (code : Code) : Reader (Option Nat) := do
  let state ← get
  match find? code.levels 0 0 state.bits with
  | some (symbol?, bits) => do
      set { state with bits }
      pure symbol?
  | none => throw .starved

end Code

end SetupForge.Deflate
