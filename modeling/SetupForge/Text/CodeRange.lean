/-! # Ranges of code points -/

namespace SetupForge.Text

abbrev CodeRange := Nat × Nat

def CodeRange.holds (range : CodeRange) (code : Nat) : Bool :=
  range.1 ≤ code && code ≤ range.2

def inRanges (ranges : List CodeRange) (code : Nat) : Bool :=
  ranges.any (·.holds code)

end SetupForge.Text
