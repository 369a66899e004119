/-! # Punycode

Text in ASCII letters, digits and hyphens: the ASCII characters come first, and the others
follow as the steps between them, in order of their code points. A step is a number in base 36
whose digits have moving thresholds, so that its last digit can be told.
-/

namespace SetupForge.Punycode

def base : Nat := 36

def maxThreshold : Nat := 26

def startBias : Nat := 72

def firstCode : Nat := 0x80

/-- The character of a digit: letters come before decimal digits. -/
def digitChar (digit : Nat) : Char :=
  if digit < 26 then Char.ofNat ('a'.toNat + digit) else Char.ofNat ('0'.toNat + digit - 26)

/-- The threshold of the digit at a place; a digit below it is the last. -/
def threshold (place bias : Nat) : Nat :=
  if place ≤ bias then 1 else min maxThreshold (place - bias)

theorem threshold_pos (place bias : Nat) : 0 < threshold place bias := by
  unfold threshold maxThreshold
  split <;> omega

def digitsFrom (bias place number : Nat) : List Char :=
  let limit := threshold place bias
  if number < limit then [digitChar number]
  else
    digitChar (limit + (number - limit) % (base - limit)) ::
      digitsFrom bias (place + base) ((number - limit) / (base - limit))
termination_by number
decreasing_by
  have := threshold_pos place bias
  have := Nat.div_le_self (number - threshold place bias) (base - threshold place bias)
  omega

def digits (bias number : Nat) : List Char := digitsFrom bias base number

/-- How often a step can be divided before it is small, and what is left of it. -/
def shrink (step : Nat) : Nat × Nat :=
  if step ≤ 455 then (0, step)
  else
    let (count, rest) := shrink (step / 35)
    (count + 1, rest)
termination_by step

/-- The bias after a step, which fits steps of like size. -/
def biasAfter (step written : Nat) (isFirst : Bool) : Nat :=
  let step := if isFirst then step / 700 else step / 2
  let (count, rest) := shrink (step + step / written)
  base * count + base * rest / (rest + 38)

structure Writing where
  /-- What is written so far, the latest character first. -/
  reversed : List Char := []
  bias : Nat := startBias
  /-- How far the next character is from the last one written. -/
  step : Nat := 0
  written : Nat
  isFirst : Bool := true

/-- Passes a character of the text while those of one code point are written. -/
def Writing.pass (code : Nat) (writing : Writing) (c : Char) : Writing :=
  if c.toNat < code then { writing with step := writing.step + 1 }
  else if c.toNat = code then
    { reversed := (digits writing.bias writing.step).reverse ++ writing.reversed
      bias := biasAfter writing.step (writing.written + 1) writing.isFirst
      step := 0
      written := writing.written + 1
      isFirst := false }
  else writing

/-- Writes the characters of a text with the given code points, which come in order. The code
points from `next` on are still to be written. -/
def writeCodes (text : List Char) : (codes : List Nat) → (next : Nat) → Writing → Writing
  | [], _, writing => writing
  | code :: codes, next, writing =>
      let step := writing.step + (code - next) * (writing.written + 1)
      let after := text.foldl (Writing.pass code) { writing with step }
      writeCodes text codes (code + 1) { after with step := after.step + 1 }

def encode (text : List Char) : List Char :=
  let plain := text.filter fun c => c.toNat < firstCode
  let codes := ((text.map Char.toNat).filter (firstCode ≤ ·)).mergeSort.eraseReps
  let writing := writeCodes text codes firstCode { written := plain.length }
  (if plain.isEmpty then [] else plain ++ ['-']) ++ writing.reversed.reverse

end SetupForge.Punycode
