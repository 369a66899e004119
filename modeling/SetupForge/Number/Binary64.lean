/-! # Binary floating-point numbers

The 64-bit numbers as exact values: a significand times a power of two. Rounding goes to
the nearest number and a tie to the even significand; the text of a number has the fewest
digits that read back as it.
-/

namespace SetupForge

/-- A 64-bit floating-point number. A finite one is its significand times two to the exponent. -/
inductive Binary64 where
  | notNumber
  | infinite (negative : Bool)
  | finite (negative : Bool) (significand : Nat) (exponent : Int)
deriving DecidableEq, Repr

namespace Binary64

def leastExponent : Int := -1074

def greatestExponent : Int := 971

def zero (negative : Bool) : Binary64 := .finite negative 0 leastExponent

/-- The quotient nearest to a ratio; of two equally near ones the even. -/
def roundDiv (num den : Nat) : Nat :=
  let quotient := num / den
  let twice := 2 * (num % den)
  if twice < den ∨ (twice = den ∧ quotient % 2 = 0) then quotient else quotient + 1

def scaleDown (num den : Nat) (exponent : Int) : Nat × Nat :=
  if exponent < 0 then (num * Nat.pow 2 (-exponent).toNat, den)
  else (num, den * Nat.pow 2 exponent.toNat)

/-- The exponent at which a ratio's significand has 53 bits, or the least one. -/
def exponentOf (num den : Nat) : Int :=
  let guess : Int := Nat.log2 num - Nat.log2 den - 52
  let (n, d) := scaleDown num den guess
  max leastExponent (if n / d < Nat.pow 2 52 then guess - 1 else guess)

def ofRatio (negative : Bool) (num den : Nat) : Binary64 :=
  if num = 0 ∨ den = 0 then zero negative
  else
    let exponent := exponentOf num den
    let (n, d) := scaleDown num den exponent
    let significand := roundDiv n d
    let (significand, exponent) :=
      if significand = Nat.pow 2 53 then (Nat.pow 2 52, exponent + 1) else (significand, exponent)
    if greatestExponent < exponent then .infinite negative
    else .finite negative significand exponent

/-- The number nearest to some digits times a power of ten. Beyond four hundred places the
answer is infinite or zero, whatever the digits are. -/
def ofDecimal (negative : Bool) (digits : Nat) (exponent : Int) : Binary64 :=
  let places : Int := (Nat.toDigits 10 digits).length + exponent
  if digits = 0 ∨ places < -400 then zero negative
  else if 400 < places then .infinite negative
  else if exponent < 0 then ofRatio negative digits (Nat.pow 10 (-exponent).toNat)
  else ofRatio negative (digits * Nat.pow 10 exponent.toNat) 1

def ratio (significand : Nat) (exponent : Int) : Nat × Nat :=
  if exponent < 0 then (significand, Nat.pow 2 (-exponent).toNat)
  else (significand * Nat.pow 2 exponent.toNat, 1)

def signedRatio? : Binary64 → Option (Int × Nat)
  | .finite negative significand exponent =>
      let (num, den) := ratio significand exponent
      some (if negative then -num else num, den)
  | _ => none

/-- The sum of two numbers. Opposite infinities have none. -/
def add (a b : Binary64) : Binary64 :=
  match a, b with
  | .notNumber, _ | _, .notNumber => .notNumber
  | .infinite a, .infinite b => if a = b then .infinite a else .notNumber
  | _, _ =>
      match a.signedRatio?, b.signedRatio? with
      | some (n, d), some (m, e) =>
          let sum := n * e + m * d
          ofRatio (sum < 0) sum.natAbs (d * e)
      | none, _ => a
      | _, none => b

def scale (factor : Nat) (a : Binary64) : Binary64 :=
  match a.signedRatio? with
  | some (n, d) => ofRatio (n < 0) (n.natAbs * factor) d
  | none => a

def negate : Binary64 → Binary64
  | .notNumber => .notNumber
  | .infinite negative => .infinite !negative
  | .finite negative significand exponent => .finite (!negative) significand exponent

def isZero : Binary64 → Bool
  | .finite _ 0 _ => true
  | _ => false

def exactInt? (a : Binary64) : Option Int :=
  match a.signedRatio? with
  | some (n, d) => if n.natAbs % d = 0 then some (n / d) else none
  | none => none

/-- The integer part of a finite number, toward zero. -/
def truncate? (a : Binary64) : Option Int := a.signedRatio?.map fun (n, d) => n.tdiv d

/-- Digits and the power of ten at which the first of them stands. -/
structure Decimal where
  digits : List Char
  exponent : Int
deriving DecidableEq, Repr

def timesPower (num den : Nat) (power : Int) : Nat × Nat :=
  if power < 0 then (num, den * Nat.pow 10 (-power).toNat) else (num * Nat.pow 10 power.toNat, den)

def leadingPower (num den : Nat) : Int :=
  let guess : Int := (Nat.toDigits 10 num).length - (Nat.toDigits 10 den).length
  let (n, d) := timesPower num den (-guess)
  if n < d then guess - 1 else guess

/-- The nearest decimal of so many digits that reads back as the number, if there is one. -/
def decimalOf? (significand : Nat) (exponent : Int) (count : Nat) : Option Decimal :=
  let (num, den) := ratio significand exponent
  let power := leadingPower num den
  let unit : Int := power - (count - 1)
  let (n, d) := timesPower num den (-unit)
  let below := n / d
  let target : Binary64 := .finite false significand exponent
  let readsBack (digits : Nat) : Bool := ofDecimal false digits unit == target
  let nearest := roundDiv n d
  let other := if nearest = below then below + 1 else below
  let found :=
    if readsBack nearest then some nearest
    else if readsBack other then some other
    else none
  found.map fun digits =>
    let text := Nat.toDigits 10 digits
    ⟨text, power + (text.length - count)⟩

def shortestFrom (significand : Nat) (exponent : Int) : (fuel count : Nat) → Decimal
  | 0, count => (decimalOf? significand exponent count).getD ⟨['0'], 0⟩
  | fuel + 1, count =>
      match decimalOf? significand exponent count with
      | some decimal => decimal
      | none => shortestFrom significand exponent fuel (count + 1)

/-- The shortest decimal that reads back; seventeen digits always do. -/
def shortest (significand : Nat) (exponent : Int) : Decimal :=
  let decimal := shortestFrom significand exponent 16 1
  let trimmed := (decimal.digits.reverse.dropWhile (· = '0')).reverse
  ⟨if trimmed.isEmpty then ['0'] else trimmed, decimal.exponent⟩

def positional (exponent : Int) : Bool := -4 ≤ exponent && exponent < 16

/-- The text of an exponent: its sign and at least two digits. -/
def exponentText (exponent : Int) : String :=
  let digits := Nat.toDigits 10 exponent.natAbs
  let padded := if digits.length < 2 then '0' :: digits else digits
  String.ofList ((if exponent < 0 then '-' else '+') :: padded)

/-- The text of a decimal; positional ones have at least one digit after the point. -/
def Decimal.toString (decimal : Decimal) : String :=
  let digits := decimal.digits
  if positional decimal.exponent then
    if decimal.exponent < 0 then
      String.ofList ("0.".toList ++ List.replicate ((-decimal.exponent).toNat - 1) '0' ++ digits)
    else
      let whole := decimal.exponent.toNat + 1
      let padded := digits ++ List.replicate (whole + 1 - digits.length) '0'
      String.ofList (padded.take whole ++ '.' :: padded.drop whole)
  else
    let mantissa :=
      match digits with
      | [] => ['0']
      | [digit] => [digit]
      | digit :: rest => digit :: '.' :: rest
    String.ofList (mantissa ++ 'e' :: (exponentText decimal.exponent).toList)

def toString : Binary64 → String
  | .notNumber => "nan"
  | .infinite false => "inf"
  | .infinite true => "-inf"
  | .finite negative significand exponent =>
      let size := if significand = 0 then "0.0" else (shortest significand exponent).toString
      if negative then "-" ++ size else size

instance : ToString Binary64 := ⟨toString⟩

example : (ofDecimal false 1 (-1)).toString = "0.1" := by decide +kernel
example : (ofDecimal true 0 0).toString = "-0.0" := by decide +kernel
example : (ofDecimal false 5 (-324)).toString = "5e-324" := by decide +kernel
example : (ofDecimal false 1 16).toString = "1e+16" := by decide +kernel
example : (ofDecimal false 123456789 7).toString = "1234567890000000.0" := by decide +kernel
example : (ofDecimal false 1 400).toString = "inf" := by decide +kernel

end Binary64

end SetupForge
