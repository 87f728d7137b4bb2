import FieldStudy.Number.Binary

/-!
# Numerals

The value of a numeral as written in a JSON text. An integer from -2^63 to 2^64 - 1 without point or
exponent is an integer; every other numeral is a double, read in stages: the digits are
gathered into a significand of at most 64 bits, digits beyond that count only by their place,
and the significand is then multiplied or divided by rounded powers of ten.
-/

namespace FieldStudy

/-- A numeral by its parts; the digit lists hold values below ten. -/
structure Numeral where
  negative : Bool
  whole : List Nat
  fraction : List Nat
  /-- Sign and digits of the exponent. -/
  exponent : Option (Bool × List Nat)
deriving DecidableEq, Repr

/-- The number that a numeral stands for. -/
inductive NumeralValue
  | int (n : Int)
  | float (x : Double)
deriving DecidableEq, Repr

namespace Numeral

def largestWord : Nat := UInt64.size - 1

/-- Takes digits into the significand for as long as it fits 64 bits; returns it, the number of digits
taken and the number left. -/
def gather (significand : Nat) : List Nat → Nat × Nat × Nat
  | [] => (significand, 0, 0)
  | d :: rest =>
    let next := significand * 10 + d
    if largestWord < next then (significand, 0, rest.length + 1)
    else
      let (s, taken, left) := gather next rest
      (s, taken + 1, left)

/-- The power of ten as the double nearest to it. -/
def power (n : Nat) : Double := .nearest false (Nat.pow 10 n) 0

/-- Applies a decimal exponent to a double in steps of at most 308; nothing if the result is beyond the
largest double. -/
def scale (x : Double) (exponent : Int) : Nat → Option Double
  | 0 => none
  | rounds + 1 =>
    if exponent.natAbs ≤ 308 then
      if 0 ≤ exponent then
        let y := x.mul (power exponent.toNat)
        if y.isFinite then some y else none
      else some (x.div (power exponent.natAbs))
    else if x.eqv .zero then some x
    else if 0 ≤ exponent then none
    else scale (x.div (power 308)) (exponent + 308) rounds

/-- The largest exponent that is read as such. -/
def exponentLimit : Nat := Nat.pow 2 31 - 1

/-- The double `significand * 10 ^ exponent`. At most four steps are needed before a quotient is
zero. -/
def assemble (negative : Bool) (significand : Nat) (exponent : Int) : Option Double :=
  (scale (.ofInt significand) exponent 8).map fun x => if negative then x.negate else x

/-- Holds an exponent within 32 bits. -/
def clampExponent (e : Int) : Int := max Int32.minValue.toInt (min Int32.maxValue.toInt e)

/-- The value of a numeral; nothing if it is beyond the largest double. -/
def value? (n : Numeral) : Option NumeralValue := do
  let (whole, _, wholeLeft) := gather 0 n.whole
  let (significand, taken, _) := gather whole n.fraction
  let start : Int := wholeLeft - taken
  match n.exponent with
  | none =>
    if n.fraction.isEmpty && wholeLeft == 0 then
      if !n.negative then return .int whole
      else if whole = 0 then return .float .negativeZero
      else if whole ≤ Nat.pow 2 63 then return .int (-(whole : Int))
      else return .float (Double.ofInt whole).negate
    else return .float (← assemble n.negative significand start)
  | some (negativeExponent, digits) =>
    let e := digits.foldl (fun e d => min (e * 10 + d) (exponentLimit + 1)) 0
    if exponentLimit < e then
      if significand ≠ 0 ∧ !negativeExponent then none
      else return .float (if n.negative then .negativeZero else .zero)
    else
      let total := if negativeExponent then start - e else start + e
      return .float (← assemble n.negative significand (clampExponent total))

end Numeral

end FieldStudy
