import FieldStudy.Number.Binary

/-!
# Seconds
-/

namespace FieldStudy.Double

/-- Whether the number is one of the two zeros. -/
def isZero (x : Double) : Bool := x.eqv zero

/-- A positive number of seconds in whole nanoseconds, a tie going to the even one. -/
def nanoseconds (x : Double) : Nat :=
  match x.meaning with
  | .finite _ m q =>
    if q < 0 then BinaryFormat.shiftToEven (m * Nat.pow 10 9) (-q).toNat
    else m * Nat.pow 10 9 * Nat.pow 2 q.toNat
  | _ => 0

/-- The longest duration, of 2 ^ 64 seconds less one nanosecond. -/
def maxDuration : Nat := Nat.pow 2 64 * Nat.pow 10 9 - 1

/-- The duration of a positive number of seconds in nanoseconds: the longest one if there is none so long. -/
def duration (x : Double) : Nat := min x.nanoseconds maxDuration

/-- How long a timer of so many seconds runs, in milliseconds. A begun one counts as whole; a number that is
not finite or not above zero sets no timer. -/
def timer? (x : Double) : Option Nat :=
  if x.isFinite && x.isPositive then some ((x.duration + 999999) / 1000000) else none

end FieldStudy.Double
