import FieldStudy.Number.Binary

/-!
# The fewest digits that read back

`Decimal.shortest` gives the decimal number with the fewest digits that lies within half a last
place of a binary number, and of several such the nearest. `Decimal.Layout` says how its digits are
laid out as text.
-/

namespace FieldStudy

/-- A decimal number `digits * 10 ^ exponent`. -/
structure Decimal where
  digits : Nat
  exponent : Int
deriving DecidableEq, Repr

namespace Decimal

/-- Whether `a * 10 ^ k ≤ b * 2 ^ q`. -/
def leBinary (a : Nat) (k : Int) (b : Nat) (q : Int) : Bool :=
  a * Nat.pow 10 k.toNat * Nat.pow 2 (-q).toNat ≤ b * Nat.pow 2 q.toNat * Nat.pow 10 (-k).toNat

/-- Whether `a * 10 ^ k < b * 2 ^ q`. -/
def ltBinary (a : Nat) (k : Int) (b : Nat) (q : Int) : Bool :=
  a * Nat.pow 10 k.toNat * Nat.pow 2 (-q).toNat < b * Nat.pow 2 q.toNat * Nat.pow 10 (-k).toNat

/-- The numbers that round to one binary number, in quarters of its last place: from `low` to
`high`, both ends belonging to it when `closed`. -/
structure Interval where
  low : Nat
  middle : Nat
  high : Nat
  quarter : Int
  closed : Bool

/-- The interval of `m * 2 ^ q`. Below a power of two the numbers lie twice as dense. -/
def Interval.around (m : Nat) (q : Int) : Interval :=
  let edge := m = Nat.pow 2 52 ∧ q ≠ BinaryFormat.double.lowest
  ⟨4 * m - (if edge then 1 else 2), 4 * m, 4 * m + 2, q - 2, m % 2 = 0⟩

def Interval.holds (i : Interval) (c : Nat) (k : Int) : Bool :=
  if i.closed then !ltBinary c k i.low i.quarter && leBinary c k i.high i.quarter
  else !leBinary c k i.low i.quarter && ltBinary c k i.high i.quarter

/-- The whole part of `middle / 10 ^ k`. -/
def Interval.below (i : Interval) (k : Int) : Nat :=
  (i.middle * Nat.pow 2 i.quarter.toNat * Nat.pow 10 (-k).toNat) /
    (Nat.pow 10 k.toNat * Nat.pow 2 (-i.quarter).toNat)

/-- Whether `c * 10 ^ k` is nearer to the middle than `(c + 1) * 10 ^ k`; of two equally near, the
even one is taken. -/
def Interval.prefersLower (i : Interval) (c : Nat) (k : Int) : Bool :=
  if ltBinary (2 * c + 1) k (2 * i.middle) i.quarter then false
  else if leBinary (2 * c + 1) k (2 * i.middle) i.quarter then c % 2 = 0
  else true

/-- The exponent `t` with `10 ^ t ≤ m * 2 ^ q < 10 ^ (t + 1)`. -/
def leadingExponent (m : Nat) (q : Int) : Int :=
  let guess := ((m.log2 : Int) + q) * 30103 / 100000
  if leBinary 1 (guess + 1) m q then guess + 1 else guess

/-- Tries the grids of 1, 2, … digits; seventeen digits always suffice. -/
def search (i : Interval) (lead : Int) (count : Nat) : Nat → Decimal
  | 0 => ⟨i.below (lead - count), lead - count⟩
  | rounds + 1 =>
    let k := lead - count
    let c := i.below k
    match i.holds c k, i.holds (c + 1) k with
    | true, true => if i.prefersLower c k then ⟨c, k⟩ else ⟨c + 1, k⟩
    | true, false => ⟨c, k⟩
    | false, true => ⟨c + 1, k⟩
    | false, false => search i lead (count + 1) rounds

/-- The decimal number with the fewest digits that rounds to `m * 2 ^ q`, for `m` above zero. -/
def shortest (m : Nat) (q : Int) : Decimal :=
  search (.around m q) (leadingExponent m q) 0 17

/-! ## Text -/

/-- How numbers are written. The decimal point may stand from `pointFrom` to `pointTo`, counted in digits from the
front of the significant ones, for a number to be written without an exponent. -/
structure Layout where
  pointFrom : Int
  pointTo : Int
  mark : Char
  /-- What stands before an exponent that is not negative. -/
  plus : List Char
deriving DecidableEq, Repr

def digitChars (n : Nat) : List Char := (Nat.toDigits 10 n)

def intChars (n : Int) : List Char :=
  if n < 0 then '-' :: digitChars n.natAbs else digitChars n.natAbs

/-- An exponent behind its mark. -/
def Layout.exponentChars (l : Layout) (n : Int) : List Char :=
  l.mark :: ((if n < 0 then [] else l.plus) ++ intChars n)

/-- Drops the zeros at the end of a digit text. -/
def trimZeros (ds : List Char) : List Char := (ds.reverse.dropWhile (· == '0')).reverse

/-- The text of a number above zero. One written without an exponent always has a point. -/
def Layout.write (l : Layout) (d : Decimal) : List Char :=
  let all := digitChars d.digits
  let digits := trimZeros all
  let point : Int := all.length + d.exponent
  if l.pointFrom ≤ point ∧ point ≤ l.pointTo then
    if point ≤ 0 then '0' :: '.' :: (List.replicate (-point).toNat '0' ++ digits)
    else
      let whole := digits.take point.toNat
      let rest := digits.drop point.toNat
      whole ++ List.replicate (point.toNat - whole.length) '0' ++
        '.' :: (if rest.isEmpty then ['0'] else rest)
  else
    let head := digits.take 1
    let rest := digits.drop 1
    head ++ (if rest.isEmpty then [] else '.' :: rest) ++ l.exponentChars (point - 1)

/-- The text of a finite double; zeros keep their sign. -/
def Layout.writeDouble? (l : Layout) (x : Double) : Option (List Char) :=
  match x.meaning with
  | .finite negative m q =>
    let size := if m = 0 then ['0', '.', '0'] else l.write (shortest m q)
    some (if negative then '-' :: size else size)
  | _ => none

end Decimal

end FieldStudy
