/-!
# Binary floating point, by its bits

The binary interchange formats as exact arithmetic on natural numbers: what a bit pattern stands
for (`Binary.meaning`), and which bit pattern is nearest to a number `m * 2 ^ q`
(`Binary.nearest`, a tie going to the even significand). `Double` and `Single` are the formats of
64 and 32 bits; every operation on them below is one exact computation followed by one rounding.

Powers are written `Nat.pow`, which is the same whether or not powers of monoids are in scope.
-/

namespace FieldStudy

/-- A binary format: how many bits of the significand are stored, and how many the exponent has. -/
structure BinaryFormat where
  fraction : Nat
  exponent : Nat
deriving DecidableEq, Repr

/-- What a bit pattern stands for; a finite value is `m * 2 ^ q` with a sign. -/
inductive BinaryMeaning
  | finite (negative : Bool) (m : Nat) (q : Int)
  | infinite (negative : Bool)
  | nan
deriving DecidableEq, Repr

namespace BinaryFormat

def single : BinaryFormat := ⟨23, 8⟩
def double : BinaryFormat := ⟨52, 11⟩

/-- Exponent of the last place of the numbers nearest to zero. -/
def lowest (f : BinaryFormat) : Int := 2 - (Nat.pow 2 (f.exponent - 1) : Nat) - f.fraction

/-- The exponent field that stands for infinities and for values that are not numbers. -/
def special (f : BinaryFormat) : Nat := Nat.pow 2 f.exponent - 1

def signBit (f : BinaryFormat) : Nat := Nat.pow 2 (f.fraction + f.exponent)

/-- The bits of a sign, an exponent field and a stored significand. -/
def assemble (f : BinaryFormat) (negative : Bool) (rest : Nat) : Nat :=
  (if negative then f.signBit else 0) + rest

def infinity (f : BinaryFormat) (negative : Bool) : Nat :=
  f.assemble negative (f.special * Nat.pow 2 f.fraction)

def exponentField (f : BinaryFormat) (bits : Nat) : Nat := bits / Nat.pow 2 f.fraction % Nat.pow 2 f.exponent
def fractionField (f : BinaryFormat) (bits : Nat) : Nat := bits % Nat.pow 2 f.fraction
def isNegative (f : BinaryFormat) (bits : Nat) : Bool := bits / f.signBit % 2 = 1

/-- The value of a bit pattern. -/
def meaning (f : BinaryFormat) (bits : Nat) : BinaryMeaning :=
  let e := f.exponentField bits
  let m := f.fractionField bits
  if e = f.special then
    if m = 0 then .infinite (f.isNegative bits) else .nan
  else if e = 0 then .finite (f.isNegative bits) m f.lowest
  else .finite (f.isNegative bits) (m + Nat.pow 2 f.fraction) (f.lowest + (e - 1))

/-- `m / 2 ^ s` to the nearest natural number, a tie going to the even one. -/
def shiftToEven (m s : Nat) : Nat :=
  let quotient := m / Nat.pow 2 s
  let remainder := m % Nat.pow 2 s
  if 2 * remainder < Nat.pow 2 s then quotient
  else if Nat.pow 2 s < 2 * remainder then quotient + 1
  else quotient + quotient % 2

/-- `m / 2 ^ s` to the nearest natural number, a tie going up. -/
def shiftHalfUp (m s : Nat) : Nat := (2 * m + Nat.pow 2 s) / Nat.pow 2 (s + 1)

/-- The bit pattern nearest to `m * 2 ^ q`; from half a last place above the largest finite value
on, this is an infinity. -/
def nearest (f : BinaryFormat) (negative : Bool) (m : Nat) (q : Int) : Nat :=
  if m = 0 then f.assemble negative 0
  else
    let wanted : Int := max ((m.log2 : Int) + q - f.fraction) f.lowest
    let significand := if q < wanted then shiftToEven m (wanted - q).toNat
      else m * Nat.pow 2 (q - wanted).toNat
    let place := (wanted - f.lowest).toNat
    let rest := if significand < Nat.pow 2 f.fraction then significand
      else place * Nat.pow 2 f.fraction + significand
    if f.special * Nat.pow 2 f.fraction ≤ rest then f.infinity negative else f.assemble negative rest

end BinaryFormat

/-! ## Numbers of 64 and of 32 bits -/

/-- A binary number of 64 bits, given by its bits. -/
structure Double where
  bits : UInt64
deriving DecidableEq, Repr

/-- A binary number of 32 bits, given by its bits. -/
structure Single where
  bits : UInt32
deriving DecidableEq, Repr

namespace Double

def ofNatBits (n : Nat) : Double := ⟨UInt64.ofNat n⟩

/-- The double nearest to `m * 2 ^ q`. -/
def nearest (negative : Bool) (m : Nat) (q : Int) : Double :=
  ofNatBits (BinaryFormat.double.nearest negative m q)

def meaning (x : Double) : BinaryMeaning := BinaryFormat.double.meaning x.bits.toNat

def zero : Double := ⟨0⟩
def negativeZero : Double := ⟨0x8000000000000000⟩

/-- The value that is not a number and carries no further information. -/
def nan : Double := ⟨0x7ff8000000000000⟩

def isNaN (x : Double) : Bool := x.meaning = .nan

def isFinite (x : Double) : Bool :=
  match x.meaning with
  | .finite .. => true
  | _ => false

/-- Equality of numbers: both zeros are one number, and nothing equals a value that is not a number. -/
def eqv (x y : Double) : Bool :=
  match x.meaning, y.meaning with
  | .nan, _ | _, .nan => false
  | .finite _ 0 _, .finite _ 0 _ => true
  | _, _ => x.bits = y.bits

/-- Whether the number is above zero. -/
def isPositive (x : Double) : Bool :=
  match x.meaning with
  | .finite negative m _ => !negative && m != 0
  | .infinite negative => !negative
  | .nan => false

def ofInt (n : Int) : Double := nearest (n < 0) n.natAbs 0

def negate (x : Double) : Double := ⟨x.bits ^^^ 0x8000000000000000⟩

@[simp] theorem negate_negate (x : Double) : x.negate.negate = x := by
  rw [negate, negate, UInt64.xor_assoc, UInt64.xor_self, UInt64.xor_zero]

/-- The integer nearest to a number, halves going away from zero, held within `low` and `high`; a
value that is not a number gives zero. -/
def toIntWithin (low high : Int) (x : Double) : Int :=
  match x.meaning with
  | .nan => 0
  | .infinite negative => if negative then low else high
  | .finite negative m q =>
    let size := if q < 0 then BinaryFormat.shiftHalfUp m (-q).toNat else m * Nat.pow 2 q.toNat
    max low (min high (if negative then -(size : Int) else size))

/-- The product of two finite numbers that are not negative. -/
def mul (x y : Double) : Double :=
  match x.meaning, y.meaning with
  | .finite _ m q, .finite _ n r => nearest false (m * n) (q + r)
  | _, _ => x

/-- The quotient of two finite numbers that are not negative, the divisor above zero. The quotient is
taken to twice as many places as are kept, with a last digit that tells an inexact one apart. -/
def div (x y : Double) : Double :=
  match x.meaning, y.meaning with
  | .finite _ m q, .finite _ n r =>
    let wide := m * Nat.pow 2 128
    let sticky := if wide % n = 0 then 0 else 1
    nearest false (2 * (wide / n) + sticky) (q - r - 129)
  | _, _ => x

end Double

namespace Single

def meaning (x : Single) : BinaryMeaning := BinaryFormat.single.meaning x.bits.toNat

/-- Every number of 32 bits is one of 64. A value that is not a number keeps its stored digits and
becomes a quiet one. -/
def toDouble (x : Single) : Double :=
  match x.meaning with
  | .finite negative m q => .nearest negative m q
  | .infinite negative => .ofNatBits (BinaryFormat.double.infinity negative)
  | .nan =>
    let digits := BinaryFormat.single.fractionField x.bits.toNat * Nat.pow 2 29
    let sign := BinaryFormat.single.isNegative x.bits.toNat
    .ofNatBits (BinaryFormat.double.infinity sign + (digits ||| Nat.pow 2 51))

end Single

/-- The nearest number of 32 bits. A value that is not a number keeps the leading stored digits and
becomes a quiet one. -/
def Double.toSingle (x : Double) : Single :=
  let bits := match x.meaning with
    | .finite negative m q => BinaryFormat.single.nearest negative m q
    | .infinite negative => BinaryFormat.single.infinity negative
    | .nan =>
      let digits := BinaryFormat.double.fractionField x.bits.toNat / Nat.pow 2 29
      let sign := BinaryFormat.double.isNegative x.bits.toNat
      BinaryFormat.single.infinity sign + (digits ||| Nat.pow 2 22)
  ⟨UInt32.ofNat bits⟩

end FieldStudy
