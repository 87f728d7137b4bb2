import Mathlib.Algebra.Group.Int.Defs
import Mathlib.Algebra.Group.Nat.Defs
import Mathlib.Data.List.Basic
import Mathlib.Tactic.Common
import FieldStudy.Field.Scalar

/-!
# Fields are read back

Reading a field gives the scalar of the bytes that were written, whatever follows them
(`FieldFormat.unpack?_pack`).  For an integer in a field for integers this is the integer reduced into the
range of the field (`FieldFormat.stored`): modulo a power of 256, and with its sign where the field has one.
-/

namespace FieldStudy

/-! ## Bytes of a number -/

lemma ofLittleBytes_littleBytes (n v : Nat) : ofLittleBytes (littleBytes n v) = v % 256 ^ n := by
  induction n generalizing v with
  | zero => simp [littleBytes, ofLittleBytes, Nat.mod_one]
  | succ n ih =>
    have hbyte : (UInt8.ofNat v).toNat = v % 256 := UInt8.toNat_ofNat'
    rw [littleBytes, ofLittleBytes, ih, hbyte, Nat.pow_succ', Nat.mod_mul]

namespace FieldFormat

/-- A field is read back, and what follows it is left. -/
lemma unpack?_pack (f : FieldFormat) (s : Scalar) (rest : List UInt8) :
    f.unpack? (f.pack s ++ rest) = some (f.code.scalar (f.code.word s % 256 ^ f.size), rest) := by
  have hlen : (f.pack s).length = f.size := length_pack f s
  have hfield : (f.pack s ++ rest).take f.size = f.pack s := by rw [← hlen, List.take_left]
  have hrest : (f.pack s ++ rest).drop f.size = rest := by rw [← hlen, List.drop_left]
  have hnumber : ofLittleBytes (f.endian.arrange (f.pack s)) = f.code.word s % 256 ^ f.size := by
    rw [pack, Endian.arrange_arrange, ofLittleBytes_littleBytes]
  simp [unpack?, hfield, hrest, hnumber, hlen]

end FieldFormat

/-! ## Integers -/

/-- The integer that a scalar is; a floating point number counts as zero. -/
def Scalar.toInt : Scalar → Int
  | .int v => v.toInt
  | .uint v => v.toNat
  | .float _ => 0

def Scalar.isInteger : Scalar → Bool
  | .int _ | .uint _ => true
  | .float _ => false

def FieldFormat.IsInteger (f : FieldFormat) : Prop := f.code.kind ≠ .float

instance FieldFormat.decidableIsInteger (f : FieldFormat) : Decidable f.IsInteger :=
  inferInstanceAs (Decidable (_ ≠ _))

namespace FieldFormat

/-- An integer reduced into the range of a field. -/
def reduce (f : FieldFormat) (v : Int) : Int :=
  match f.code.kind with
  | .signed => v.bmod (256 ^ f.size)
  | _ => v % 256 ^ f.size

/-- What a field for integers holds of an integer. -/
def stored (f : FieldFormat) (v : Int) : Scalar :=
  match f.code.kind with
  | .signed => .int (Int64.ofInt (f.reduce v))
  | _ => .uint (UInt64.ofNat (f.reduce v).toNat)

end FieldFormat

namespace Scalar

lemma toNat_toUInt64 (v : Int64) : (v.toUInt64.toNat : Int) = v.toInt % 2 ^ 64 := by
  rw [← Int64.toInt_toBitVec, BitVec.toInt_eq_toNat_bmod, ← Int64.toNat_toBitVec]
  have h := v.toBitVec.isLt
  have hmod : Int.bmod (v.toBitVec.toNat : Int) (2 ^ 64) % 2 ^ 64 = (v.toBitVec.toNat : Int) % 2 ^ 64 :=
    Int.bmod_emod
  rw [hmod]
  omega

lemma toNat_emod (v : UInt64) : (v.toNat : Int) = (v.toNat : Int) % 2 ^ 64 := by
  have h := v.toNat_lt
  omega

end Scalar

namespace FieldCode

variable {c : FieldCode} {s : Scalar}

/-- The word of an integer is the integer modulo the range of words, for a field with a sign and for one
without. -/
lemma word_eq (hc : c.kind ≠ .float) (hs : s.isInteger) : (c.word s : Int) = s.toInt % 2 ^ 64 := by
  have hsigned : (s.toInt64.toUInt64.toNat : Int) = s.toInt % 2 ^ 64 := by
    cases s with
    | int v => exact Scalar.toNat_toUInt64 v
    | uint v => exact Scalar.toNat_emod v
    | float x => exact absurd hs Bool.false_ne_true
  have hunsigned : (s.toUInt64.toNat : Int) = s.toInt % 2 ^ 64 := by
    cases s with
    | int v => exact Scalar.toNat_toUInt64 v
    | uint v => exact Scalar.toNat_emod v
    | float x => exact absurd hs Bool.false_ne_true
  cases c <;> first | exact hsigned | exact hunsigned | exact absurd rfl hc

lemma dvd_words (c : FieldCode) : (256 : Int) ^ c.size ∣ 2 ^ 64 := by
  cases c <;> decide

/-- What is left of the word of an integer in the bytes of a field. -/
lemma word_mod (hc : c.kind ≠ .float) (hs : s.isInteger) :
    ((c.word s % 256 ^ c.size : Nat) : Int) = s.toInt % 256 ^ c.size := by
  rw [Int.natCast_emod, word_eq hc hs, Int.natCast_pow]
  exact Int.emod_emod_of_dvd _ c.dvd_words

end FieldCode

namespace FieldFormat

/-- A number whose upper half stands for negative integers. -/
lemma signed_eq_bmod {w n : Nat} {v : Int} (hn : 0 < n) (h : (w : Int) = v % 256 ^ n) :
    (if 2 * w < Nat.pow 256 n then (w : Int) else w - Nat.pow 256 n) = v.bmod (256 ^ n) := by
  have heven : 256 ^ n = 2 * (128 * 256 ^ (n - 1)) := by
    rw [← Nat.mul_assoc, ← Nat.pow_succ']
    congr 1
    omega
  have hcast : ((256 ^ n : Nat) : Int) = 256 ^ n := Int.natCast_pow 256 n
  rw [Int.bmod_def, hcast, ← h, ← hcast, Nat.pow_eq, heven]
  by_cases hw : 2 * w < 2 * (128 * 256 ^ (n - 1))
  · rw [if_pos hw, if_pos (by omega)]
  · rw [if_neg hw, if_neg (by omega)]

/-- A field for integers holds of an integer what the range of the field leaves of it. -/
lemma scalar_word {f : FieldFormat} {s : Scalar} (hf : f.IsInteger) (hs : s.isInteger) :
    f.code.scalar (f.code.word s % 256 ^ f.size) = f.stored s.toInt := by
  have hword := FieldCode.word_mod hf hs
  have hsigned := signed_eq_bmod f.code.size_pos hword
  have hunsigned : UInt64.ofNat (f.code.word s % 256 ^ f.size) =
      UInt64.ofNat (s.toInt % 256 ^ f.size).toNat := by
    rw [size, ← hword, Int.toNat_natCast]
  obtain ⟨e, c⟩ := f
  cases c with
  | int8 | int16 | int32 | int64 => exact congrArg (fun v => Scalar.int (Int64.ofInt v)) hsigned
  | uint8 | uint16 | uint32 | uint64 => exact congrArg Scalar.uint hunsigned
  | float32 | float64 => exact absurd rfl hf

/-- An integer in a field for integers is read back as the field holds it. -/
lemma unpack?_pack_integer {f : FieldFormat} {s : Scalar} (hf : f.IsInteger) (hs : s.isInteger)
    (rest : List UInt8) : f.unpack? (f.pack s ++ rest) = some (f.stored s.toInt, rest) := by
  rw [unpack?_pack, scalar_word hf hs]

end FieldFormat

end FieldStudy
