import FieldStudy.Field.Format
import FieldStudy.Number.Binary

/-!
# Scalars and their bytes

A scalar is an integer with or without a sign, or a floating point number. `FieldFormat.pack` writes a
scalar as the bytes of a field, casting it to the field's kind and width; `FieldFormat.unpack?`
reads the bytes of a field and leaves the rest.
-/

namespace FieldStudy

/-- A number carried by a field. -/
inductive Scalar
  | int (v : Int64)
  | uint (v : UInt64)
  | float (x : Double)
deriving DecidableEq, Repr

namespace Scalar

def zero : Scalar := .int 0

/-- The number as a signed word: words keep their bits, floating point numbers are rounded and held
within range. -/
def toInt64 : Scalar → Int64
  | .int v => v
  | .uint v => v.toInt64
  | .float x => Int64.ofInt (x.toIntWithin Int64.minValue.toInt Int64.maxValue.toInt)

/-- The number as an unsigned word: words keep their bits, floating point numbers are rounded and held
within range. -/
def toUInt64 : Scalar → UInt64
  | .int v => v.toUInt64
  | .uint v => v
  | .float x => UInt64.ofNat (x.toIntWithin 0 (UInt64.size - 1 : Nat)).toNat

def toDouble : Scalar → Double
  | .int v => .ofInt v.toInt
  | .uint v => .ofInt v.toNat
  | .float x => x

end Scalar

/-! ## Bytes of a number -/

/-- The last `n` bytes of a number, least significant first. -/
def littleBytes : Nat → Nat → List UInt8
  | 0, _ => []
  | n + 1, v => UInt8.ofNat v :: littleBytes n (v / 256)

/-- The number of bytes that come least significant first. -/
def ofLittleBytes : List UInt8 → Nat
  | [] => 0
  | b :: rest => b.toNat + 256 * ofLittleBytes rest

@[simp] theorem length_littleBytes (n v : Nat) : (littleBytes n v).length = n := by
  induction n generalizing v with
  | zero => rfl
  | succ n ih => simp [littleBytes, ih]

/-- Puts bytes that come least significant first into the order of a field, and back. -/
def Endian.arrange : Endian → List UInt8 → List UInt8
  | .little, bytes => bytes
  | .big, bytes => bytes.reverse

@[simp] theorem Endian.length_arrange (e : Endian) (bytes : List UInt8) :
    (e.arrange bytes).length = bytes.length := by
  cases e <;> simp [Endian.arrange]

@[simp] theorem Endian.arrange_arrange (e : Endian) (bytes : List UInt8) :
    e.arrange (e.arrange bytes) = bytes := by
  cases e <;> simp [Endian.arrange]

namespace FieldCode

/-- The number whose bytes stand for a scalar. -/
def word (c : FieldCode) (s : Scalar) : Nat :=
  match c with
  | .int8 | .int16 | .int32 | .int64 => s.toInt64.toUInt64.toNat
  | .uint8 | .uint16 | .uint32 | .uint64 => s.toUInt64.toNat
  | .float32 => s.toDouble.toSingle.bits.toNat
  | .float64 => s.toDouble.bits.toNat

/-- The scalar that a number of the width of the code stands for. -/
def scalar (c : FieldCode) (word : Nat) : Scalar :=
  match c with
  | .int8 | .int16 | .int32 | .int64 =>
    let span := Nat.pow 256 c.size
    .int (Int64.ofInt (if 2 * word < span then word else word - span))
  | .uint8 | .uint16 | .uint32 | .uint64 => .uint (UInt64.ofNat word)
  | .float32 => .float (Single.toDouble ⟨UInt32.ofNat word⟩)
  | .float64 => .float ⟨UInt64.ofNat word⟩

end FieldCode

namespace FieldFormat

/-- The width of fields one after the other. -/
def totalSize (fs : List FieldFormat) : Nat := fs.foldr (fun f n => f.size + n) 0

@[simp] theorem totalSize_nil : totalSize [] = 0 := rfl

@[simp] theorem totalSize_cons (f : FieldFormat) (fs : List FieldFormat) :
    totalSize (f :: fs) = f.size + totalSize fs := rfl

/-- The bytes of a scalar in a field. -/
def pack (f : FieldFormat) (s : Scalar) : List UInt8 :=
  f.endian.arrange (littleBytes f.size (f.code.word s))

/-- The scalar of the field at the front of the bytes and the bytes behind it; nothing if they end
before the field does. -/
def unpack? (f : FieldFormat) (bytes : List UInt8) : Option (Scalar × List UInt8) :=
  let field := bytes.take f.size
  if field.length = f.size then
    some (f.code.scalar (ofLittleBytes (f.endian.arrange field)), bytes.drop f.size)
  else none

@[simp] theorem length_pack (f : FieldFormat) (s : Scalar) : (f.pack s).length = f.size := by
  simp [pack]

theorem length_of_unpack? {f : FieldFormat} {bytes rest : List UInt8} {s : Scalar}
    (h : f.unpack? bytes = some (s, rest)) : bytes.length = f.size + rest.length := by
  simp only [unpack?] at h
  split at h
  · next hl =>
    simp only [Option.some.injEq, Prod.mk.injEq] at h
    simp only [List.length_take] at hl
    simp [← h.2]; omega
  · simp at h

/-- Reads fields one after the other. -/
def unpackAll? : List FieldFormat → List UInt8 → Option (List Scalar × List UInt8)
  | [], bytes => some ([], bytes)
  | f :: rest, bytes => do
    let (s, bytes) ← f.unpack? bytes
    let (ss, bytes) ← unpackAll? rest bytes
    return (s :: ss, bytes)

theorem length_of_unpackAll? {fs : List FieldFormat} {bytes rest : List UInt8} {ss : List Scalar}
    (h : unpackAll? fs bytes = some (ss, rest)) :
    bytes.length = totalSize fs + rest.length := by
  induction fs generalizing bytes ss with
  | nil => simp_all [unpackAll?]
  | cons f fs ih =>
    simp only [unpackAll?, Option.bind_eq_bind, Option.bind_eq_some_iff] at h
    obtain ⟨⟨s, b⟩, hs, ⟨ss', b'⟩, hss, he⟩ := h
    simp only [Option.pure_def, Option.some.injEq, Prod.mk.injEq] at he
    have h1 := length_of_unpack? hs
    rw [he.2] at hss
    have h2 := ih hss
    simp only [totalSize_cons] at h2 ⊢
    omega

end FieldFormat

end FieldStudy
