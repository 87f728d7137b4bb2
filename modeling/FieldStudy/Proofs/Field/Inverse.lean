import Mathlib.Data.Int.ModEq
import Mathlib.Data.List.Forall2
import Mathlib.Tactic.Common
import FieldStudy.Proofs.Field.Codec

/-!
# Packing and unpacking are inverse

The bytes of a field and the scalars that it can hold (`FieldFormat.Holds`) determine each other.  A field for integers
keeps of an integer its residue: the one scalar of the range of the field that is congruent to it
(`FieldFormat.isResidue_stored`).  So two integers have the same bytes if and only if they are congruent
(`FieldFormat.pack_eq_iff_modEq`), and what was read is written back as the bytes it came from
(`FieldFormat.pack_of_unpack?`).
-/

namespace FieldStudy

/-! ## Bytes of a number -/

lemma ofLittleBytes_lt (bytes : List UInt8) : ofLittleBytes bytes < 256 ^ bytes.length := by
  induction bytes with
  | nil => decide
  | cons b rest ih =>
    have hb := b.toNat_lt
    rw [ofLittleBytes, List.length_cons, Nat.pow_succ]
    omega

lemma littleBytes_ofLittleBytes (bytes : List UInt8) : littleBytes bytes.length (ofLittleBytes bytes) = bytes := by
  induction bytes with
  | nil => rfl
  | cons b rest ih =>
    have hb := b.toNat_lt
    have hlow : UInt8.ofNat (b.toNat + 256 * ofLittleBytes rest) = b := by
      rw [← UInt8.toNat_inj, UInt8.toNat_ofNat']
      omega
    have hrest : (b.toNat + 256 * ofLittleBytes rest) / 256 = ofLittleBytes rest := by omega
    rw [ofLittleBytes, List.length_cons, littleBytes, hlow, hrest, ih]

lemma littleBytes_eq_iff {n v w : Nat} : littleBytes n v = littleBytes n w ↔ v % 256 ^ n = w % 256 ^ n := by
  have hmod (v : Nat) : littleBytes n (v % 256 ^ n) = littleBytes n v := by
    have hback := littleBytes_ofLittleBytes (littleBytes n v)
    rwa [length_littleBytes, ofLittleBytes_littleBytes] at hback
  constructor
  · intro h
    rw [← ofLittleBytes_littleBytes n v, h, ofLittleBytes_littleBytes]
  · intro h
    rw [← hmod v, h, hmod]

lemma exists_append_of_length {α : Type} {l : List α} {m n : Nat} (h : l.length = m + n) :
    ∃ front back, l = front ++ back ∧ front.length = m ∧ back.length = n := by
  refine ⟨l.take m, l.drop m, (List.take_append_drop m l).symm, ?_, ?_⟩
  · rw [List.length_take]
    omega
  · rw [List.length_drop]
    omega

namespace FieldFormat

/-! ## What a field for integers can hold -/

/-- The integers that there is room for, with a sign or without one. -/
def InRange (f : FieldFormat) (v : Int) : Prop :=
  match f.code.kind with
  | .signed => -2 ^ (8 * f.size - 1) ≤ v ∧ v < 2 ^ (8 * f.size - 1)
  | _ => 0 ≤ v ∧ v < 2 ^ (8 * f.size)

/-- The scalar has a sign if the field has one, and it is in the range of the field. -/
def Holds (f : FieldFormat) : Scalar → Prop
  | .int v => f.code.kind = .signed ∧ f.InRange v.toInt
  | .uint v => f.code.kind = .unsigned ∧ f.InRange v.toNat
  | .float _ => False

/-- The scalar is what the field can hold of an integer. -/
structure IsResidue (f : FieldFormat) (v : Int) (s : Scalar) : Prop where
  holds : f.Holds s
  modEq : s.toInt ≡ v [ZMOD 2 ^ (8 * f.size)]

variable {f : FieldFormat} {s s' : Scalar} {v : Int}

lemma Holds.isInteger (h : f.Holds s) : s.isInteger = true := by
  cases s with
  | int v => rfl
  | uint v => rfl
  | float x => exact h.elim

/-- The number of contents of a field. -/
lemma span_eq (f : FieldFormat) : (256 : Int) ^ f.size = 2 ^ (8 * f.size) := pow_mul (2 : Int) 8 f.size ▸ rfl

lemma natCast_span (f : FieldFormat) : ((256 ^ f.size : Nat) : Int) = 2 ^ (8 * f.size) :=
  (Int.natCast_pow 256 f.size).trans f.span_eq

/-- Half of the contents stand for negative integers where there is a sign. -/
lemma half_add_half (f : FieldFormat) : (2 : Int) ^ (8 * f.size - 1) + 2 ^ (8 * f.size - 1) = 2 ^ (8 * f.size) := by
  have hpos : 0 < f.size := f.code.size_pos
  rw [← Int.two_mul, ← pow_succ', Nat.sub_add_cancel (by omega)]

lemma width_le (f : FieldFormat) : (2 : Int) ^ (8 * f.size) ≤ 2 ^ 64 := by
  rw [size]
  cases f.code <;> decide

/-- A number that there is room for fits into a word. -/
lemma toNat_ofNat_of_lt (f : FieldFormat) {w : Nat} (h : (w : Int) < 2 ^ (8 * f.size)) :
    (UInt64.ofNat w).toNat = w := by
  have hwidth := f.width_le
  exact UInt64.toNat_ofNat_of_lt (show w < 2 ^ 64 by omega)

/-- There is no room for two integers that are congruent. -/
lemma InRange.eq_of_modEq {a b : Int} (ha : f.InRange a) (hb : f.InRange b) (h : a ≡ b [ZMOD 2 ^ (8 * f.size)]) :
    a = b := by
  have hhalf := f.half_add_half
  have hnear : |b - a| < 2 ^ (8 * f.size) := by
    rw [InRange] at ha hb
    rw [abs_lt]
    split at ha
    · next hkind =>
      rw [hkind] at hb
      constructor <;> omega
    · next hkind =>
      split at hb
      · contradiction
      · constructor <;> omega
  have hzero := Int.eq_zero_of_abs_lt_dvd h.dvd hnear
  omega

/-- A field holds no other residue of an integer. -/
lemma IsResidue.unique (h : f.IsResidue v s) (h' : f.IsResidue v s') : s' = s := by
  have hmod : s'.toInt ≡ s.toInt [ZMOD 2 ^ (8 * f.size)] := h'.modEq.trans h.modEq.symm
  have hs := h.holds
  have hs' := h'.holds
  cases s with
  | int a =>
    cases s' with
    | int b => exact congrArg Scalar.int (Int64.toInt_inj.1 (hs'.2.eq_of_modEq hs.2 hmod))
    | uint b => exact absurd (hs'.1.symm.trans hs.1) (by decide)
    | float x => exact hs'.elim
  | uint a =>
    cases s' with
    | int b => exact absurd (hs'.1.symm.trans hs.1) (by decide)
    | uint b => exact congrArg Scalar.uint (UInt64.toNat_inj.1 (Int.natCast_inj.1 (hs'.2.eq_of_modEq hs.2 hmod)))
    | float x => exact hs'.elim
  | float x => exact hs.elim

/-- What a field holds of an integer is its residue. -/
lemma isResidue_stored (hf : f.IsInteger) (v : Int) : f.IsResidue v (f.stored v) := by
  have hhalf := f.half_add_half
  have hwidth := f.width_le
  have hspan := f.natCast_span
  have hpos : 0 < 256 ^ f.size := Nat.pow_pos (by decide)
  cases hkind : f.code.kind with
  | signed =>
    have hlow : -(((256 ^ f.size : Nat) : Int) / 2) ≤ v.bmod (256 ^ f.size) := Int.le_bmod hpos
    have hhigh : v.bmod (256 ^ f.size) < (((256 ^ f.size : Nat) : Int) + 1) / 2 := Int.bmod_lt hpos
    have hvalue : (Int64.ofInt (v.bmod (256 ^ f.size))).toInt = v.bmod (256 ^ f.size) :=
      Int64.toInt_ofInt_of_le (by omega) (by omega)
    have hstored : f.stored v = .int (Int64.ofInt (v.bmod (256 ^ f.size))) := by rw [stored, reduce, hkind]
    rw [hstored]
    refine ⟨⟨hkind, ?_⟩, ?_⟩
    · rw [InRange, hkind, hvalue]
      constructor <;> omega
    · rw [Scalar.toInt, hvalue, Int.ModEq, ← hspan]
      exact Int.bmod_emod
  | unsigned =>
    have hlow : 0 ≤ v % 2 ^ (8 * f.size) := Int.emod_nonneg v (by omega)
    have hhigh : v % 2 ^ (8 * f.size) < 2 ^ (8 * f.size) := Int.emod_lt_of_pos v (by omega)
    have hvalue : ((UInt64.ofNat (v % 2 ^ (8 * f.size)).toNat).toNat : Int) = v % 2 ^ (8 * f.size) :=
      (congrArg Nat.cast (f.toNat_ofNat_of_lt (by omega))).trans (Int.toNat_of_nonneg hlow)
    have hstored : f.stored v = .uint (UInt64.ofNat (v % 2 ^ (8 * f.size)).toNat) := by
      rw [stored, reduce, hkind, span_eq]
    rw [hstored]
    refine ⟨⟨hkind, ?_⟩, ?_⟩
    · rw [InRange, hkind, hvalue]
      exact ⟨hlow, hhigh⟩
    · rw [Scalar.toInt, hvalue]
      exact Int.mod_modEq v _
  | float => exact absurd hkind hf

/-- Every content of a field for integers is read as the residue of its number. -/
lemma isResidue_scalar (hf : f.IsInteger) {w : Nat} (hw : w < 256 ^ f.size) : f.IsResidue w (f.code.scalar w) := by
  have hspan := f.natCast_span
  have hvalue : (Scalar.uint (UInt64.ofNat w)).toInt = w := congrArg Nat.cast (f.toNat_ofNat_of_lt (by omega))
  have hword : f.code.word (.uint (UInt64.ofNat w)) % 256 ^ f.size = w := by
    have hmod := FieldCode.word_mod (s := .uint (UInt64.ofNat w)) hf rfl
    rw [← size, hvalue, span_eq, ← hspan, ← Int.natCast_emod, Nat.mod_eq_of_lt hw] at hmod
    exact Int.natCast_inj.1 hmod
  have hscalar := scalar_word (s := .uint (UInt64.ofNat w)) hf rfl
  rw [hword, hvalue] at hscalar
  exact hscalar ▸ isResidue_stored hf w

/-- The scalar of a content is written as this content. -/
lemma word_scalar (hf : f.IsInteger) {w : Nat} (hw : w < 256 ^ f.size) :
    f.code.word (f.code.scalar w) % 256 ^ f.size = w := by
  obtain ⟨hholds, hmod⟩ := isResidue_scalar hf hw
  have hword := FieldCode.word_mod hf hholds.isInteger
  rw [← size, span_eq, hmod, ← natCast_span, ← Int.natCast_emod, Nat.mod_eq_of_lt hw] at hword
  exact Int.natCast_inj.1 hword

/-! ## One field -/

lemma exists_unpack? {f : FieldFormat} {field : List UInt8} (h : field.length = f.size) :
    ∃ s, ∀ more, f.unpack? (field ++ more) = some (s, more) := by
  refine ⟨f.code.scalar (ofLittleBytes (f.endian.arrange field)), fun more => ?_⟩
  simp [unpack?, List.take_left' h, List.drop_left' h, h]

lemma pack_eq_iff : f.pack s = f.pack s' ↔ f.code.word s % 256 ^ f.size = f.code.word s' % 256 ^ f.size := by
  rw [← littleBytes_eq_iff, pack, pack]
  refine ⟨fun h => ?_, congrArg _⟩
  rw [← f.endian.arrange_arrange (littleBytes f.size (f.code.word s)), h, Endian.arrange_arrange]

/-- Two integers have the same bytes in a field if and only if they are congruent. -/
lemma pack_eq_iff_modEq (hf : f.IsInteger) (hs : s.isInteger) (hs' : s'.isInteger) :
    f.pack s = f.pack s' ↔ s.toInt ≡ s'.toInt [ZMOD 2 ^ (8 * f.size)] := by
  have hword := FieldCode.word_mod hf hs
  have hword' := FieldCode.word_mod hf hs'
  rw [pack_eq_iff, Int.ModEq, ← span_eq, size, ← hword, ← hword', Int.natCast_inj]

/-- The residue of an integer is read of what was written of it. -/
lemma unpack?_pack_residue (hf : f.IsInteger) (hs : s.isInteger) (rest : List UInt8) :
    ∃ s', f.unpack? (f.pack s ++ rest) = some (s', rest) ∧ f.IsResidue s.toInt s' :=
  ⟨f.stored s.toInt, unpack?_pack_integer hf hs rest, isResidue_stored hf s.toInt⟩

/-- A floating point number of 64 bits is read as it was written, bit by bit. -/
lemma unpack?_pack_double {e : Endian} (x : Double) (rest : List UInt8) :
    unpack? ⟨e, .float64⟩ (pack ⟨e, .float64⟩ (.float x) ++ rest) = some (.float x, rest) := by
  have hbits : x.bits.toNat % 256 ^ 8 = x.bits.toNat := Nat.mod_eq_of_lt x.bits.toNat_lt
  rw [unpack?_pack]
  show some (Scalar.float ⟨UInt64.ofNat (x.bits.toNat % 256 ^ 8)⟩, rest) = _
  rw [hbits, UInt64.ofNat_toNat]

/-- What is read of a field for integers is something that the field can hold, and it is written as the same bytes. -/
lemma pack_of_unpack? (hf : f.IsInteger) {bytes rest : List UInt8} (h : f.unpack? bytes = some (s, rest)) :
    f.Holds s ∧ bytes = f.pack s ++ rest := by
  rw [unpack?] at h
  split at h
  · next hlength =>
    obtain ⟨rfl, rfl⟩ := Prod.mk.inj (Option.some.inj h)
    have hfield : (f.endian.arrange (bytes.take f.size)).length = f.size := by rw [Endian.length_arrange, hlength]
    have hback := littleBytes_ofLittleBytes (f.endian.arrange (bytes.take f.size))
    have hlt := ofLittleBytes_lt (f.endian.arrange (bytes.take f.size))
    rw [hfield] at hback hlt
    have hword := (word_scalar hf hlt).trans (Nat.mod_eq_of_lt hlt).symm
    refine ⟨(isResidue_scalar hf hlt).holds, ?_⟩
    rw [pack, littleBytes_eq_iff.2 hword, hback, Endian.arrange_arrange, List.take_append_drop]
  · cases h

/-! ## Several fields -/

/-- The bytes of fields one after the other. -/
def packAll (fields : List (FieldFormat × Scalar)) : List UInt8 := fields.flatMap fun p => p.1.pack p.2

lemma packAll_cons (p : FieldFormat × Scalar) (more : List (FieldFormat × Scalar)) :
    packAll (p :: more) = p.1.pack p.2 ++ packAll more := List.flatMap_cons

/-- The field can give back what is written to it: it is for integers and gets one, or it gets a floating point number
and has all 64 bits of it. -/
def Carries (f : FieldFormat) : Scalar → Prop
  | .float _ => f.code = .float64
  | _ => f.IsInteger

/-- The second scalar is what a field gives back of the first one: of an integer its only residue, and of a floating
point number the same bits. -/
def GivesBack (f : FieldFormat) : Scalar → Scalar → Prop
  | .float x, s' => s' = .float x
  | s, s' => f.IsResidue s.toInt s' ∧ ∀ other, f.IsResidue s.toInt other → other = s'

instance Carries.decidable (f : FieldFormat) : (s : Scalar) → Decidable (f.Carries s)
  | .int _ | .uint _ => f.decidableIsInteger
  | .float _ => inferInstanceAs (Decidable (f.code = .float64))

/-- What a field carries is read back with the rest of the bytes left. -/
lemma exists_unpack?_pack (h : f.Carries s) (rest : List UInt8) :
    ∃ s', f.unpack? (f.pack s ++ rest) = some (s', rest) ∧ f.GivesBack s s' := by
  cases s with
  | int v =>
    obtain ⟨s', hread, hresidue⟩ := unpack?_pack_residue h (s := .int v) rfl rest
    exact ⟨s', hread, hresidue, fun _ => hresidue.unique⟩
  | uint v =>
    obtain ⟨s', hread, hresidue⟩ := unpack?_pack_residue h (s := .uint v) rfl rest
    exact ⟨s', hread, hresidue, fun _ => hresidue.unique⟩
  | float x =>
    obtain ⟨e, c⟩ := f
    obtain rfl : c = .float64 := h
    exact ⟨.float x, unpack?_pack_double x rest, rfl⟩

lemma exists_unpackAll? {fs : List FieldFormat} {fields : List UInt8}
    (h : fields.length = totalSize fs) :
    ∃ ss, ∀ more, unpackAll? fs (fields ++ more) = some (ss, more) := by
  induction fs generalizing fields with
  | nil => exact ⟨[], fun more => by simp [List.length_eq_zero_iff.1 h, unpackAll?]⟩
  | cons f fs ih =>
    obtain ⟨field, rest, rfl, hfield, hrest⟩ := exists_append_of_length h
    obtain ⟨s, hs⟩ := exists_unpack? hfield
    obtain ⟨ss, hss⟩ := ih hrest
    exact ⟨s :: ss, fun more => by simp [unpackAll?, hs, hss]⟩

/-- What is read of fields for integers is written as the same bytes. -/
lemma packAll_of_unpackAll? {fs : List FieldFormat} (hf : ∀ f ∈ fs, f.IsInteger) {bytes rest : List UInt8}
    {values : List Scalar} (h : unpackAll? fs bytes = some (values, rest)) :
    values.length = fs.length ∧ bytes = packAll (fs.zip values) ++ rest := by
  induction fs generalizing bytes values with
  | nil =>
    obtain ⟨rfl, rfl⟩ := Prod.mk.inj (Option.some.inj h)
    exact ⟨rfl, rfl⟩
  | cons f fs ih =>
    simp only [unpackAll?, Option.bind_eq_bind, Option.bind_eq_some_iff] at h
    obtain ⟨⟨s, more⟩, hs, ⟨later, rest'⟩, hlater, heq⟩ := h
    obtain ⟨rfl, rfl⟩ : s :: later = values ∧ rest' = rest := by simpa using heq
    obtain ⟨-, rfl⟩ := pack_of_unpack? (hf f List.mem_cons_self) hs
    obtain ⟨hlength, rfl⟩ := ih (fun g hg => hf g (List.mem_cons_of_mem f hg)) hlater
    refine ⟨by rw [List.length_cons, List.length_cons, hlength], ?_⟩
    rw [List.zip_cons_cons, packAll_cons, List.append_assoc]

/-- Fields that are packed one after the other are unpacked again, each as what it gives back, and the bytes behind
them are left; this is the only residue in the range of the field for an integer, and the same bits for a floating
point number.  Fields for integers that are unpacked are packed as the same bytes, and two integers are packed as the
same bytes if and only if they are congruent. -/
theorem unpackAll?_packAll :
    (∀ (fields : List (FieldFormat × Scalar)) (rest : List UInt8), (∀ p ∈ fields, p.1.Carries p.2) →
      ∃ values, unpackAll? (fields.map (·.1)) (packAll fields ++ rest) = some (values, rest) ∧
        List.Forall₂ (fun p value => p.1.GivesBack p.2 value) fields values) ∧
    (∀ (fs : List FieldFormat) (bytes : List UInt8), (∀ f ∈ fs, f.IsInteger) → bytes.length = totalSize fs →
      ∃ values, unpackAll? fs bytes = some (values, []) ∧ packAll (fs.zip values) = bytes) ∧
    ∀ (f : FieldFormat) (s s' : Scalar), f.IsInteger → s.isInteger → s'.isInteger →
      (f.pack s = f.pack s' ↔ s.toInt ≡ s'.toInt [ZMOD 2 ^ (8 * f.size)]) := by
  refine ⟨fun fields rest h => ?_, fun fs bytes hf hlength => ?_, fun _ _ _ hf hs hs' => pack_eq_iff_modEq hf hs hs'⟩
  · induction fields with
    | nil => exact ⟨[], rfl, .nil⟩
    | cons p more ih =>
      obtain ⟨value, hvalue, hgives⟩ := exists_unpack?_pack (h p List.mem_cons_self) (packAll more ++ rest)
      obtain ⟨values, hvalues, hall⟩ := ih fun q hq => h q (List.mem_cons_of_mem p hq)
      refine ⟨value :: values, ?_, .cons hgives hall⟩
      rw [packAll_cons, List.append_assoc, List.map_cons, unpackAll?, hvalue]
      simp [hvalues]
  · obtain ⟨values, hvalues⟩ := exists_unpackAll? hlength
    have hread := hvalues []
    rw [List.append_nil] at hread
    have hpacked := (packAll_of_unpackAll? hf hread).2
    exact ⟨values, hread, by rw [hpacked, List.append_nil]⟩

/-- Integers on both sides of the ranges of their fields, and minus zero. -/
theorem unpackAll?_packAll_mixed :
    let fields : List (FieldFormat × Scalar) :=
      [(⟨.big, .int16⟩, .uint 40000), (⟨.little, .float64⟩, .float ⟨0x8000000000000000⟩),
        (⟨.little, .uint32⟩, .int (-2)), (⟨.big, .uint64⟩, .int (-1))]
    let values : List Scalar := [.int (-25536), .float ⟨0x8000000000000000⟩, .uint 0xfffffffe, .uint 0xffffffffffffffff]
    (∀ p ∈ fields, p.1.Carries p.2) ∧ unpackAll? (fields.map (·.1)) (packAll fields ++ [7, 8]) = some (values, [7, 8]) ∧
      List.Forall₂ (fun p value => p.1.GivesBack p.2 value) fields values ∧
      (∃ read, unpackAll? [⟨.big, .int16⟩, ⟨.little, .uint8⟩] [0x80, 1, 255] = some (read, []) ∧
        packAll ([⟨.big, .int16⟩, ⟨.little, .uint8⟩].zip read) = [0x80, 1, 255]) ∧
      (pack ⟨.big, .int16⟩ (.uint 40000) = pack ⟨.big, .int16⟩ (.int (-25536)) ↔
        40000 ≡ -25536 [ZMOD 2 ^ (8 * 2)]) := by
  intro fields values
  have hcarries : ∀ p ∈ fields, p.1.Carries p.2 := by decide
  obtain ⟨hpacked, hunpacked, hsame⟩ := unpackAll?_packAll
  obtain ⟨found, hread, hall⟩ := hpacked fields [7, 8] hcarries
  have hvalues : unpackAll? (fields.map (·.1)) (packAll fields ++ [7, 8]) = some (values, [7, 8]) := by decide
  obtain rfl : found = values := congrArg Prod.fst (Option.some.inj (hread.symm.trans hvalues))
  exact ⟨hcarries, hread, hall, hunpacked _ _ (by decide) (by decide), hsame _ _ _ (by decide) rfl rfl⟩

end FieldFormat

end FieldStudy
