import Mathlib.Algebra.Group.Int.Defs
import Mathlib.Algebra.Group.Nat.Defs
import Mathlib.Tactic.Common
import FieldStudy.Number.Binary

/-!
# Numbers of 32 bits survive as ones of 64

A number of 32 bits is widened to one of 64 bits when it is taken over and rounded back when it is written.
Both steps are exact, so the number comes back bit by bit (`Single.toSingle_toDouble`); a value that is not a number
comes back as a quiet one with the same digits.
-/

namespace FieldStudy

namespace BinaryFormat

/-! ## The two formats in numbers -/

lemma meaning_single (bits : Nat) :
    single.meaning bits =
      if bits / 2 ^ 23 % 2 ^ 8 = 255 then
        if bits % 2 ^ 23 = 0 then .infinite (bits / 2 ^ 31 % 2 = 1) else .nan
      else if bits / 2 ^ 23 % 2 ^ 8 = 0 then .finite (bits / 2 ^ 31 % 2 = 1) (bits % 2 ^ 23) (-149)
      else .finite (bits / 2 ^ 31 % 2 = 1) (bits % 2 ^ 23 + 2 ^ 23)
        (-149 + ((bits / 2 ^ 23 % 2 ^ 8 : Nat) - 1)) := rfl

lemma meaning_double (bits : Nat) :
    double.meaning bits =
      if bits / 2 ^ 52 % 2 ^ 11 = 2047 then
        if bits % 2 ^ 52 = 0 then .infinite (bits / 2 ^ 63 % 2 = 1) else .nan
      else if bits / 2 ^ 52 % 2 ^ 11 = 0 then .finite (bits / 2 ^ 63 % 2 = 1) (bits % 2 ^ 52) (-1074)
      else .finite (bits / 2 ^ 63 % 2 = 1) (bits % 2 ^ 52 + 2 ^ 52)
        (-1074 + ((bits / 2 ^ 52 % 2 ^ 11 : Nat) - 1)) := rfl

/-! ## Rounding what needs no rounding -/

lemma log2_mul_two_pow {m : Nat} (hm : m ≠ 0) (k : Nat) : (m * 2 ^ k).log2 = m.log2 + k := by
  have hne : m * 2 ^ k ≠ 0 := Nat.mul_ne_zero hm (Nat.ne_of_gt (Nat.two_pow_pos k))
  rw [Nat.log2_eq_iff hne]
  refine ⟨?_, ?_⟩
  · rw [Nat.pow_add]
    exact Nat.mul_le_mul_right _ (Nat.log2_self_le hm)
  · rw [show m.log2 + k + 1 = m.log2 + 1 + k by omega, Nat.pow_add]
    exact Nat.mul_lt_mul_of_pos_right Nat.lt_log2_self (Nat.two_pow_pos k)

lemma shiftToEven_mul_two_pow (m : Nat) {s k : Nat} (h : s ≤ k) :
    shiftToEven (m * 2 ^ k) s = m * 2 ^ (k - s) := by
  have hpos : 0 < 2 ^ s := Nat.two_pow_pos s
  have hsplit : m * 2 ^ k = m * 2 ^ (k - s) * 2 ^ s := by
    rw [Nat.mul_assoc, ← Nat.pow_add, Nat.sub_add_cancel h]
  have hquotient : m * 2 ^ k / Nat.pow 2 s = m * 2 ^ (k - s) := by
    rw [hsplit]
    exact Nat.mul_div_cancel _ hpos
  have hremainder : m * 2 ^ k % Nat.pow 2 s = 0 := by
    rw [hsplit]
    exact Nat.mul_mod_left _ _
  rw [shiftToEven, hquotient, hremainder]
  exact if_pos hpos

variable {f : BinaryFormat} {negative : Bool} {m k : Nat} {w : Int}

/-- The bits of a number whose last place is that of the format. -/
def exact (f : BinaryFormat) (negative : Bool) (significand : Nat) (w : Int) : Nat :=
  let rest := if significand < 2 ^ f.fraction then significand
    else (w - f.lowest).toNat * 2 ^ f.fraction + significand
  if f.special * 2 ^ f.fraction ≤ rest then f.infinity negative else f.assemble negative rest

lemma nearest_zero (f : BinaryFormat) (negative : Bool) (q : Int) :
    f.nearest negative 0 q = f.assemble negative 0 := if_pos rfl

lemma exact_low {significand : Nat} (hlow : significand < 2 ^ f.fraction)
    (hlt : significand < f.special * 2 ^ f.fraction) :
    f.exact negative significand w = f.assemble negative significand := by
  rw [exact, if_pos hlow]
  exact if_neg (Nat.not_le_of_lt hlt)

lemma exact_normal {significand rest : Nat} (hnormal : 2 ^ f.fraction ≤ significand)
    (hrest : (w - f.lowest).toNat * 2 ^ f.fraction + significand = rest)
    (hlt : rest < f.special * 2 ^ f.fraction) : f.exact negative significand w = f.assemble negative rest := by
  rw [exact, if_neg (Nat.not_lt_of_le hnormal), hrest]
  exact if_neg (Nat.not_le_of_lt hlt)

/-- A number that ends at or above the last place that is wanted is not rounded. -/
lemma nearest_exact (hm : m ≠ 0) (hw : max ((m.log2 : Int) + (w + k) - f.fraction) f.lowest = w) :
    f.nearest negative m (w + k) = f.exact negative (m * 2 ^ k) w := by
  rw [nearest, if_neg hm, hw]
  have hlow : ¬ w + (k : Int) < w := by omega
  have hk : (w + (k : Int) - w).toNat = k := by omega
  dsimp only
  rw [if_neg hlow, hk]
  rfl

/-- Further places behind the last one make no difference. -/
lemma nearest_shift (hm : m ≠ 0) (hw : max ((m.log2 : Int) + (w + k) - f.fraction) f.lowest = w) (j : Nat) :
    f.nearest negative (m * 2 ^ j) (w + k - j) = f.nearest negative m (w + k) := by
  have hmj : m * 2 ^ j ≠ 0 := Nat.mul_ne_zero hm (Nat.ne_of_gt (Nat.two_pow_pos j))
  have hlog := log2_mul_two_pow hm j
  have hwj : max (((m * 2 ^ j).log2 : Int) + (w + k - j) - f.fraction) f.lowest = w := by
    rw [hlog]
    omega
  rw [nearest_exact hm hw]
  by_cases hjk : j ≤ k
  · have hq : w + (k : Int) - j = w + (k - j : Nat) := by omega
    have hsame : m * 2 ^ j * 2 ^ (k - j) = m * 2 ^ k := by
      rw [Nat.mul_assoc, ← Nat.pow_add, Nat.add_sub_cancel' hjk]
    rw [hq] at hwj ⊢
    rw [nearest_exact hmj hwj, hsame]
  · have hlow : w + (k : Int) - j < w := by omega
    have hs : (w - (w + (k : Int) - j)).toNat = j - k := by omega
    have hsame : shiftToEven (m * 2 ^ j) (j - k) = m * 2 ^ k := by
      rw [shiftToEven_mul_two_pow m (Nat.sub_le j k), show j - (j - k) = k by omega]
    rw [nearest, if_neg hmj, hwj]
    dsimp only
    rw [if_pos hlow, hs, hsame]
    rfl

/-! ## Numbers of 32 bits -/

lemma assemble_single (bits rest : Nat) (h : bits < 2 ^ 32) :
    single.assemble (bits / 2 ^ 31 % 2 = 1) rest = bits / 2 ^ 31 * 2 ^ 31 + rest := by
  have hassemble : single.assemble (bits / 2 ^ 31 % 2 = 1) rest =
      (if decide (bits / 2 ^ 31 % 2 = 1) then 2 ^ 31 else 0) + rest := rfl
  rw [hassemble]
  split <;> simp_all <;> omega

/-- A finite number of 32 bits by its two kinds: below the normal ones, or with a leading one that is not stored. -/
lemma meaning_single_finite {bits m : Nat} {negative : Bool} {q : Int}
    (h : single.meaning bits = .finite negative m q) :
    negative = decide (bits / 2 ^ 31 % 2 = 1) ∧
      ((bits / 2 ^ 23 % 2 ^ 8 = 0 ∧ m = bits % 2 ^ 23 ∧ q = -149) ∨
        (0 < bits / 2 ^ 23 % 2 ^ 8 ∧ bits / 2 ^ 23 % 2 ^ 8 < 255 ∧ m = bits % 2 ^ 23 + 2 ^ 23 ∧
          q = (bits / 2 ^ 23 % 2 ^ 8 : Nat) - 150)) := by
  rw [meaning_single] at h
  split at h
  · split at h <;> cases h
  · split at h
    · next hzero =>
      cases h
      exact ⟨rfl, .inl ⟨hzero, rfl, rfl⟩⟩
    · next hspecial hzero =>
      cases h
      refine ⟨rfl, .inr ⟨by omega, by omega, rfl, by omega⟩⟩

/-- The last place of a number of 32 bits that needs no rounding. -/
lemma wanted_single {m : Nat} {q w : Int} (h : max ((m.log2 : Int) + q - 23) (-149) = w) :
    max ((m.log2 : Int) + q - single.fraction) single.lowest = w := h

/-- The bits of a finite number of 32 bits are those that its value is rounded to. -/
lemma nearest_meaning_single {bits m : Nat} {negative : Bool} {q : Int} (hbits : bits < 2 ^ 32)
    (h : single.meaning bits = .finite negative m q) : single.nearest negative m q = bits := by
  obtain ⟨rfl, ⟨hzero, rfl, rfl⟩ | ⟨hpos, hlt, rfl, rfl⟩⟩ := meaning_single_finite h
  · by_cases hm : bits % 2 ^ 23 = 0
    · rw [nearest, if_pos hm, assemble_single bits 0 hbits]
      omega
    · have hlog : (bits % 2 ^ 23).log2 < 23 := (Nat.log2_lt hm).mpr (Nat.mod_lt _ (Nat.two_pow_pos 23))
      have hw : max (((bits % 2 ^ 23).log2 : Int) + (-149 + (0 : Nat)) - 23) (-149) = -149 := by omega
      have hlow : bits % 2 ^ 23 < 2 ^ single.fraction := Nat.mod_lt _ (Nat.two_pow_pos 23)
      have hlt : bits % 2 ^ 23 < single.special * 2 ^ single.fraction := by
        show bits % 2 ^ 23 < 255 * 2 ^ 23
        omega
      rw [show (-149 : Int) = -149 + (0 : Nat) by omega, nearest_exact hm (wanted_single hw), Nat.pow_zero,
        Nat.mul_one, exact_low hlow hlt, assemble_single bits _ hbits]
      omega
  · have hm : bits % 2 ^ 23 + 2 ^ 23 ≠ 0 := by omega
    have hlog : (bits % 2 ^ 23 + 2 ^ 23).log2 = 23 := by
      rw [Nat.log2_eq_iff hm]
      omega
    have hw : max (((bits % 2 ^ 23 + 2 ^ 23).log2 : Int) + ((bits / 2 ^ 23 % 2 ^ 8 : Nat) - 150 + (0 : Nat)) - 23)
        (-149) = (bits / 2 ^ 23 % 2 ^ 8 : Nat) - 150 := by
      rw [hlog]
      omega
    have hnormal : 2 ^ single.fraction ≤ bits % 2 ^ 23 + 2 ^ 23 := Nat.le_add_left _ _
    have hrest : (((bits / 2 ^ 23 % 2 ^ 8 : Nat) - 150 : Int) - single.lowest).toNat * 2 ^ single.fraction +
        (bits % 2 ^ 23 + 2 ^ 23) = bits % 2 ^ 31 := by
      show (((bits / 2 ^ 23 % 2 ^ 8 : Nat) - 150 : Int) - -149).toNat * 2 ^ 23 + (bits % 2 ^ 23 + 2 ^ 23) = _
      omega
    have hspecial : bits % 2 ^ 31 < single.special * 2 ^ single.fraction := by
      show bits % 2 ^ 31 < 255 * 2 ^ 23
      omega
    rw [show ((bits / 2 ^ 23 % 2 ^ 8 : Nat) - 150 : Int) = (bits / 2 ^ 23 % 2 ^ 8 : Nat) - 150 + (0 : Nat) by omega,
      nearest_exact hm (wanted_single hw), Nat.pow_zero, Nat.mul_one, exact_normal hnormal hrest hspecial,
      assemble_single bits _ hbits]
    omega

/-! ## Numbers of 64 bits -/

lemma assemble_double (negative : Bool) (rest : Nat) :
    double.assemble negative rest = (if negative then 2 ^ 63 else 0) + rest := rfl

/-- A normal number of 64 bits by its significand and its place. -/
lemma meaning_assemble_double (negative : Bool) {place significand : Nat} (hlow : 2 ^ 52 ≤ significand)
    (hhigh : significand < 2 ^ 53) (hplace : place < 2046) :
    double.meaning (double.assemble negative (place * 2 ^ 52 + significand)) =
      .finite negative significand (-1074 + place) := by
  have hsign : decide (double.assemble negative (place * 2 ^ 52 + significand) / 2 ^ 63 % 2 = 1) = negative := by
    rw [assemble_double]
    cases negative <;> simp <;> omega
  have hfield : double.assemble negative (place * 2 ^ 52 + significand) / 2 ^ 52 % 2 ^ 11 = place + 1 := by
    rw [assemble_double]
    cases negative <;> simp <;> omega
  have hfraction : double.assemble negative (place * 2 ^ 52 + significand) % 2 ^ 52 + 2 ^ 52 = significand := by
    rw [assemble_double]
    cases negative <;> simp <;> omega
  rw [meaning_double, hfield, hfraction, if_neg (by omega), if_neg (by omega), hsign]
  congr 1
  omega

/-- A number of 32 bits as one of 64. -/
lemma meaning_nearest_double {m : Nat} {q : Int} (negative : Bool) (hm : m ≠ 0) (hlog : m.log2 ≤ 23)
    (hq : -149 ≤ q) (hq' : q ≤ 104) :
    double.nearest negative m q < 2 ^ 64 ∧ double.meaning (double.nearest negative m q) =
      .finite negative (m * 2 ^ (52 - m.log2)) (q - (52 - m.log2 : Nat)) := by
  obtain ⟨w, hw⟩ : ∃ w : Int, w = q - (52 - m.log2 : Nat) := ⟨_, rfl⟩
  have hqw : q = w + (52 - m.log2 : Nat) := by omega
  have hwanted : max ((m.log2 : Int) + (w + (52 - m.log2 : Nat)) - double.fraction) double.lowest = w := by
    show max ((m.log2 : Int) + (w + (52 - m.log2 : Nat)) - (52 : Nat)) (-1074) = w
    omega
  have hfull : (m * 2 ^ (52 - m.log2)).log2 = 52 := by
    rw [log2_mul_two_pow hm]
    omega
  have hne : m * 2 ^ (52 - m.log2) ≠ 0 := Nat.mul_ne_zero hm (Nat.ne_of_gt (Nat.two_pow_pos _))
  obtain ⟨hlow, hhigh⟩ := (Nat.log2_eq_iff hne).mp hfull
  have hnearest : double.nearest negative m q =
      double.assemble negative ((w + 1074).toNat * 2 ^ 52 + m * 2 ^ (52 - m.log2)) := by
    have hrest : (w - double.lowest).toNat * 2 ^ double.fraction + m * 2 ^ (52 - m.log2) =
        (w + 1074).toNat * 2 ^ 52 + m * 2 ^ (52 - m.log2) := by
      show (w - -1074).toNat * 2 ^ 52 + m * 2 ^ (52 - m.log2) = _
      rw [Int.sub_neg]
    have hspecial : (w + 1074).toNat * 2 ^ 52 + m * 2 ^ (52 - m.log2) < double.special * 2 ^ double.fraction := by
      show _ < 2047 * 2 ^ 52
      omega
    rw [hqw, nearest_exact hm hwanted, exact_normal hlow hrest hspecial]
  rw [hnearest, ← hw]
  refine ⟨?_, ?_⟩
  · rw [assemble_double]
    split <;> omega
  · rw [meaning_assemble_double negative hlow hhigh (by omega)]
    congr 1
    omega

end BinaryFormat

/-! ## There and back -/

namespace Single

/-- The number with the leading stored digit set if it is not a number; other numbers stay as they are. -/
def quiet (x : Single) : Single :=
  if x.meaning = .nan then ⟨x.bits ||| 0x400000⟩ else x

lemma eq_of_toNat {x : Single} {n : Nat} (h : x.bits.toNat = n) : (⟨UInt32.ofNat n⟩ : Single) = x := by
  subst h
  simp

lemma toNat_ofNatBits {n : Nat} (h : n < 2 ^ 64) : (Double.ofNatBits n).bits.toNat = n :=
  UInt64.toNat_ofNat_of_lt h

lemma toSingle_toDouble_finite {x : Single} {negative : Bool} {m : Nat} {q : Int}
    (h : x.meaning = .finite negative m q) : x.toDouble.toSingle = x := by
  have hbits : x.bits.toNat < 2 ^ 32 := x.bits.toNat_lt
  have hback : BinaryFormat.single.nearest negative m q = x.bits.toNat :=
    BinaryFormat.nearest_meaning_single hbits h
  have hwide : x.toDouble = .ofNatBits (BinaryFormat.double.nearest negative m q) := by
    simp [toDouble, h, Double.nearest]
  by_cases hm : m = 0
  · subst hm
    have hzero : (Double.ofNatBits (BinaryFormat.double.assemble negative 0)).meaning =
        .finite negative 0 (-1074) := by
      cases negative <;> decide
    rw [BinaryFormat.nearest_zero] at hwide hback
    rw [hwide, Double.toSingle, hzero]
    dsimp only
    rw [BinaryFormat.nearest_zero]
    exact eq_of_toNat hback.symm
  · obtain ⟨hlog, hlow, hhigh⟩ : m.log2 ≤ 23 ∧ -149 ≤ q ∧ q ≤ 104 := by
      have hlt : m < 2 ^ 24 := by
        obtain ⟨-, ⟨-, rfl, -⟩ | ⟨-, -, rfl, -⟩⟩ := BinaryFormat.meaning_single_finite h <;> omega
      have hlog := (Nat.log2_lt hm).mpr hlt
      obtain ⟨-, ⟨-, -, rfl⟩ | ⟨hpos, hfield, -, rfl⟩⟩ := BinaryFormat.meaning_single_finite h <;> omega
    obtain ⟨hrange, hmeaning⟩ := BinaryFormat.meaning_nearest_double negative hm hlog hlow hhigh
    have hdouble : (Double.ofNatBits (BinaryFormat.double.nearest negative m q)).meaning =
        .finite negative (m * 2 ^ (52 - m.log2)) (q - (52 - m.log2 : Nat)) := by
      rw [Double.meaning, toNat_ofNatBits hrange, hmeaning]
    obtain ⟨w, hw⟩ : ∃ w : Int, max ((m.log2 : Int) + q - 23) (-149) = w := ⟨_, rfl⟩
    have hq : q = w + ((q - w).toNat : Nat) := by omega
    have hwanted : max ((m.log2 : Int) + (w + ((q - w).toNat : Nat)) - 23) (-149) = w := by rw [← hq, hw]
    have hshift : BinaryFormat.single.nearest negative (m * 2 ^ (52 - m.log2)) (q - (52 - m.log2 : Nat)) =
        BinaryFormat.single.nearest negative m q := by
      rw [hq]
      exact BinaryFormat.nearest_shift hm (BinaryFormat.wanted_single hwanted) (52 - m.log2)
    rw [hwide, Double.toSingle, hdouble]
    exact eq_of_toNat (hshift.trans hback).symm

/-- Setting the leading stored digit of 23 leaves the bits in front of them. -/
lemma or_quiet (n : Nat) : n ||| 2 ^ 22 = n / 2 ^ 23 * 2 ^ 23 + (n % 2 ^ 23 ||| 2 ^ 22) := by
  have hlow : n % 2 ^ 23 < 2 ^ 23 := Nat.mod_lt _ (Nat.two_pow_pos 23)
  have hor : n % 2 ^ 23 ||| 2 ^ 22 < 2 ^ 23 := Nat.or_lt_two_pow hlow (by decide)
  have hsplit : n = 2 ^ 23 * (n / 2 ^ 23) ||| n % 2 ^ 23 := by
    rw [← Nat.two_pow_add_eq_or_of_lt hlow]
    exact (Nat.div_add_mod n (2 ^ 23)).symm
  rw [Nat.mul_comm (n / 2 ^ 23), Nat.two_pow_add_eq_or_of_lt hor, ← Nat.or_assoc, ← hsplit]

lemma infinity_single (bits : Nat) (h : bits < 2 ^ 32) (hfield : bits / 2 ^ 23 % 2 ^ 8 = 255) :
    BinaryFormat.single.infinity (bits / 2 ^ 31 % 2 = 1) = bits / 2 ^ 23 * 2 ^ 23 := by
  have hinfinity (negative : Bool) :
      BinaryFormat.single.infinity negative = BinaryFormat.single.assemble negative (255 * 2 ^ 23) := rfl
  rw [hinfinity, BinaryFormat.assemble_single bits _ h]
  omega

lemma toSingle_toDouble_infinite {x : Single} {negative : Bool} (h : x.meaning = .infinite negative) :
    x.toDouble.toSingle = x := by
  have hbits : x.bits.toNat < 2 ^ 32 := x.bits.toNat_lt
  have hwide : x.toDouble = .ofNatBits (BinaryFormat.double.infinity negative) := by simp [toDouble, h]
  have hinfinite : (Double.ofNatBits (BinaryFormat.double.infinity negative)).meaning = .infinite negative := by
    cases negative <;> decide
  obtain ⟨rfl, hfield, hzero⟩ : decide (x.bits.toNat / 2 ^ 31 % 2 = 1) = negative ∧
      x.bits.toNat / 2 ^ 23 % 2 ^ 8 = 255 ∧ x.bits.toNat % 2 ^ 23 = 0 := by
    rw [meaning, BinaryFormat.meaning_single] at h
    split at h
    · next hfield =>
      split at h
      · next hzero =>
        exact ⟨BinaryMeaning.infinite.inj h, hfield, hzero⟩
      · cases h
    · split at h <;> cases h
  rw [hwide, Double.toSingle, hinfinite]
  dsimp only
  rw [infinity_single _ hbits hfield]
  exact eq_of_toNat (by omega)

lemma toSingle_toDouble_nan {x : Single} (h : x.meaning = .nan) :
    x.toDouble.toSingle = ⟨x.bits ||| 0x400000⟩ := by
  have hbits : x.bits.toNat < 2 ^ 32 := x.bits.toNat_lt
  have hfield : x.bits.toNat / 2 ^ 23 % 2 ^ 8 = 255 := by
    rw [meaning, BinaryFormat.meaning_single] at h
    split at h
    · assumption
    · split at h <;> cases h
  obtain ⟨digits, hdigits⟩ : ∃ digits, digits = x.bits.toNat % 2 ^ 23 ||| 2 ^ 22 := ⟨_, rfl⟩
  have hlt : digits < 2 ^ 23 := hdigits ▸ Nat.or_lt_two_pow (Nat.mod_lt _ (Nat.two_pow_pos 23)) (by decide)
  have hge : 2 ^ 22 ≤ digits := hdigits ▸ Nat.right_le_or
  obtain ⟨sign, hsign⟩ : ∃ sign : Bool, sign = decide (x.bits.toNat / 2 ^ 31 % 2 = 1) := ⟨_, rfl⟩
  have hwide : x.toDouble = .ofNatBits (BinaryFormat.double.infinity sign + digits * 2 ^ 29) := by
    have hshift : x.bits.toNat % 2 ^ 23 * 2 ^ 29 ||| 2 ^ 51 = digits * 2 ^ 29 := by
      have hdistrib := Nat.shiftLeft_or_distrib (i := 29) (a := x.bits.toNat % 2 ^ 23) (b := 2 ^ 22)
      rw [Nat.shiftLeft_eq, Nat.shiftLeft_eq, Nat.shiftLeft_eq, ← hdigits] at hdistrib
      exact hdistrib.symm
    rw [toDouble, h]
    dsimp only
    rw [← hshift, hsign]
    rfl
  have hinfinity : BinaryFormat.double.infinity sign = (if sign then 2 ^ 63 else 0) + 2047 * 2 ^ 52 := rfl
  have hrange : BinaryFormat.double.infinity sign + digits * 2 ^ 29 < 2 ^ 64 := by
    rw [hinfinity]
    split <;> omega
  have hmeaning : (Double.ofNatBits (BinaryFormat.double.infinity sign + digits * 2 ^ 29)).meaning = .nan := by
    rw [Double.meaning, toNat_ofNatBits hrange, BinaryFormat.meaning_double, hinfinity]
    cases sign
    · rw [if_pos (by simp; omega), if_neg (by simp; omega)]
    · rw [if_pos (by simp; omega), if_neg (by simp; omega)]
  have hback : BinaryFormat.double.fractionField (BinaryFormat.double.infinity sign + digits * 2 ^ 29) / 2 ^ 29 =
      digits := by
    show (BinaryFormat.double.infinity sign + digits * 2 ^ 29) % 2 ^ 52 / 2 ^ 29 = digits
    rw [hinfinity]
    split <;> omega
  have hnegative : BinaryFormat.double.isNegative (BinaryFormat.double.infinity sign + digits * 2 ^ 29) = sign := by
    show decide ((BinaryFormat.double.infinity sign + digits * 2 ^ 29) / 2 ^ 63 % 2 = 1) = sign
    rw [hinfinity]
    cases sign <;> simp <;> omega
  have hdouble : (x.bits ||| 0x400000).toNat = x.bits.toNat / 2 ^ 23 * 2 ^ 23 + digits := by
    rw [UInt32.toNat_or, hdigits]
    exact or_quiet x.bits.toNat
  have hsame : digits ||| 2 ^ 22 = digits := by rw [hdigits, Nat.or_assoc, Nat.or_self]
  rw [hwide, Double.toSingle, hmeaning]
  dsimp only
  rw [toNat_ofNatBits hrange, hnegative]
  have hfraction : BinaryFormat.double.fractionField (BinaryFormat.double.infinity sign + digits * 2 ^ 29) /
      Nat.pow 2 29 ||| Nat.pow 2 22 = digits := (congrArg (· ||| 2 ^ 22) hback).trans hsame
  rw [hfraction, hsign, infinity_single _ hbits hfield, ← hdouble]
  exact eq_of_toNat rfl

/-- A number of 32 bits comes back from one of 64, a value that is not a number as a quiet one. -/
theorem toSingle_toDouble (x : Single) : x.toDouble.toSingle = x.quiet := by
  cases h : x.meaning with
  | finite negative m q => simp [quiet, h, toSingle_toDouble_finite h]
  | infinite negative => simp [quiet, h, toSingle_toDouble_infinite h]
  | nan => simp [quiet, h, toSingle_toDouble_nan h]

end Single

end FieldStudy
