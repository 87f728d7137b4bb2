import Mathlib.Data.List.Basic
import Mathlib.Tactic.Common
import FieldStudy.Text.Utf8

/-!
# Reading back encoded texts

Decoding undoes encoding (`decode_encode`).  Each character is treated by the number of its bytes; what
the narrower ranges for second bytes keep out is never written, because a character is neither a surrogate
nor above the last code point.
-/

namespace FieldStudy.Utf8

/-! ## Bytes by their numbers -/

lemma width?_ofNat {n : Nat} (h : n < 256) :
    width? (UInt8.ofNat n) =
      if n < 0x80 then some 1
      else if 0xC2 ≤ n ∧ n ≤ 0xDF then some 2
      else if 0xE0 ≤ n ∧ n ≤ 0xEF then some 3
      else if 0xF0 ≤ n ∧ n ≤ 0xF4 then some 4
      else none := by
  simp [width?, UInt8.lt_iff_toNat_lt, UInt8.le_iff_toNat_le, Nat.mod_eq_of_lt h]

lemma isContinuation_ofNat {n : Nat} (h : n < 64) : isContinuation (UInt8.ofNat (n + 0x80)) = true := by
  have hn : (n + 128) % 256 = n + 128 := by omega
  simp [isContinuation, UInt8.le_iff_toNat_le, UInt8.toNat_add, hn]
  omega

lemma maySecond_ofNat {a b : Nat} (ha : a < 256) (hb : b < 64) (hE0 : a = 0xE0 → 0x20 ≤ b)
    (hED : a = 0xED → b < 0x20) (hF0 : a = 0xF0 → 0x10 ≤ b) (hF4 : a = 0xF4 → b < 0x10) :
    maySecond (UInt8.ofNat a) (UInt8.ofNat (b + 0x80)) = true := by
  have hb' : (b + 128) % 256 = b + 128 := by omega
  have hc := isContinuation_ofNat hb
  have heq (k : Nat) (hk : k < 256) : UInt8.ofNat a = UInt8.ofNat k ↔ a = k := by
    rw [← UInt8.toNat_inj]
    simp [Nat.mod_eq_of_lt ha, Nat.mod_eq_of_lt hk]
  unfold maySecond
  rw [show (0xE0 : UInt8) = UInt8.ofNat 0xE0 from rfl, show (0xED : UInt8) = UInt8.ofNat 0xED from rfl,
    show (0xF0 : UInt8) = UInt8.ofNat 0xF0 from rfl, show (0xF4 : UInt8) = UInt8.ofNat 0xF4 from rfl]
  simp only [heq _ (show 0xE0 < 256 by decide), heq _ (show 0xED < 256 by decide),
    heq _ (show 0xF0 < 256 by decide), heq _ (show 0xF4 < 256 by decide)]
  split_ifs with h₁ h₂ h₃ h₄
  · simp [UInt8.le_iff_toNat_le, UInt8.toNat_add, hb']; omega
  · simp [UInt8.le_iff_toNat_le, UInt8.toNat_add, hb']; omega
  · simp [UInt8.le_iff_toNat_le, UInt8.toNat_add, hb']; omega
  · simp [UInt8.le_iff_toNat_le, UInt8.toNat_add, hb']; omega
  · exact hc

/-! ## Reading by width -/

section Reading

variable {index : Nat} {a b c d : UInt8} {rest : List UInt8}

lemma decodeFrom_one (hw : width? a = some 1) :
    decodeFrom index (a :: rest) = (decodeFrom (index + 1) rest).map (Char.ofNat a.toNat :: ·) := by
  rw [decodeFrom.eq_def]
  simp only [hw]
  cases decodeFrom (index + 1) rest <;> rfl

lemma decodeFrom_two (hw : width? a = some 2) (hb : maySecond a b = true) :
    decodeFrom index (a :: b :: rest) =
      (decodeFrom (index + 2) rest).map (join (a.toNat % 32) [b] :: ·) := by
  rw [decodeFrom.eq_def]
  simp only [hw, hb, Bool.not_true, Bool.false_eq_true, if_false]
  cases decodeFrom (index + 2) rest <;> rfl

lemma decodeFrom_three (hw : width? a = some 3) (hb : maySecond a b = true)
    (hc : isContinuation c = true) :
    decodeFrom index (a :: b :: c :: rest) =
      (decodeFrom (index + 3) rest).map (join (a.toNat % 16) [b, c] :: ·) := by
  rw [decodeFrom.eq_def]
  simp only [hw, hb, hc, Bool.not_true, Bool.false_eq_true, if_false]
  cases decodeFrom (index + 3) rest <;> rfl

lemma decodeFrom_four (hw : width? a = some 4) (hb : maySecond a b = true)
    (hc : isContinuation c = true) (hd : isContinuation d = true) :
    decodeFrom index (a :: b :: c :: d :: rest) =
      (decodeFrom (index + 4) rest).map (join (a.toNat % 8) [b, c, d] :: ·) := by
  rw [decodeFrom.eq_def]
  simp only [hw, hb, hc, hd, Bool.not_true, Bool.false_eq_true, if_false]
  cases decodeFrom (index + 4) rest <;> rfl

end Reading

/-! ## Characters -/

lemma code_valid (c : Char) :
    c.val.toNat < 0xD800 ∨ 0xDFFF < c.val.toNat ∧ c.val.toNat < 0x110000 :=
  c.valid

lemma toNat_ofNat {n : Nat} (h : n < 256) : (UInt8.ofNat n).toNat = n := by
  simp [Nat.mod_eq_of_lt h]

lemma join_ofNat (start : Nat) {l : List Nat} (h : ∀ b ∈ l, b < 64) :
    join start (l.map fun b => UInt8.ofNat (b + 0x80)) =
      Char.ofNat (l.foldl (fun n b => n * 64 + b) start) := by
  have hfold (n : Nat) : (l.map fun b => UInt8.ofNat (b + 0x80)).foldl
      (fun n b => n * 64 + b.toNat % 64) n = l.foldl (fun n b => n * 64 + b) n := by
    induction l generalizing n with
    | nil => rfl
    | cons b rest ih =>
      have hb : b < 64 := h b (by simp)
      have hbyte : (b + 0x80) % 64 = b := by omega
      rw [List.map_cons, List.foldl_cons, List.foldl_cons, toNat_ofNat (by omega), hbyte]
      exact ih (fun x hx => h x (List.mem_cons_of_mem _ hx)) _
  rw [join, hfold]

/-- One encoded character at the front of the bytes is read as that character. -/
lemma decodeFrom_encodeChar {rest : List UInt8} {cs : List Char}
    (h : ∀ index, decodeFrom index rest = .ok cs) (index : Nat) (c : Char) :
    decodeFrom index (String.utf8EncodeChar c ++ rest) = .ok (c :: cs) := by
  have hvalid := code_valid c
  unfold String.utf8EncodeChar
  set v := c.val.toNat with hv
  have hchar {n : Nat} (hn : n = v) : Char.ofNat n = c := by
    rw [hn, hv]
    exact Char.ofNat_toNat c
  by_cases h₁ : v ≤ 0x7f
  · simp only [if_pos h₁, List.cons_append, List.nil_append]
    have hw : width? (UInt8.ofNat v) = some 1 := by
      rw [width?_ofNat (by omega), if_pos (by omega)]
    rw [decodeFrom_one hw, h, toNat_ofNat (by omega), hchar rfl]
    rfl
  by_cases h₂ : v ≤ 0x7ff
  · simp only [if_neg h₁, if_pos h₂, List.cons_append, List.nil_append]
    have hw : width? (UInt8.ofNat (v / 64 % 32 + 0xC0)) = some 2 := by
      rw [width?_ofNat (by omega), if_neg (by omega), if_pos (by omega)]
    have hs : maySecond (UInt8.ofNat (v / 64 % 32 + 0xC0)) (UInt8.ofNat (v % 64 + 0x80)) = true :=
      maySecond_ofNat (by omega) (by omega) (by omega) (by omega) (by omega) (by omega)
    have hj : join ((v / 64 % 32 + 0xC0) % 32) [UInt8.ofNat (v % 64 + 0x80)] = c :=
      (join_ofNat _ (l := [v % 64]) (by simp; omega)).trans (hchar (by simp; omega))
    rw [decodeFrom_two hw hs, h, toNat_ofNat (by omega), hj]
    rfl
  by_cases h₃ : v ≤ 0xffff
  · simp only [if_neg h₁, if_neg h₂, if_pos h₃, List.cons_append, List.nil_append]
    have hw : width? (UInt8.ofNat (v / 4096 % 16 + 0xE0)) = some 3 := by
      rw [width?_ofNat (by omega), if_neg (by omega), if_neg (by omega), if_pos (by omega)]
    have hs : maySecond (UInt8.ofNat (v / 4096 % 16 + 0xE0)) (UInt8.ofNat (v / 64 % 64 + 0x80)) = true :=
      maySecond_ofNat (by omega) (by omega) (by omega) (by omega) (by omega) (by omega)
    have hj : join ((v / 4096 % 16 + 0xE0) % 16)
        [UInt8.ofNat (v / 64 % 64 + 0x80), UInt8.ofNat (v % 64 + 0x80)] = c :=
      (join_ofNat _ (l := [v / 64 % 64, v % 64]) (by simp; omega)).trans (hchar (by simp; omega))
    rw [decodeFrom_three hw hs (isContinuation_ofNat (by omega)), h, toNat_ofNat (by omega), hj]
    rfl
  · simp only [if_neg h₁, if_neg h₂, if_neg h₃, List.cons_append, List.nil_append]
    have hw : width? (UInt8.ofNat (v / 262144 % 8 + 0xF0)) = some 4 := by
      rw [width?_ofNat (by omega), if_neg (by omega), if_neg (by omega), if_neg (by omega),
        if_pos (by omega)]
    have hs : maySecond (UInt8.ofNat (v / 262144 % 8 + 0xF0)) (UInt8.ofNat (v / 4096 % 64 + 0x80)) =
        true :=
      maySecond_ofNat (by omega) (by omega) (by omega) (by omega) (by omega) (by omega)
    have hj : join ((v / 262144 % 8 + 0xF0) % 8) [UInt8.ofNat (v / 4096 % 64 + 0x80),
        UInt8.ofNat (v / 64 % 64 + 0x80), UInt8.ofNat (v % 64 + 0x80)] = c :=
      (join_ofNat _ (l := [v / 4096 % 64, v / 64 % 64, v % 64]) (by simp; omega)).trans
        (hchar (by simp; omega))
    rw [decodeFrom_four hw hs (isContinuation_ofNat (by omega)) (isContinuation_ofNat (by omega)), h,
      toNat_ofNat (by omega), hj]
    rfl

lemma decodeFrom_encode (index : Nat) (cs : List Char) : decodeFrom index (encode cs) = .ok cs := by
  induction cs generalizing index with
  | nil => rfl
  | cons c rest ih => exact decodeFrom_encodeChar ih index c

/-- Decoding undoes encoding. -/
lemma decode_encode (cs : List Char) : decode (encode cs) = .ok cs := decodeFrom_encode 0 cs

/-- A byte below the continuation bytes stands for the character of its own number. -/
lemma mem_of_mem_encode {cs : List Char} {b : UInt8} (h : b ∈ encode cs) (hb : b.toNat < 0x80) :
    Char.ofNat b.toNat ∈ cs := by
  obtain ⟨c, hc, hbc⟩ := List.mem_flatMap.1 h
  have hcode : b.toNat = c.val.toNat := by
    unfold String.utf8EncodeChar at hbc
    simp only at hbc
    split_ifs at hbc <;>
      simp only [List.mem_cons, List.not_mem_nil, or_false] at hbc
    · rw [hbc, toNat_ofNat (by omega)]
    · exfalso
      rcases hbc with rfl | rfl <;> rw [toNat_ofNat (by omega)] at hb <;> omega
    · exfalso
      rcases hbc with rfl | rfl | rfl <;> rw [toNat_ofNat (by omega)] at hb <;> omega
    · exfalso
      rcases hbc with rfl | rfl | rfl | rfl <;> rw [toNat_ofNat (by omega)] at hb <;> omega
  have : Char.ofNat b.toNat = c := by
    rw [hcode]
    exact Char.ofNat_toNat c
  rwa [this]

end FieldStudy.Utf8
