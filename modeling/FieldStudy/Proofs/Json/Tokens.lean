import Mathlib.Data.List.TakeWhile
import Mathlib.Tactic.Common
import FieldStudy.Json.Printer
import FieldStudy.Json.Source

/-!
# Reading back tokens

Strings and integers are read back from their texts, and a numeral that is read up to the end of a text is read the
same way where the text goes on, as long as it goes on with none of its own characters (`Source.Ends`).  What doubles
come to depends on their digits: `Json.readsBack` says which are read back.
-/

namespace FieldStudy

namespace Source

variable {cs rest after : List Char}

/-! ## White space -/

lemma skipSpace_of_not_isSpace {c : Char} (h : isSpace c = false) (cs : List Char) : skipSpace (c :: cs) = c :: cs := by
  simp [skipSpace, h]

lemma skipSpace_lineBreak (level : Nat) (cs : List Char) : skipSpace (Json.lineBreak level ++ cs) = skipSpace cs := by
  have hblanks (n : Nat) : skipSpace (List.replicate n ' ' ++ cs) = skipSpace cs := by
    induction n with
    | zero => rfl
    | succ n ih => exact ih
  exact hblanks (2 * level)

/-! ## Numerals -/

/-- A text that does not go on with the numeral before it. -/
def Ends (rest : List Char) : Prop := ∀ c ∈ rest.head?, c.isDigit = false ∧ c ≠ '.' ∧ c ≠ 'e' ∧ c ≠ 'E'

lemma ends_nil : Ends [] := by simp [Ends]

lemma readDigits_append (hrest : Ends rest) (cs : List Char) :
    readDigits (cs ++ rest) = ((readDigits cs).1, (readDigits cs).2 ++ rest) := by
  induction cs with
  | nil =>
    cases rest with
    | nil => rfl
    | cons c rest => simp [readDigits, (hrest c rfl).1]
  | cons c cs ih =>
    cases hc : c.isDigit with
    | false => simp [readDigits, hc]
    | true =>
      simp only [readDigits, Prod.mk.injEq] at ih
      simp [readDigits, hc, ih.1, ih.2]

lemma readWhole_append (hrest : Ends rest) {ds : List Nat} (h : readWhole cs = some (ds, after)) :
    readWhole (cs ++ rest) = some (ds, after ++ rest) := by
  rw [readWhole] at h ⊢
  rw [readDigits_append hrest]
  generalize readDigits cs = found at h ⊢
  obtain ⟨ds', after'⟩ := found
  split at h
  · cases h
  · cases h
  · next hnone hzero =>
    obtain ⟨rfl, rfl⟩ := Prod.mk.inj (Option.some.inj h)
    split
    · next heq => exact (hnone after' (congrArg (·, after') (Prod.mk.inj heq).1)).elim
    · next heq => exact (hzero _ _ after' (congrArg (·, after') (Prod.mk.inj heq).1)).elim
    · rfl

lemma readFraction_append (hrest : Ends rest) {ds : List Nat} (h : readFraction cs = some (ds, after)) :
    readFraction (cs ++ rest) = some (ds, after ++ rest) := by
  cases cs with
  | nil =>
    obtain ⟨rfl, rfl⟩ := Prod.mk.inj (Option.some.inj h)
    cases rest with
    | nil => rfl
    | cons c rest =>
      obtain ⟨-, hpoint, -⟩ := hrest c rfl
      simp [readFraction, hpoint]
  | cons c cs =>
    by_cases hpoint : c = '.'
    · subst hpoint
      rw [List.cons_append, readFraction, readDigits_append hrest]
      rw [readFraction] at h
      generalize readDigits cs = found at h ⊢
      obtain ⟨ds', after'⟩ := found
      cases ds' with
      | nil => cases h
      | cons d ds' =>
        obtain ⟨rfl, rfl⟩ := Prod.mk.inj (Option.some.inj h)
        rfl
    · have hnone (cs : List Char) : readFraction (c :: cs) = some ([], c :: cs) := by simp [readFraction, hpoint]
      rw [hnone] at h
      obtain ⟨rfl, rfl⟩ := Prod.mk.inj (Option.some.inj h)
      exact hnone _

/-- The digits of an exponent behind its sign. -/
def exponentDigits (negative : Bool) (cs : List Char) : Option (Option (Bool × List Nat) × List Char) :=
  match readDigits cs with
  | ([], _) => none
  | (digits, after) => some (some (negative, digits), after)

lemma exponentDigits_append (hrest : Ends rest) {negative : Bool} {e : Option (Bool × List Nat)}
    (h : exponentDigits negative cs = some (e, after)) :
    exponentDigits negative (cs ++ rest) = some (e, after ++ rest) := by
  rw [exponentDigits, readDigits_append hrest]
  rw [exponentDigits] at h
  generalize readDigits cs = found at h ⊢
  obtain ⟨ds, after'⟩ := found
  cases ds with
  | nil => cases h
  | cons d ds =>
    obtain ⟨rfl, rfl⟩ := Prod.mk.inj (Option.some.inj h)
    rfl

section Exponent

variable {c d : Char}

lemma readExponent_plus (hmark : c = 'e' ∨ c = 'E') (cs : List Char) :
    readExponent (c :: '+' :: cs) = exponentDigits false cs := by
  rw [readExponent, if_pos (by simpa using hmark)]
  rfl

lemma readExponent_minus (hmark : c = 'e' ∨ c = 'E') (cs : List Char) :
    readExponent (c :: '-' :: cs) = exponentDigits true cs := by
  rw [readExponent, if_pos (by simpa using hmark)]
  rfl

lemma readExponent_unsigned (hmark : c = 'e' ∨ c = 'E') (hplus : d ≠ '+') (hminus : d ≠ '-') (cs : List Char) :
    readExponent (c :: d :: cs) = exponentDigits false (d :: cs) := by
  rw [readExponent, if_pos (by simpa using hmark)]
  · rfl
  · exact fun rest heq => hplus (List.cons.inj heq).1
  · exact fun rest heq => hminus (List.cons.inj heq).1

lemma readExponent_none (hmark : ¬ (c = 'e' ∨ c = 'E')) (cs : List Char) :
    readExponent (c :: cs) = some (none, c :: cs) := by
  simp [readExponent, hmark]

end Exponent

lemma readExponent_append (hrest : Ends rest) {e : Option (Bool × List Nat)} (h : readExponent cs = some (e, after)) :
    readExponent (cs ++ rest) = some (e, after ++ rest) := by
  cases cs with
  | nil =>
    obtain ⟨rfl, rfl⟩ := Prod.mk.inj (Option.some.inj h)
    cases rest with
    | nil => rfl
    | cons c rest =>
      obtain ⟨-, -, he, hE⟩ := hrest c rfl
      exact readExponent_none (by simp [he, hE]) rest
  | cons c cs =>
    by_cases hmark : c = 'e' ∨ c = 'E'
    · cases cs with
      | nil => obtain rfl | rfl := hmark <;> cases h
      | cons d cs =>
        obtain rfl | hplus := eq_or_ne d '+'
        · rw [readExponent_plus hmark] at h
          exact (readExponent_plus hmark _).trans (exponentDigits_append hrest h)
        · obtain rfl | hminus := eq_or_ne d '-'
          · rw [readExponent_minus hmark] at h
            exact (readExponent_minus hmark _).trans (exponentDigits_append hrest h)
          · rw [readExponent_unsigned hmark hplus hminus] at h
            exact (readExponent_unsigned hmark hplus hminus _).trans (exponentDigits_append hrest h)
    · rw [readExponent_none hmark] at h
      obtain ⟨rfl, rfl⟩ := Prod.mk.inj (Option.some.inj h)
      exact readExponent_none hmark _

/-- A numeral behind its sign. -/
def unsignedNumeral (negative : Bool) (cs : List Char) : Option (Numeral × List Char) := do
  let (whole, cs) ← readWhole cs
  let (fraction, cs) ← readFraction cs
  let (exponent, cs) ← readExponent cs
  return (⟨negative, whole, fraction, exponent⟩, cs)

lemma readNumeral_minus (cs : List Char) : readNumeral ('-' :: cs) = unsignedNumeral true cs := rfl

lemma readNumeral_unsigned {c : Char} (hminus : c ≠ '-') (cs : List Char) :
    readNumeral (c :: cs) = unsignedNumeral false (c :: cs) := by
  rw [readNumeral]
  · rfl
  · exact fun rest heq => hminus (List.cons.inj heq).1

lemma unsignedNumeral_append (hrest : Ends rest) {negative : Bool} {n : Numeral}
    (h : unsignedNumeral negative cs = some (n, after)) :
    unsignedNumeral negative (cs ++ rest) = some (n, after ++ rest) := by
  obtain ⟨⟨whole, cs₁⟩, hwhole, h⟩ := Option.bind_eq_some_iff.mp h
  obtain ⟨⟨fraction, cs₂⟩, hfraction, h⟩ := Option.bind_eq_some_iff.mp h
  obtain ⟨⟨exponent, cs₃⟩, hexponent, h⟩ := Option.bind_eq_some_iff.mp h
  obtain ⟨rfl, rfl⟩ := Prod.mk.inj (Option.some.inj h)
  simp [unsignedNumeral, readWhole_append hrest hwhole, readFraction_append hrest hfraction,
    readExponent_append hrest hexponent]

/-- A numeral is read the same way where its text goes on. -/
lemma readNumeral_append (hrest : Ends rest) {n : Numeral} (h : readNumeral cs = some (n, after)) :
    readNumeral (cs ++ rest) = some (n, after ++ rest) := by
  cases cs with
  | nil => cases h
  | cons c cs =>
    obtain rfl | hminus := eq_or_ne c '-'
    · exact unsignedNumeral_append hrest h
    · rw [readNumeral_unsigned hminus] at h
      exact (readNumeral_unsigned hminus _).trans (unsignedNumeral_append hrest h)

/-! ## Integers -/

variable {n : Nat}

/-- The digits of a number, as they are read. -/
lemma readDigits_digitChars (n : Nat) :
    readDigits (Decimal.digitChars n) = ((Decimal.digitChars n).map digitValue, []) := by
  have hdigits : ∀ c ∈ Decimal.digitChars n, c.isDigit = true :=
    fun c hc => Nat.isDigit_of_mem_toDigits (by decide) (by decide) hc
  rw [readDigits, List.takeWhile_eq_self_iff.mpr hdigits, List.dropWhile_eq_nil_iff.mpr hdigits]

/-- The digits of a number above zero begin with one that is not zero. -/
lemma head_digitChars (hn : 0 < n) {c : Char} {cs : List Char} (h : Decimal.digitChars n = c :: cs) :
    digitValue c ≠ 0 := by
  induction n using Nat.strongRecOn generalizing cs with
  | ind n ih =>
    rw [Decimal.digitChars] at h
    by_cases hsmall : n < 10
    · rw [Nat.toDigits_of_lt_base hsmall] at h
      obtain ⟨rfl, -⟩ := List.cons.inj h
      have hvalue : ∀ m < 10, digitValue m.digitChar = m := by decide
      rw [hvalue n hsmall]
      omega
    · rw [Nat.toDigits_of_base_le (by decide) (by omega)] at h
      obtain ⟨d, ds, hds⟩ := List.exists_cons_of_ne_nil (Nat.toDigits_ne_nil (b := 10) (n := n / 10))
      rw [hds, List.cons_append] at h
      obtain ⟨rfl, -⟩ := List.cons.inj h
      exact ih (n / 10) (by omega) (by omega) hds

lemma readWhole_digitChars (n : Nat) :
    readWhole (Decimal.digitChars n) = some ((Decimal.digitChars n).map digitValue, []) := by
  obtain ⟨c, cs, hcs⟩ := List.exists_cons_of_ne_nil (Nat.toDigits_ne_nil (b := 10) (n := n))
  rw [readWhole, readDigits_digitChars, show Decimal.digitChars n = c :: cs from hcs]
  split
  · next h => cases h
  · next d ds _ h =>
    -- Only zero begins with a zero, and it has no further digit.
    obtain ⟨hzero, hmore⟩ := List.cons.inj (Prod.mk.inj h).1
    obtain rfl | hn := Nat.eq_zero_or_pos n
    · obtain ⟨-, rfl⟩ := List.cons.inj (show ['0'] = c :: cs from hcs)
      cases hmore
    · exact absurd hzero (head_digitChars hn hcs)
  · rfl

lemma readNumeral_intChars (n : Int) : readNumeral (Decimal.intChars n) =
    some (⟨decide (n < 0), (Decimal.digitChars n.natAbs).map digitValue, [], none⟩, []) := by
  have hunsigned (negative : Bool) : unsignedNumeral negative (Decimal.digitChars n.natAbs) =
      some (⟨negative, (Decimal.digitChars n.natAbs).map digitValue, [], none⟩, []) := by
    rw [unsignedNumeral, readWhole_digitChars]
    rfl
  rw [Decimal.intChars]
  split
  · next hn => simp [readNumeral_minus, hunsigned, hn]
  · next hn =>
    obtain ⟨c, cs, hcs⟩ := List.exists_cons_of_ne_nil (Nat.toDigits_ne_nil (b := 10) (n := n.natAbs))
    have hdigit : c.isDigit = true :=
      Nat.isDigit_of_mem_toDigits (b := 10) (n := n.natAbs) (by decide) (by decide) (by simp [hcs])
    have hminus : c ≠ '-' := by
      rintro rfl
      exact absurd hdigit (by decide)
    have hchars : Decimal.digitChars n.natAbs = c :: cs := hcs
    rw [hchars, readNumeral_unsigned hminus, ← hchars, hunsigned]
    simp [hn]

end Source

namespace Numeral

/-- Digits that come to a number of at most 64 bits are all taken. -/
lemma gather_digits {n : Nat} (cs : List Char) (h : Nat.ofDigitChars 10 cs n ≤ largestWord) :
    gather n (cs.map Source.digitValue) = (Nat.ofDigitChars 10 cs n, cs.length, 0) := by
  have hgrows (cs : List Char) (n : Nat) : n ≤ Nat.ofDigitChars 10 cs n := by
    induction cs generalizing n with
    | nil => exact Nat.le_refl n
    | cons c cs ih =>
      rw [Nat.ofDigitChars_cons]
      exact Nat.le_trans (by omega) (ih _)
  induction cs generalizing n with
  | nil => rfl
  | cons c cs ih =>
    rw [Nat.ofDigitChars_cons] at h ⊢
    have hnext : n * 10 + Source.digitValue c = 10 * n + (c.toNat - '0'.toNat) := by
      rw [Nat.mul_comm]
      rfl
    rw [List.map_cons, gather]
    simp only [hnext]
    rw [if_neg (Nat.not_lt.mpr (Nat.le_trans (hgrows cs _) h)), ih h]
    rfl

/-- An integer from the least one of 64 bits with a sign to the largest one without is what its digits come to. -/
lemma value?_int {n : Int} (hlow : -(Nat.pow 2 63 : Nat) ≤ n) (hhigh : n ≤ largestWord) :
    (⟨decide (n < 0), (Decimal.digitChars n.natAbs).map Source.digitValue, [], none⟩ : Numeral).value? =
      some (.int n) := by
  have hsize : n.natAbs ≤ largestWord := by
    have hword : (Nat.pow 2 63 : Nat) ≤ largestWord := by decide
    omega
  have hdigits : Nat.ofDigitChars 10 (Decimal.digitChars n.natAbs) 0 = n.natAbs := Nat.ofDigitChars_ten_toDigits
  have hgather := gather_digits (n := 0) (Decimal.digitChars n.natAbs) (by rw [hdigits]; exact hsize)
  rw [hdigits] at hgather
  simp only [value?, hgather, gather]
  generalize hnat : n.natAbs = size
  by_cases hn : n < 0
  · have hzero : size ≠ 0 := by omega
    have hlimit : size ≤ Nat.pow 2 63 := by omega
    have hback : -(size : Int) = n := by omega
    simp [hn, hzero, hlimit, hback]
  · have hback : (size : Int) = n := by omega
    simp [hn, hback]

end Numeral

namespace Source

/-! ## Strings -/

section Parts

variable {c e : Char} {n : Nat}

lemma readParts_plain (hquote : c ≠ '"') (hbackslash : c ≠ '\\') (hcontrol : ¬ c.toNat < 0x20) (rest : List Char) :
    readParts (c :: rest) = (readParts rest).map fun x => (.char c :: x.1, x.2) := by
  rw [readParts]
  · simp only [hbackslash, hcontrol]
    cases readParts rest <;> rfl
  · exact hquote
  · exact fun _ _ _ _ _ heq _ => hbackslash heq
  · exact fun _ _ heq _ => hbackslash heq

lemma readParts_letter (hletter : escaped? e = some c) (hunit : e ≠ 'u') (rest : List Char) :
    readParts ('\\' :: e :: rest) = (readParts rest).map fun x => (.char c :: x.1, x.2) := by
  rw [readParts]
  · simp only [hletter]
    cases readParts rest <;> rfl
  · exact fun _ _ _ _ _ heq _ => hunit heq

lemma readUnit_control : ∀ n < 0x20, readUnit ([n / 4096, n / 256, n / 16, n].map Hex.digit) = some (n, []) := by
  decide

lemma readParts_unit (hn : n < 0x20) (rest : List Char) :
    readParts (Json.unitEscape n ++ rest) = (readParts rest).map fun x => (.unit n :: x.1, x.2) := by
  have hunit : readUnit [Hex.digit (n / 4096), Hex.digit (n / 256), Hex.digit (n / 16), Hex.digit n] = some (n, []) :=
    readUnit_control n hn
  show readParts ('\\' :: 'u' :: Hex.digit (n / 4096) :: Hex.digit (n / 256) :: Hex.digit (n / 16) :: Hex.digit n ::
    rest) = _
  rw [readParts, hunit]
  cases readParts rest <;> rfl

lemma joinParts_unit (hn : c.toNat < 0x20) (parts : List StringPart) :
    joinParts (.unit c.toNat :: parts) = (joinParts parts).map (c :: ·) := by
  have hlow : isLowSurrogate c.toNat = false := by simp [isLowSurrogate]; omega
  have hhigh : isHighSurrogate c.toNat = false := by simp [isHighSurrogate]; omega
  rw [joinParts.eq_def]
  simp [hlow, hhigh, Char.ofNat_toNat]

end Parts

/-- A character is read back from the way it stands in a string. -/
lemma exists_part (c : Char) : ∃ part : StringPart,
    (∀ rest, readParts (Json.escapeChar c ++ rest) = (readParts rest).map fun x => (part :: x.1, x.2)) ∧
      ∀ parts, joinParts (part :: parts) = (joinParts parts).map (c :: ·) := by
  unfold Json.escapeChar
  split
  · exact ⟨.char _, readParts_letter rfl (by decide), fun _ => rfl⟩
  · exact ⟨.char _, readParts_letter rfl (by decide), fun _ => rfl⟩
  · exact ⟨.char _, readParts_letter rfl (by decide), fun _ => rfl⟩
  · exact ⟨.char _, readParts_letter rfl (by decide), fun _ => rfl⟩
  · exact ⟨.char _, readParts_letter rfl (by decide), fun _ => rfl⟩
  · exact ⟨.char _, readParts_letter rfl (by decide), fun _ => rfl⟩
  · exact ⟨.char _, readParts_letter rfl (by decide), fun _ => rfl⟩
  · next hquote hbackslash _ _ _ _ _ =>
    split
    · next hcontrol => exact ⟨.unit c.toNat, readParts_unit hcontrol, joinParts_unit hcontrol⟩
    · next hcontrol =>
      exact ⟨.char c, readParts_plain hquote hbackslash hcontrol, fun _ => rfl⟩

/-- A string is read back from its text. -/
lemma readString_quote (s : String) (rest : List Char) :
    readString (s.toList.flatMap Json.escapeChar ++ '"' :: rest) = some (some s, rest) := by
  have hparts (cs : List Char) : ∃ parts,
      readParts (cs.flatMap Json.escapeChar ++ '"' :: rest) = some (parts, rest) ∧ joinParts parts = some cs := by
    induction cs with
    | nil => exact ⟨[], by simp [readParts], rfl⟩
    | cons c cs ih =>
      obtain ⟨parts, hread, hjoin⟩ := ih
      obtain ⟨part, hpart, hchar⟩ := exists_part c
      exact ⟨part :: parts, by rw [List.flatMap_cons, List.append_assoc, hpart, hread]; rfl, by rw [hchar, hjoin]; rfl⟩
  obtain ⟨parts, hread, hjoin⟩ := hparts s.toList
  rw [readString, hread]
  simp [hjoin]

end Source

end FieldStudy
