import Mathlib.Data.List.Basic
import Mathlib.Data.List.TakeWhile
import Mathlib.Tactic.Common
import FieldStudy.Text.Blank
import FieldStudy.Text.Split

/-!
# Texts made of lines

A line of a text is a piece that is not empty, has no blanks at its ends and holds no line break
(`IsLine`).  Lines that are joined by line breaks are found again by splitting (`splitAll_join`), and
trimming leaves each of them as it is, so nothing is lost between a text and its lines.
-/

namespace FieldStudy.Text

/-! ## Splitting undoes joining -/

lemma splitAll_of_notMem {separator : Char} {cs : List Char} (h : separator ∉ cs) :
    splitAll separator cs = [cs] := by
  induction cs with
  | nil => rfl
  | cons c rest ih =>
    obtain ⟨hc, hrest⟩ : separator ≠ c ∧ separator ∉ rest := by simpa using h
    rw [splitAll, ih hrest]
    simp [hc.symm]

lemma splitAll_ne_nil (separator : Char) (cs : List Char) : splitAll separator cs ≠ [] := by
  induction cs with
  | nil => simp [splitAll]
  | cons c rest ih =>
    obtain ⟨piece, pieces, hp⟩ := List.exists_cons_of_ne_nil ih
    rw [splitAll, hp]
    by_cases hc : c = separator <;> simp [hc]

/-- The pieces on both sides of a separator are those of the two texts. -/
lemma splitAll_append_separator (separator : Char) (cs after : List Char) :
    splitAll separator (cs ++ separator :: after) = splitAll separator cs ++ splitAll separator after := by
  obtain ⟨piece, pieces, hp⟩ := List.exists_cons_of_ne_nil (splitAll_ne_nil separator after)
  induction cs with
  | nil => simp [splitAll, hp]
  | cons c rest ih =>
    obtain ⟨first, others, hrest⟩ := List.exists_cons_of_ne_nil (splitAll_ne_nil separator rest)
    rw [hrest] at ih
    rw [List.cons_append, splitAll, ih, splitAll, hrest]
    by_cases hc : c = separator <;> simp [hc]

lemma splitAll_append_cons {separator : Char} {before : List Char} (after : List Char)
    (h : separator ∉ before) :
    splitAll separator (before ++ separator :: after) = before :: splitAll separator after := by
  rw [splitAll_append_separator, splitAll_of_notMem h]
  rfl

/-- Pieces without the separator are what a split of their join gives. -/
lemma splitAll_join {separator : Char} {pieces : List (List Char)} (hne : pieces ≠ [])
    (h : ∀ p ∈ pieces, separator ∉ p) : splitAll separator (join [separator] pieces) = pieces := by
  induction pieces with
  | nil => exact absurd rfl hne
  | cons p rest ih =>
    have hp : separator ∉ p := h p (by simp)
    cases rest with
    | nil => exact splitAll_of_notMem hp
    | cons q more =>
      have hrest : ∀ x ∈ q :: more, separator ∉ x := fun x hx => h x (by simp [hx])
      simp only [join, List.append_assoc, List.cons_append, List.nil_append]
      rw [splitAll_append_cons _ hp, ih (by simp) hrest]

/-- A piece does not hold the separator, and its characters are those of the text. -/
lemma of_mem_splitAll {separator : Char} {cs piece : List Char} (h : piece ∈ splitAll separator cs) :
    separator ∉ piece ∧ piece ⊆ cs := by
  induction cs generalizing piece with
  | nil => simp_all [splitAll]
  | cons c rest ih =>
    obtain ⟨first, pieces, hp⟩ := List.exists_cons_of_ne_nil (splitAll_ne_nil separator rest)
    have of_rest : ∀ p ∈ first :: pieces, separator ∉ p ∧ p ⊆ c :: rest := fun p hmem =>
      have hrest := ih (hp ▸ hmem)
      ⟨hrest.1, List.subset_cons_of_subset _ hrest.2⟩
    rw [splitAll, hp] at h
    by_cases hc : c = separator
    · simp only [hc, if_true] at h
      rw [List.mem_cons] at h
      rcases h with rfl | h
      · simp
      · exact of_rest piece h
    · simp only [hc, if_false] at h
      rw [List.mem_cons] at h
      rcases h with rfl | h
      · obtain ⟨hnot, hsub⟩ := of_rest first (by simp)
        refine ⟨by simp [hnot, Ne.symm hc], List.cons_subset.2 ⟨by simp, hsub⟩⟩
      · exact of_rest piece (List.mem_cons_of_mem _ h)

/-- The pieces of a text make it up again. -/
lemma join_splitAll (separator : Char) (cs : List Char) : join [separator] (splitAll separator cs) = cs := by
  induction cs with
  | nil => rfl
  | cons c rest ih =>
    obtain ⟨first, pieces, hp⟩ := List.exists_cons_of_ne_nil (splitAll_ne_nil separator rest)
    rw [hp] at ih
    rw [splitAll, hp]
    by_cases hc : c = separator
    · simp [hc, join, ih]
    · cases pieces <;> simp_all [join]

/-- A join holds the characters of its pieces and the separator, and no others. -/
lemma mem_join {separator : List Char} {pieces : List (List Char)} {c : Char}
    (h : c ∈ join separator pieces) : c ∈ separator ∨ ∃ p ∈ pieces, c ∈ p := by
  induction pieces with
  | nil => simp [join] at h
  | cons p rest ih =>
    cases rest with
    | nil => exact .inr ⟨p, by simp, h⟩
    | cons q more =>
      simp only [join, List.mem_append] at h
      rcases h with (hp | hs) | hrest
      · exact .inr ⟨p, by simp, hp⟩
      · exact .inl hs
      · obtain hs | ⟨x, hx, hcx⟩ := ih hrest
        · exact .inl hs
        · exact .inr ⟨x, List.mem_cons_of_mem _ hx, hcx⟩

lemma splitFirst_of_notMem {separator : Char} {cs : List Char} (h : separator ∉ cs) :
    splitFirst separator cs = none := by
  induction cs with
  | nil => rfl
  | cons c rest ih =>
    obtain ⟨hc, hrest⟩ : separator ≠ c ∧ separator ∉ rest := by simpa using h
    simp [splitFirst, hc.symm, ih hrest]

lemma eq_of_splitFirst {separator : Char} {cs before after : List Char}
    (h : splitFirst separator cs = some (before, after)) : cs = before ++ separator :: after := by
  induction cs generalizing before with
  | nil => simp [splitFirst] at h
  | cons c rest ih =>
    rw [splitFirst] at h
    split at h
    · simp_all
    · obtain ⟨⟨b, a⟩, hrest, heq⟩ := Option.map_eq_some_iff.1 h
      obtain ⟨rfl, rfl⟩ := Prod.mk.inj heq
      rw [ih hrest, List.cons_append]

/-! ## Trimming -/

lemma length_dropWhile_le (p : Char → Bool) (cs : List Char) :
    (cs.dropWhile p).length ≤ cs.length :=
  (List.dropWhile_sublist p).length_le

/-- Trimming leaves a text as it is exactly when neither of its ends is blank. -/
lemma trimBlank_eq_self_iff {cs : List Char} :
    trimBlank cs = cs ↔
      (∀ c ∈ cs.head?, isBlank c = false) ∧ ∀ c ∈ cs.getLast?, isBlank c = false := by
  have head_iff (l : List Char) : l.dropWhile isBlank = l ↔ ∀ c ∈ l.head?, isBlank c = false := by
    cases l <;> simp [List.dropWhile_eq_self_iff]
  constructor
  · intro h
    have hlen : cs.length ≤ (cs.dropWhile isBlank).length := by
      calc cs.length = (trimBlank cs).length := by rw [h]
        _ ≤ (cs.dropWhile isBlank).length := by
          simpa [trimBlank] using length_dropWhile_le isBlank (cs.dropWhile isBlank).reverse
    have hfront : cs.dropWhile isBlank = cs :=
      (List.dropWhile_suffix isBlank).eq_of_length_le hlen
    have hback : cs.reverse.dropWhile isBlank = cs.reverse := by
      rw [trimBlank, hfront] at h
      exact List.reverse_eq_iff.1 h
    exact ⟨(head_iff cs).1 hfront, by simpa using (head_iff cs.reverse).1 hback⟩
  · rintro ⟨hfront, hback⟩
    have hback' : cs.reverse.dropWhile isBlank = cs.reverse := (head_iff _).2 (by simpa using hback)
    rw [trimBlank, (head_iff cs).2 hfront, hback', List.reverse_reverse]

/-- A text is its trimmed text between blanks. -/
lemma exists_trimBlank (cs : List Char) : ∃ before after : List Char, (∀ c ∈ before, isBlank c = true) ∧
    (∀ c ∈ after, isBlank c = true) ∧ cs = before ++ trimBlank cs ++ after := by
  refine ⟨cs.takeWhile isBlank, ((cs.dropWhile isBlank).reverse.takeWhile isBlank).reverse,
    fun c hc => List.mem_takeWhile_imp hc, fun c hc => List.mem_takeWhile_imp (List.mem_reverse.1 hc), ?_⟩
  rw [trimBlank, List.append_assoc, ← List.reverse_append, List.takeWhile_append_dropWhile,
    List.reverse_reverse, List.takeWhile_append_dropWhile]

/-- A trimmed text is found again between blanks. -/
lemma trimBlank_between (before cs after : List Char) (hb : ∀ c ∈ before, isBlank c = true)
    (ha : ∀ c ∈ after, isBlank c = true) (h : trimBlank cs = cs) :
    trimBlank (before ++ cs ++ after) = cs := by
  have hfront : (before ++ cs ++ after).dropWhile isBlank = if cs = [] then [] else cs ++ after := by
    rw [List.append_assoc, List.dropWhile_append_of_pos hb]
    cases cs with
    | nil => simpa using ha
    | cons c rest =>
      have hc : isBlank c = false := (trimBlank_eq_self_iff.1 h).1 c rfl
      simp [hc]
  rw [trimBlank, hfront]
  split
  · simp_all
  · rw [List.reverse_append, List.dropWhile_append_of_pos (by simpa using ha)]
    have hback : cs.reverse.dropWhile isBlank = cs.reverse := by
      cases hr : cs.reverse with
      | nil => rfl
      | cons c rest =>
        have hc : isBlank c = false :=
          (trimBlank_eq_self_iff.1 h).2 c (by rw [List.getLast?_eq_head?_reverse, hr]; rfl)
        simp [hc]
    rw [hback, List.reverse_reverse]

/-- What is trimmed stays as it is. -/
lemma trimBlank_trimBlank (cs : List Char) : trimBlank (trimBlank cs) = trimBlank cs := by
  rw [trimBlank_eq_self_iff]
  have nonblank_head (l : List Char) : ∀ c ∈ (l.dropWhile isBlank).head?, isBlank c = false := by
    intro c hc
    have hnot := List.head?_dropWhile_not isBlank l
    rw [Option.mem_def.1 hc] at hnot
    simpa using hnot
  refine ⟨fun c hc => ?_, fun c hc => ?_⟩
  · refine nonblank_head cs c ?_
    obtain ⟨rest, hrest⟩ : ∃ rest, trimBlank cs = c :: rest := by
      cases ht : trimBlank cs with
      | nil => simp [ht] at hc
      | cons b rest => exact ⟨rest, by simp_all⟩
    have hdrop : cs.dropWhile isBlank =
        trimBlank cs ++ ((cs.dropWhile isBlank).reverse.takeWhile isBlank).reverse := by
      rw [trimBlank, ← List.reverse_append, List.takeWhile_append_dropWhile, List.reverse_reverse]
    rw [hdrop, hrest]
    rfl
  · refine nonblank_head (cs.dropWhile isBlank).reverse c ?_
    rwa [trimBlank, List.getLast?_reverse] at hc

/-- Trimming leaves a text as it is whose front and back parts it leaves as they are. -/
lemma trimBlank_append {before after : List Char} (hb : trimBlank before = before)
    (ha : trimBlank after = after) (hbefore : before ≠ []) (hafter : after ≠ []) :
    trimBlank (before ++ after) = before ++ after := by
  obtain ⟨c, rest, rfl⟩ := List.exists_cons_of_ne_nil hbefore
  rw [trimBlank_eq_self_iff] at hb ha ⊢
  rw [List.getLast?_append_of_ne_nil _ hafter]
  exact ⟨by simpa using hb.1, ha.2⟩

/-- After a trimmed text the blanks before another stay, and the blanks after it go. -/
lemma trimBlank_append_right {front : List Char} (hfront : trimBlank front = front) (hne : front ≠ [])
    (cs : List Char) : ∃ kept, trimBlank (front ++ cs) = front ++ kept ∧ trimBlank kept = trimBlank cs := by
  obtain ⟨before, after, hb, ha, hcs⟩ := exists_trimBlank cs
  have htrim := trimBlank_trimBlank cs
  set t := trimBlank cs
  by_cases hempty : t = []
  · refine ⟨[], ?_, by rw [hempty]; rfl⟩
    have hblank : ∀ c ∈ before ++ after, isBlank c = true := by
      simpa [or_imp, forall_and] using ⟨hb, ha⟩
    simpa [hcs, hempty] using trimBlank_between [] front (before ++ after) (by simp) hblank hfront
  · refine ⟨before ++ t, ?_, by simpa using trimBlank_between before t [] hb (by simp) htrim⟩
    have hkept : trimBlank (front ++ (before ++ t)) = front ++ (before ++ t) := by
      rw [trimBlank_eq_self_iff] at hfront htrim ⊢
      refine ⟨?_, ?_⟩
      · rw [List.head?_append_of_ne_nil _ hne]
        exact hfront.1
      · rw [← List.append_assoc, List.getLast?_append_of_ne_nil _ hempty]
        exact htrim.2
    simpa [hcs] using trimBlank_between [] _ after (by simp) ha hkept

/-! ## Lines -/

/-- A piece of a text that is read back as it was written: not empty, without blanks at its ends and
without a line break. -/
structure IsLine (cs : List Char) : Prop where
  ne_nil : cs ≠ []
  trimmed : trimBlank cs = cs
  no_break : '\n' ∉ cs

instance (cs : List Char) : Decidable (IsLine cs) :=
  decidable_of_iff (cs ≠ [] ∧ trimBlank cs = cs ∧ '\n' ∉ cs)
    ⟨fun ⟨h₁, h₂, h₃⟩ => ⟨h₁, h₂, h₃⟩, fun ⟨h₁, h₂, h₃⟩ => ⟨h₁, h₂, h₃⟩⟩

lemma IsLine.append {before after : List Char} (hb : IsLine before) (ha : IsLine after) :
    IsLine (before ++ after) where
  ne_nil := by simp [hb.ne_nil]
  trimmed := trimBlank_append hb.trimmed ha.trimmed hb.ne_nil ha.ne_nil
  no_break := by simp [hb.no_break, ha.no_break]

end FieldStudy.Text
