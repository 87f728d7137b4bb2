/-!
# Placeholders in texts

A placeholder is an opening such as dollar, brace, `txt`, colon, then a key, then a closing brace;
the key ends at the first closing brace and holds no line break. `substitute` replaces each
placeholder of one opening whose key is known, from left to right, and looks at no replaced text
again.
-/

namespace FieldStudy.Text

/-- The key up to the first closing brace and what follows that brace; nothing if the line ends
before. -/
def readKey : List Char → Option (List Char × List Char)
  | [] => none
  | c :: rest =>
    if c = '\x7d' then some ([], rest)
    else if c = '\n' then none
    else (readKey rest).map fun (key, after) => (c :: key, after)

theorem length_of_readKey {s key after : List Char} (h : readKey s = some (key, after)) :
    after.length < s.length := by
  induction s generalizing key with
  | nil => simp [readKey] at h
  | cons c rest ih =>
    unfold readKey at h
    split at h
    · simp at h; simp [← h.2]
    · split at h
      · simp at h
      · obtain ⟨⟨k, a⟩, hk, he⟩ := Option.map_eq_some_iff.1 h
        simp only [Prod.mk.injEq] at he
        have := ih (he.2 ▸ hk)
        simp; omega

/-- The text after an opening and the key behind it, if the text begins with a placeholder. -/
def readPlaceholder (opening s : List Char) : Option (List Char × List Char) :=
  (opening.isPrefixOf? s).bind readKey

theorem length_of_isPrefixOf? {opening s rest : List Char}
    (h : opening.isPrefixOf? s = some rest) : rest.length ≤ s.length := by
  induction opening generalizing s with
  | nil =>
    obtain rfl : s = rest := Option.some.inj h
    exact Nat.le_refl _
  | cons a as ih =>
    cases s with
    | nil => exact absurd (show none = some rest from h) (Option.some_ne_none rest).symm
    | cons b bs =>
      change (if a == b then as.isPrefixOf? bs else none) = some rest at h
      split at h
      · have := ih h; simp; omega
      · simp at h

theorem length_of_readPlaceholder {opening s key after : List Char}
    (h : readPlaceholder opening s = some (key, after)) : after.length < s.length := by
  obtain ⟨rest, hr, hk⟩ := Option.bind_eq_some_iff.1 h
  have := length_of_isPrefixOf? hr
  have := length_of_readKey hk
  omega

/-- Replaces the placeholders whose key `value` knows and keeps the others as written. -/
def substitute (opening : List Char) (value : List Char → Option (List Char)) :
    List Char → List Char
  | [] => []
  | c :: rest =>
    match h : readPlaceholder opening (c :: rest) with
    | none => c :: substitute opening value rest
    | some (key, after) =>
      have := length_of_readPlaceholder h
      (value key).getD (opening ++ key ++ ['\x7d']) ++ substitute opening value after
termination_by s => s.length
decreasing_by all_goals simp_all

end FieldStudy.Text
