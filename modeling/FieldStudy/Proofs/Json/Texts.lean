import FieldStudy.Proofs.Json.Tokens

/-!
# Reading back values

A value is read back from its text, indented as it is, if its integers are of 64 bits, its other numbers are read back
each by itself, and it is not nested too deep (`Json.isLegible`).  What is read is the tree of the value
(`Source.read?_pretty`).
-/

namespace FieldStudy

namespace Json

/-- Whether a floating point number is read back from its text.  Reading rounds more than once, so that some are not. -/
def readsBack (x : Double) : Bool :=
  match Source.readNumeral (floatChars x) with
  | some (n, []) => n.value? = some (.float x)
  | _ => false

mutual

/-- Whether a value that stands within so many containers is read back from its text. -/
def isLegible (depth : Nat) : Json → Bool
  | .int n => -(Nat.pow 2 63 : Nat) ≤ n ∧ n ≤ Numeral.largestWord
  | .float x => readsBack x
  | .arr items => depth < Source.depthLimit && areLegible (depth + 1) items
  | .obj members => depth < Source.depthLimit && membersLegible (depth + 1) members
  | .null | .bool _ | .str _ => true

def areLegible (depth : Nat) : List Json → Bool
  | [] => true
  | v :: rest => isLegible depth v && areLegible depth rest

def membersLegible (depth : Nat) : List (String × Json) → Bool
  | [] => true
  | (_, v) :: rest => isLegible depth v && membersLegible depth rest

end

end Json

namespace Source

open Json

variable {cs rest : List Char} {depth level outer fuel : Nat}

/-! ## Numbers -/

lemma exists_of_readsBack {x : Double} (h : readsBack x = true) :
    ∃ n, readNumeral (floatChars x) = some (n, []) ∧ n.value? = some (.float x) := by
  rw [readsBack] at h
  split at h
  · next n hread => exact ⟨n, hread, of_decide_eq_true h⟩
  · cases h

/-- The characters that a numeral can begin with. -/
def Leads (c : Char) : Prop := c.isDigit = true ∨ c = '-'

lemma leads_of_readNumeral {n : Numeral} {after : List Char} (h : readNumeral cs = some (n, after)) :
    ∃ c tail, cs = c :: tail ∧ Leads c := by
  cases cs with
  | nil => cases h
  | cons c tail =>
    refine ⟨c, tail, rfl, ?_⟩
    by_cases hminus : c = '-'
    · exact .inr hminus
    · left
      by_contra hdigit
      rw [readNumeral_unsigned hminus] at h
      simp [unsignedNumeral, readWhole, readDigits, hdigit] at h

/-- Where a text goes on with a numeral, that is what is read. -/
lemma readValue_numeral {c : Char} {tail : List Char} (hc : Leads c) (h : skipSpace cs = c :: tail) :
    readValue depth (fuel + 1) cs = (readNumeral (c :: tail)).map fun x => (ofNumeral x.1, x.2) := by
  have hne : c ≠ 'n' ∧ c ≠ 't' ∧ c ≠ 'f' ∧ c ≠ '"' ∧ c ≠ '[' ∧ c ≠ '\x7b' := by
    obtain hdigit | rfl := hc
    · refine ⟨?_, ?_, ?_, ?_, ?_, ?_⟩ <;>
      · rintro rfl
        exact absurd hdigit (by decide)
    · decide
  obtain ⟨hn, ht, hf, hquote, hbracket, hbrace⟩ := hne
  rw [readValue, h]
  split
  · next heq => exact absurd (List.cons.inj heq).1 hn
  · next heq => exact absurd (List.cons.inj heq).1 ht
  · next heq => exact absurd (List.cons.inj heq).1 hf
  · next heq => exact absurd (List.cons.inj heq).1 hquote
  · next heq => exact absurd (List.cons.inj heq).1 hbracket
  · next heq => exact absurd (List.cons.inj heq).1 hbrace
  · rfl

/-- A numeral is read as the number that it stands for. -/
lemma readValue_of_readNumeral {numeral : List Char} {n : Numeral} (hread : readNumeral numeral = some (n, []))
    (hrest : Ends rest) (h : skipSpace cs = numeral ++ rest) :
    readValue depth (fuel + 1) cs = some (ofNumeral n, rest) := by
  obtain ⟨c, tail, rfl, hc⟩ := leads_of_readNumeral hread
  have happend : readNumeral (c :: (tail ++ rest)) = some (n, rest) := readNumeral_append hrest hread
  rw [readValue_numeral hc h]
  exact congrArg _ happend

/-! ## Beginnings of texts -/

/-- A character that a value can begin with. -/
structure Opens (c : Char) : Prop where
  space : isSpace c = false
  bracket : c ≠ ']'

lemma opens_of_leads {c : Char} (h : Leads c) : Opens c := by
  obtain hdigit | rfl := h
  · refine ⟨?_, ?_⟩
    · by_contra hspace
      rw [Bool.not_eq_false, isSpace] at hspace
      simp only [Bool.or_eq_true, decide_eq_true_eq] at hspace
      obtain ((rfl | rfl) | rfl) | rfl := hspace <;> exact absurd hdigit (by decide)
    · rintro rfl
      exact absurd hdigit (by decide)
  · exact ⟨by decide, by decide⟩

lemma exists_prettyBlock (level : Nat) (opening closing : Char) (parts : List (List Char)) :
    ∃ tail, prettyBlock level opening closing parts = opening :: tail := by
  rw [prettyBlock]
  split <;> exact ⟨_, rfl⟩

lemma opens_pretty {v : Json} (h : v.isLegible depth = true) (level : Nat) :
    ∃ c tail, prettyChars level v = c :: tail ∧ Opens c := by
  cases v with
  | null => exact ⟨_, _, rfl, by decide, by decide⟩
  | bool b => cases b <;> exact ⟨_, _, rfl, by decide, by decide⟩
  | int n =>
    obtain ⟨c, tail, hcs, hc⟩ := leads_of_readNumeral (readNumeral_intChars n)
    exact ⟨c, tail, hcs, opens_of_leads hc⟩
  | float x =>
    obtain ⟨n, hread, -⟩ := exists_of_readsBack h
    obtain ⟨c, tail, hcs, hc⟩ := leads_of_readNumeral hread
    exact ⟨c, tail, hcs, opens_of_leads hc⟩
  | str s => exact ⟨_, _, rfl, by decide, by decide⟩
  | arr items =>
    obtain ⟨tail, htail⟩ := exists_prettyBlock level '[' ']' (prettyItems (level + 1) items)
    exact ⟨_, tail, htail, by decide, by decide⟩
  | obj members =>
    obtain ⟨tail, htail⟩ := exists_prettyBlock level '\x7b' '\x7d' (prettyMembers (level + 1) members)
    exact ⟨_, tail, htail, by decide, by decide⟩

lemma skipSpace_pretty {v : Json} (h : v.isLegible depth = true) (level : Nat) (rest : List Char) :
    skipSpace (prettyChars level v ++ rest) = prettyChars level v ++ rest := by
  obtain ⟨c, tail, hcs, hc⟩ := opens_pretty h level
  rw [hcs]
  exact skipSpace_of_not_isSpace hc.space _

/-! ## Values -/

lemma ends_of_lineBreak (level : Nat) (rest : List Char) : Ends (lineBreak level ++ rest) := by
  rintro c ⟨⟩
  decide

lemma ends_of_comma (rest : List Char) : Ends (',' :: rest) := by
  rintro c ⟨⟩
  decide

/-- A container with parts, opened. -/
lemma prettyBlock_of_ne_nil {opening closing : Char} {parts : List (List Char)} (h : parts ≠ []) :
    prettyBlock level opening closing parts = opening :: (lineBreak (level + 1) ++
      Text.join (',' :: lineBreak (level + 1)) parts ++ lineBreak level ++ [closing]) := by
  rw [prettyBlock, if_neg (by simpa using h)]

lemma exists_join (separator piece : List Char) (pieces : List (List Char)) :
    ∃ tail, Text.join separator (piece :: pieces) = piece ++ tail := by
  cases pieces with
  | nil => exact ⟨[], (List.append_nil piece).symm⟩
  | cons next pieces => exact ⟨separator ++ Text.join separator (next :: pieces), List.append_assoc ..⟩

lemma opens_items {v : Json} (h : v.isLegible depth = true) (items : List Json) (level : Nat) (rest : List Char) :
    ∃ c tail, Text.join (',' :: lineBreak level) (prettyItems level (v :: items)) ++ rest = c :: tail ∧ Opens c := by
  obtain ⟨c, tail, hcs, hc⟩ := opens_pretty h level
  obtain ⟨more, hjoin⟩ := exists_join (',' :: lineBreak level) (prettyChars level v) (prettyItems level items)
  exact ⟨c, tail ++ more ++ rest, by rw [prettyItems, hjoin, hcs]; simp, hc⟩

lemma opens_members (k : String) (v : Json) (members : List (String × Json)) (level : Nat) (rest : List Char) :
    ∃ tail, Text.join (',' :: lineBreak level) (prettyMembers level ((k, v) :: members)) ++ rest = '"' :: tail := by
  obtain ⟨more, hjoin⟩ := exists_join (',' :: lineBreak level) (quote k ++ ':' :: ' ' :: prettyChars level v)
    (prettyMembers level members)
  exact ⟨_, by rw [prettyMembers, hjoin, quote]; simp; rfl⟩

/-- An array that is not empty is read item by item. -/
lemma readValue_items {c : Char} {inner tail : List Char} (hcs : skipSpace cs = '[' :: inner)
    (hinner : skipSpace inner = c :: tail) (hc : c ≠ ']') :
    readValue depth (fuel + 1) cs =
      (readItems (depth + 1) fuel (c :: tail)).map fun x => (container depth (.arr x.1), x.2) := by
  rw [readValue, hcs]
  simp only [hinner]
  split
  · next heq => exact absurd (List.cons.inj heq).1 hc
  · rfl

lemma readValue_members {c : Char} {inner tail : List Char} (hcs : skipSpace cs = '\x7b' :: inner)
    (hinner : skipSpace inner = c :: tail) (hc : c ≠ '\x7d') :
    readValue depth (fuel + 1) cs =
      (readMembers (depth + 1) fuel (c :: tail)).map fun x => (container depth (.obj x.1), x.2) := by
  rw [readValue, hcs]
  simp only [hinner]
  split
  · next heq => exact absurd (List.cons.inj heq).1 hc
  · rfl

mutual

/-- A value is read back from its text. -/
theorem readValue_pretty (v : Json) (depth level fuel : Nat) (cs rest : List Char)
    (hlegible : v.isLegible depth = true) (hrest : Ends rest)
    (hfuel : 2 * (prettyChars level v).length ≤ fuel) (hcs : skipSpace cs = prettyChars level v ++ rest) :
    readValue depth fuel cs = some (ofJson v, rest) := by
  obtain ⟨c, tail, hopens, -⟩ := opens_pretty hlegible level
  obtain ⟨fuel, rfl⟩ : ∃ n, fuel = n + 1 := ⟨fuel - 1, by rw [hopens, List.length_cons] at hfuel; omega⟩
  cases v with
  | null =>
    rw [readValue, hcs]
    rfl
  | bool b =>
    rw [readValue, hcs]
    cases b <;> rfl
  | int n =>
    obtain ⟨hlow, hhigh⟩ : -(Nat.pow 2 63 : Nat) ≤ n ∧ n ≤ Numeral.largestWord := of_decide_eq_true hlegible
    rw [readValue_of_readNumeral (readNumeral_intChars n) hrest hcs, ofNumeral, Numeral.value?_int hlow hhigh]
    rfl
  | float x =>
    obtain ⟨n, hread, hvalue⟩ := exists_of_readsBack hlegible
    rw [readValue_of_readNumeral hread hrest hcs, ofNumeral, hvalue]
    rfl
  | str s =>
    have hquote : skipSpace cs = '"' :: (s.toList.flatMap escapeChar ++ '"' :: rest) := by
      rw [hcs, prettyChars, quote]
      simp
    rw [readValue, hquote]
    simp [readString_quote, ofJson]
  | arr items =>
    obtain ⟨hdepth, hitems⟩ := Bool.and_eq_true_iff.mp hlegible
    have hcontainer (s : Source) : container depth s = s := if_pos (of_decide_eq_true hdepth)
    cases items with
    | nil =>
      rw [readValue, hcs]
      exact congrArg (fun s => some (s, rest)) (hcontainer _)
    | cons v items =>
      obtain ⟨hv, -⟩ := Bool.and_eq_true_iff.mp hitems
      obtain ⟨c, tail, hjoin, hc⟩ := opens_items hv items (level + 1) (lineBreak level ++ ']' :: rest)
      rw [prettyChars, prettyBlock_of_ne_nil (by simp [prettyItems])] at hcs hfuel
      have hinner : skipSpace (lineBreak (level + 1) ++ (Text.join (',' :: lineBreak (level + 1))
          (prettyItems (level + 1) (v :: items)) ++ (lineBreak level ++ ']' :: rest))) = c :: tail := by
        rw [skipSpace_lineBreak, hjoin, skipSpace_of_not_isSpace hc.space]
      have hread := readItems_pretty (v :: items) (depth + 1) (level + 1) level fuel (c :: tail) rest
        (List.cons_ne_nil v items) hitems
        (by simp only [List.length_cons, List.length_append] at hfuel; omega)
        (by rw [skipSpace_of_not_isSpace hc.space, hjoin])
      rw [readValue_items (by simpa using hcs) hinner hc.bracket, hread]
      exact congrArg (fun s => some (s, rest)) (hcontainer _)
  | obj members =>
    obtain ⟨hdepth, hmembers⟩ := Bool.and_eq_true_iff.mp hlegible
    have hcontainer (s : Source) : container depth s = s := if_pos (of_decide_eq_true hdepth)
    cases members with
    | nil =>
      rw [readValue, hcs]
      exact congrArg (fun s => some (s, rest)) (hcontainer _)
    | cons member members =>
      obtain ⟨k, v⟩ := member
      obtain ⟨tail, hjoin⟩ := opens_members k v members (level + 1) (lineBreak level ++ '\x7d' :: rest)
      rw [prettyChars, prettyBlock_of_ne_nil (by simp [prettyMembers])] at hcs hfuel
      have hinner : skipSpace (lineBreak (level + 1) ++ (Text.join (',' :: lineBreak (level + 1))
          (prettyMembers (level + 1) ((k, v) :: members)) ++ (lineBreak level ++ '\x7d' :: rest))) = '"' :: tail := by
        rw [skipSpace_lineBreak, hjoin, skipSpace_of_not_isSpace (by decide)]
      have hread := readMembers_pretty ((k, v) :: members) (depth + 1) (level + 1) level fuel ('"' :: tail) rest
        (List.cons_ne_nil _ members) hmembers
        (by simp only [List.length_cons, List.length_append] at hfuel; omega)
        (by rw [skipSpace_of_not_isSpace (by decide), hjoin])
      rw [readValue_members (by simpa using hcs) hinner (by decide), hread]
      exact congrArg (fun s => some (s, rest)) (hcontainer _)

/-- The items of an array are read back from their texts. -/
theorem readItems_pretty (items : List Json) (depth level outer fuel : Nat) (cs rest : List Char)
    (hne : items ≠ []) (hlegible : areLegible depth items = true)
    (hfuel : 2 * (Text.join (',' :: lineBreak level) (prettyItems level items)).length + 1 ≤ fuel)
    (hcs : skipSpace cs = Text.join (',' :: lineBreak level) (prettyItems level items) ++
      (lineBreak outer ++ ']' :: rest)) : readItems depth fuel cs = some (ofItems items, rest) := by
  obtain ⟨fuel, rfl⟩ : ∃ n, fuel = n + 1 := ⟨fuel - 1, by omega⟩
  cases items with
  | nil => exact absurd rfl hne
  | cons v items =>
    obtain ⟨hv, hitems⟩ := Bool.and_eq_true_iff.mp hlegible
    cases items with
    | nil =>
      have hread := readValue_pretty v depth level fuel cs _ hv
        (ends_of_lineBreak outer (']' :: rest)) (by simp only [prettyItems, Text.join] at hfuel; omega) hcs
      have hclose : skipSpace (lineBreak outer ++ ']' :: rest) = ']' :: rest := by
        rw [skipSpace_lineBreak, skipSpace_of_not_isSpace (by decide)]
      rw [readItems, hread]
      simp only [Option.bind_eq_bind, Option.bind_some, hclose]
      rfl
    | cons w items =>
      obtain ⟨hw, -⟩ := Bool.and_eq_true_iff.mp hitems
      obtain ⟨c, tail, hjoin, hc⟩ := opens_items hw items level (lineBreak outer ++ ']' :: rest)
      have hparts : Text.join (',' :: lineBreak level) (prettyItems level (v :: w :: items)) =
          prettyChars level v ++ ',' :: (lineBreak level ++ Text.join (',' :: lineBreak level)
            (prettyItems level (w :: items))) := by
        simp [prettyItems, Text.join]
      rw [hparts] at hcs hfuel
      have hread := readValue_pretty v depth level fuel cs _ hv
        (ends_of_comma _) (by simp only [List.length_append] at hfuel; omega) (by simpa using hcs)
      have hmore := readItems_pretty (w :: items) depth level outer fuel
        (lineBreak level ++ (Text.join (',' :: lineBreak level) (prettyItems level (w :: items)) ++
          (lineBreak outer ++ ']' :: rest))) rest (List.cons_ne_nil w items) hitems
        (by simp only [List.length_append, List.length_cons] at hfuel; omega)
        (by rw [skipSpace_lineBreak, hjoin, skipSpace_of_not_isSpace hc.space])
      rw [readItems, hread]
      simp only [Option.bind_eq_bind, Option.bind_some, skipSpace_of_not_isSpace (show isSpace ',' = false by decide)]
      rw [hmore]
      rfl

theorem readMembers_pretty (members : List (String × Json)) (depth level outer fuel : Nat) (cs rest : List Char)
    (hne : members ≠ []) (hlegible : membersLegible depth members = true)
    (hfuel : 2 * (Text.join (',' :: lineBreak level) (prettyMembers level members)).length + 1 ≤ fuel)
    (hcs : skipSpace cs = Text.join (',' :: lineBreak level) (prettyMembers level members) ++
      (lineBreak outer ++ '\x7d' :: rest)) : readMembers depth fuel cs = some (ofMembers members, rest) := by
  obtain ⟨fuel, rfl⟩ : ∃ n, fuel = n + 1 := ⟨fuel - 1, by omega⟩
  have hcolon (cs : List Char) : skipSpace (':' :: cs) = ':' :: cs := skipSpace_of_not_isSpace (by decide) cs
  have hcomma (cs : List Char) : skipSpace (',' :: cs) = ',' :: cs := skipSpace_of_not_isSpace (by decide) cs
  cases members with
  | nil => exact absurd rfl hne
  | cons member members =>
    obtain ⟨k, v⟩ := member
    obtain ⟨hv, hmembers⟩ := Bool.and_eq_true_iff.mp hlegible
    have hvalue (r : List Char) : skipSpace (' ' :: (prettyChars level v ++ r)) = prettyChars level v ++ r :=
      skipSpace_pretty hv level r
    cases members with
    | nil =>
      have hclose : skipSpace (lineBreak outer ++ '\x7d' :: rest) = '\x7d' :: rest := by
        rw [skipSpace_lineBreak, skipSpace_of_not_isSpace (by decide)]
      have hread := readValue_pretty v depth level fuel
        (' ' :: (prettyChars level v ++ (lineBreak outer ++ '\x7d' :: rest))) _ hv
        (ends_of_lineBreak outer ('\x7d' :: rest))
        (by simp only [prettyMembers, Text.join, List.length_append, List.length_cons] at hfuel; omega) (hvalue _)
      have hquote : skipSpace cs = '"' :: (k.toList.flatMap escapeChar ++
          '"' :: ':' :: ' ' :: (prettyChars level v ++ (lineBreak outer ++ '\x7d' :: rest))) := by
        rw [hcs, prettyMembers, prettyMembers, Text.join, quote]
        simp
      rw [readMembers, hquote]
      simp only [readString_quote, Option.bind_eq_bind, Option.bind_some, hcolon, hread, hclose]
      rfl
    | cons member members =>
      obtain ⟨k', v'⟩ := member
      obtain ⟨tail, hjoin⟩ := opens_members k' v' members level (lineBreak outer ++ '\x7d' :: rest)
      have hparts : Text.join (',' :: lineBreak level) (prettyMembers level ((k, v) :: (k', v') :: members)) =
          quote k ++ ':' :: ' ' :: prettyChars level v ++ ',' :: (lineBreak level ++
            Text.join (',' :: lineBreak level) (prettyMembers level ((k', v') :: members))) := by
        simp [prettyMembers, Text.join]
      rw [hparts] at hcs hfuel
      have hmore := readMembers_pretty ((k', v') :: members) depth level outer fuel
        (lineBreak level ++ (Text.join (',' :: lineBreak level) (prettyMembers level ((k', v') :: members)) ++
          (lineBreak outer ++ '\x7d' :: rest))) rest (List.cons_ne_nil _ members) hmembers
        (by simp only [List.length_append, List.length_cons] at hfuel; omega)
        (by rw [skipSpace_lineBreak, hjoin, skipSpace_of_not_isSpace (by decide)])
      have hread := readValue_pretty v depth level fuel (' ' :: (prettyChars level v ++ ',' :: (lineBreak level ++
          (Text.join (',' :: lineBreak level) (prettyMembers level ((k', v') :: members)) ++
            (lineBreak outer ++ '\x7d' :: rest))))) _ hv (ends_of_comma _)
        (by simp only [List.length_append, List.length_cons] at hfuel; omega) (hvalue _)
      have hquote : skipSpace cs = '"' :: (k.toList.flatMap escapeChar ++ '"' :: ':' :: ' ' :: (prettyChars level v ++
          ',' :: (lineBreak level ++ (Text.join (',' :: lineBreak level) (prettyMembers level ((k', v') :: members)) ++
            (lineBreak outer ++ '\x7d' :: rest))))) := by
        rw [hcs, quote]
        simp
      rw [readMembers, hquote]
      simp only [readString_quote, Option.bind_eq_bind, Option.bind_some, hcolon, hread, hcomma, hmore]
      rfl

end

/-! ## Texts -/

/-- The text of a value is read as the tree of the value. -/
lemma read?_pretty {v : Json} (h : v.isLegible 0 = true) : read? v.pretty = some (ofJson v) := by
  have hread := readValue_pretty v 0 0 (2 * (prettyChars 0 v).length + 2) (prettyChars 0 v) [] h ends_nil (by omega)
    (by simpa using skipSpace_pretty h 0 [])
  rw [read?, pretty, String.toList_ofList, hread]
  rfl

end Source

end FieldStudy
