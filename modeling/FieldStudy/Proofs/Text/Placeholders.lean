import Mathlib.Data.List.Basic
import Mathlib.Tactic.Common
import FieldStudy.Proofs.Dict
import FieldStudy.Run.Setup

/-!
# Putting in texts and resources

Texts are put in by one pass over a text and resources by a second one.  A text that is made of pieces, literal ones
without a dollar and placeholders, is replaced piece by piece in either pass (`Setup.substitute_pieces`): no placeholder
is found across the border of two pieces, and nothing that has been put in is looked at again in the same pass.  So the
outcome of both passes is told piece by piece as well (`Setup.format_pieces`), whatever characters the resources have.
-/

namespace FieldStudy

/-! ## Reading placeholders -/

namespace Text

variable {c o : Char} {opening key words rest after : List Char} {value : List Char → Option (List Char)}

lemma readKey_append (hkey : ∀ c ∈ key, c ≠ '\x7d' ∧ c ≠ '\n') (rest : List Char) :
    readKey (key ++ '\x7d' :: rest) = some (key, rest) := by
  induction key with
  | nil => rfl
  | cons c key ih =>
    obtain ⟨⟨hclosing, hbreak⟩, hkey⟩ := List.forall_mem_cons.mp hkey
    rw [List.cons_append, readKey, if_neg hclosing, if_neg hbreak, ih hkey]
    rfl

lemma isPrefixOf?_append (opening rest : List Char) : opening.isPrefixOf? (opening ++ rest) = some rest := by
  induction opening with
  | nil => rfl
  | cons c opening ih =>
    show (if c == c then opening.isPrefixOf? (opening ++ rest) else none) = some rest
    rw [if_pos (beq_self_eq_true c), ih]

/-- A placeholder is read up to its closing brace. -/
lemma readPlaceholder_append (opening : List Char) (hkey : ∀ c ∈ key, c ≠ '\x7d' ∧ c ≠ '\n') (rest : List Char) :
    readPlaceholder opening (opening ++ key ++ '\x7d' :: rest) = some (key, rest) := by
  rw [readPlaceholder, List.append_assoc, isPrefixOf?_append, Option.bind_some, readKey_append hkey]

lemma readPlaceholder_of_ne (hc : c ≠ o) (opening rest : List Char) :
    readPlaceholder (o :: opening) (c :: rest) = none := by
  show Option.bind (if o == c then opening.isPrefixOf? rest else none) readKey = none
  rw [if_neg (by simpa using Ne.symm hc)]
  rfl

lemma substitute_cons (h : readPlaceholder opening (c :: rest) = none) :
    substitute opening value (c :: rest) = c :: substitute opening value rest := by
  rw [substitute]
  split
  · rfl
  · next heq => cases h.symm.trans heq

lemma substitute_of_readPlaceholder (h : readPlaceholder opening (c :: rest) = some (key, after)) :
    substitute opening value (c :: rest) =
      (value key).getD (opening ++ key ++ ['\x7d']) ++ substitute opening value after := by
  rw [substitute]
  split
  · next heq => cases h.symm.trans heq
  · next heq =>
    obtain ⟨rfl, rfl⟩ := Prod.mk.inj (Option.some.inj (h.symm.trans heq))
    rfl

/-- Where nothing looks like an opening all is kept. -/
lemma substitute_append_of_notMem (h : o ∉ words) (rest : List Char) :
    substitute (o :: opening) value (words ++ rest) = words ++ substitute (o :: opening) value rest := by
  induction words with
  | nil => rfl
  | cons c words ih =>
    obtain ⟨hc, hwords⟩ := not_or.mp (mt List.mem_cons.mpr h)
    rw [List.cons_append, substitute_cons (readPlaceholder_of_ne (Ne.symm hc) opening _), ih hwords,
      List.cons_append]

end Text

/-! ## Pieces of texts -/

/-- What a placeholder names. -/
inductive PlaceholderKind
  | text
  | resource
deriving DecidableEq

def PlaceholderKind.opening : PlaceholderKind → String
  | .text => "$\x7btxt:"
  | .resource => "$\x7brsr:"

/-- A part of a text. -/
inductive TextPiece
  | literal (words : String)
  | placeholder (kind : PlaceholderKind) (key : String)

namespace TextPiece

/-- How the piece stands in a text. -/
def written : TextPiece → String
  | literal words => words
  | placeholder kind key => kind.opening ++ key ++ "\x7d"

/-- Literal pieces have no dollar, and a key has neither a dollar nor what would end it. -/
def IsPlain : TextPiece → Prop
  | literal words => '$' ∉ words.toList
  | placeholder _ key => ∀ c ∈ key.toList, c ≠ '$' ∧ c ≠ '\x7d' ∧ c ≠ '\n'

instance : DecidablePred IsPlain
  | literal words => inferInstanceAs (Decidable ('$' ∉ words.toList))
  -- Only the characters of the key are looked at; instances for all characters look at every one there is.
  | placeholder _ key => List.decidableBAll (fun c => c ≠ '$' ∧ c ≠ '\x7d' ∧ c ≠ '\n') key.toList

/-- What the piece comes to in a pass for one kind of placeholder; an unknown key leaves it as written. -/
def filled (kind : PlaceholderKind) (table : Dict String) : TextPiece → String
  | literal words => words
  | placeholder other key =>
    if other = kind then (table.get? key).getD (placeholder other key).written
    else (placeholder other key).written

lemma filled_self (kind : PlaceholderKind) (table : Dict String) (key : String) :
    (placeholder kind key).filled kind table = (table.get? key).getD (placeholder kind key).written := if_pos rfl

lemma filled_of_ne {kind other : PlaceholderKind} (h : other ≠ kind) (table : Dict String) (key : String) :
    (placeholder other key).filled kind table = (placeholder other key).written := if_neg h

end TextPiece

/-- The text that is made of some pieces. -/
def textOf (pieces : List TextPiece) : String := String.join (pieces.map TextPiece.written)

/-- Joining what some lists come to, each joined by itself. -/
lemma join_flatMap {α β : Type} (f : α → List β) (g : β → String) (xs : List α) :
    String.join ((xs.flatMap f).map g) = String.join (xs.map fun x => String.join ((f x).map g)) := by
  refine String.toList_injective ?_
  simp only [String.toList_join, List.flatMap_map, List.flatMap_assoc]

lemma textOf_flatMap {α : Type} (f : α → List TextPiece) (xs : List α) :
    textOf (xs.flatMap f) = String.join (xs.map fun x => textOf (f x)) := join_flatMap f TextPiece.written xs

namespace Setup

open TextPiece

variable {kind other : PlaceholderKind} {table : Dict String} {key : String} {rest : List Char}

/-! ## One pass -/

/-- Every placeholder begins with a dollar and has none behind it. -/
lemma exists_opening (kind : PlaceholderKind) : ∃ marks, kind.opening.toList = '$' :: marks ∧ '$' ∉ marks := by
  cases kind with
  | text => exact ⟨"\x7btxt:".toList, rfl, by decide⟩
  | resource => exact ⟨"\x7brsr:".toList, rfl, by decide⟩

/-- A pass for one kind does not find the placeholders of the other kind. -/
lemma readPlaceholder_of_other (h : other ≠ kind) (rest : List Char) :
    Text.readPlaceholder kind.opening.toList (other.opening.toList ++ rest) = none := by
  cases kind <;> cases other <;> first | exact absurd rfl h | rfl

lemma toList_written (kind : PlaceholderKind) (key : String) :
    (placeholder kind key).written.toList = kind.opening.toList ++ key.toList ++ ['\x7d'] := by
  rw [written, String.toList_append, String.toList_append]
  rfl

lemma substitute_words {words : List Char} (h : '$' ∉ words) (kind : PlaceholderKind) (table : Dict String)
    (rest : List Char) :
    substitute kind.opening table (words ++ rest) = words ++ substitute kind.opening table rest := by
  obtain ⟨marks, hopening, -⟩ := exists_opening kind
  simp only [substitute, hopening]
  exact Text.substitute_append_of_notMem h rest

/-- A placeholder of the kind that the pass is for. -/
lemma substitute_own (hkey : ∀ c ∈ key.toList, c ≠ '\x7d' ∧ c ≠ '\n') (table : Dict String) (rest : List Char) :
    substitute kind.opening table ((placeholder kind key).written.toList ++ rest) =
      ((table.get? key).getD (placeholder kind key).written).toList ++ substitute kind.opening table rest := by
  obtain ⟨marks, hopening, -⟩ := exists_opening kind
  have hread := Text.readPlaceholder_append kind.opening.toList hkey rest
  have htext : (placeholder kind key).written.toList ++ rest =
      kind.opening.toList ++ key.toList ++ '\x7d' :: rest := by rw [toList_written]; simp
  rw [htext]
  simp only [substitute, hopening, List.cons_append] at hread ⊢
  rw [Text.substitute_of_readPlaceholder hread, String.ofList_toList]
  congr 1
  cases table.get? key with
  | none => simp [toList_written, hopening]
  | some v => rfl

/-- A placeholder of the other kind: its dollar begins nothing, and there is no other dollar in it. -/
lemma substitute_other (h : other ≠ kind) (hkey : '$' ∉ key.toList) (table : Dict String) (rest : List Char) :
    substitute kind.opening table ((placeholder other key).written.toList ++ rest) =
      (placeholder other key).written.toList ++ substitute kind.opening table rest := by
  obtain ⟨marks, hopening, hmarks⟩ := exists_opening other
  have hread := readPlaceholder_of_other h (key.toList ++ ['\x7d'] ++ rest)
  have hbody : '$' ∉ marks ++ key.toList ++ ['\x7d'] := by simp [hmarks, hkey]
  have htext : (placeholder other key).written.toList = '$' :: (marks ++ key.toList ++ ['\x7d']) := by
    rw [toList_written, hopening]
    rfl
  have hfirst : substitute kind.opening table ('$' :: (marks ++ key.toList ++ ['\x7d'] ++ rest)) =
      '$' :: substitute kind.opening table (marks ++ key.toList ++ ['\x7d'] ++ rest) :=
    Text.substitute_cons (by simpa [hopening] using hread)
  rw [htext, List.cons_append, hfirst, substitute_words hbody, List.cons_append]

/-- A pass over a piece and what follows it. -/
lemma substitute_piece {p : TextPiece} (hp : p.IsPlain) (kind : PlaceholderKind) (table : Dict String)
    (rest : List Char) : substitute kind.opening table (p.written.toList ++ rest) =
      (p.filled kind table).toList ++ substitute kind.opening table rest := by
  cases p with
  | literal words => exact substitute_words hp kind table rest
  | placeholder other key =>
    by_cases hkind : other = kind
    · subst hkind
      rw [filled_self]
      exact substitute_own (fun c hc => (hp c hc).2) table rest
    · rw [filled_of_ne hkind]
      exact substitute_other hkind (fun hmem => (hp '$' hmem).1 rfl) table rest

/-- A pass over a text that is made of pieces replaces each of them by itself. -/
lemma substitute_pieces {pieces : List TextPiece} (hpieces : ∀ p ∈ pieces, p.IsPlain) (kind : PlaceholderKind)
    (table : Dict String) : substitute kind.opening table (textOf pieces).toList =
      (String.join (pieces.map (filled kind table))).toList := by
  induction pieces with
  | nil => simp [textOf, substitute, Text.substitute]
  | cons p pieces ih =>
    obtain ⟨hp, hpieces⟩ := List.forall_mem_cons.mp hpieces
    have hrest := ih hpieces
    rw [textOf] at hrest
    rw [textOf, List.map_cons, String.join_cons, String.toList_append, substitute_piece hp, hrest, List.map_cons,
      String.join_cons, String.toList_append]

/-! ## Both passes -/

/-- What a piece comes to if these are the pieces of the texts that placeholders name: a known text is put in with its
resources, a known resource as it is, and everything else is kept as written. -/
def meaning (s : Setup) (texts : String → List TextPiece) : TextPiece → String
  | literal words => words
  | placeholder .text key =>
    if s.definition.content.texts.contains key then
      String.join ((texts key).map (filled .resource s.definition.content.resources))
    else (placeholder .text key).written
  | placeholder .resource key =>
    (s.definition.content.resources.get? key).getD (placeholder .resource key).written

/-- The pieces that the first pass makes of one. -/
def opened (s : Setup) (texts : String → List TextPiece) : TextPiece → List TextPiece
  | literal words => [literal words]
  | placeholder .text key =>
    if s.definition.content.texts.contains key then texts key else [placeholder .text key]
  | placeholder .resource key => [placeholder .resource key]

/-- The second pass puts the resources in. -/
lemma join_opened (s : Setup) (texts : String → List TextPiece) (p : TextPiece) :
    String.join ((s.opened texts p).map (filled .resource s.definition.content.resources)) = s.meaning texts p := by
  have hone (q : TextPiece) : String.join ([q].map (filled .resource s.definition.content.resources)) =
      q.filled .resource s.definition.content.resources := by simp
  cases p with
  | literal words => exact hone _
  | placeholder kind key =>
    cases kind with
    | resource => exact (hone _).trans (filled_self .resource _ key)
    | text =>
      rw [opened, meaning]
      split
      · rfl
      · exact (hone _).trans (filled_of_ne (by decide) _ _)

section

variable {s : Setup} {texts : String → List TextPiece}
  (htexts : ∀ key text, s.definition.content.texts.get? key = some text →
    text = textOf (texts key) ∧ ∀ p ∈ texts key, p.IsPlain)

include htexts

lemma isPlain_opened {p : TextPiece} (hp : p.IsPlain) : ∀ q ∈ s.opened texts p, q.IsPlain := by
  have hkept : ∀ q ∈ [p], q.IsPlain := fun q hq => List.mem_singleton.mp hq ▸ hp
  cases p with
  | literal words => exact hkept
  | placeholder kind key =>
    cases kind with
    | resource => exact hkept
    | text =>
      rw [opened]
      split
      · next hknown =>
        obtain ⟨text, htext⟩ := Option.isSome_iff_exists.mp hknown
        exact (htexts key text htext).2
      · exact hkept

/-- The first pass puts the pieces of the texts in. -/
lemma filled_text (p : TextPiece) : p.filled .text s.definition.content.texts = textOf (s.opened texts p) := by
  have hself (q : TextPiece) : q.written = textOf [q] := by simp [textOf]
  cases p with
  | literal words => exact hself (literal words)
  | placeholder kind key =>
    cases kind with
    | resource => exact (filled_of_ne (by decide) _ _).trans (hself _)
    | text =>
      rw [filled_self, opened, Dict.contains]
      cases htext : s.definition.content.texts.get? key with
      | none => exact hself (placeholder .text key)
      | some text => exact (htexts key text htext).1

/-- A text is formatted piece by piece.  Literal pieces are kept.  A placeholder with a known key is replaced: by its
text with the resources put in, or by its resource, which is put in as it is, whatever characters it has.  A placeholder
with an unknown key is kept as written.

The texts that placeholders name are made of pieces as well; only resources are put into them. -/
theorem format_pieces {pieces : List TextPiece} (hpieces : ∀ p ∈ pieces, p.IsPlain) :
    s.format (textOf pieces) = String.join (pieces.map (s.meaning texts)) := by
  have hopened : ∀ q ∈ pieces.flatMap (s.opened texts), q.IsPlain := by
    intro q hq
    obtain ⟨p, hp, hq⟩ := List.mem_flatMap.mp hq
    exact isPlain_opened htexts (hpieces p hp) q hq
  have hfirst : String.join (pieces.map (filled .text s.definition.content.texts)) =
      textOf (pieces.flatMap (s.opened texts)) := by
    rw [List.map_congr_left fun p _ => filled_text htexts p]
    exact (textOf_flatMap _ pieces).symm
  have hsecond : String.join ((pieces.flatMap (s.opened texts)).map (filled .resource s.definition.content.resources)) =
      String.join (pieces.map (s.meaning texts)) := by
    rw [join_flatMap, List.map_congr_left fun p _ => join_opened s texts p]
  have htext := substitute_pieces hpieces .text s.definition.content.texts
  have hresource := substitute_pieces hopened .resource s.definition.content.resources
  rw [hfirst] at htext
  rw [hsecond] at hresource
  rw [format]
  exact (congrArg String.ofList ((congrArg _ htext).trans hresource)).trans String.ofList_toList

end

/-- A resource that looks like placeholders is put in as it is, once by itself and once within a text. -/
theorem format_pieces_lookAlikes :
    let s : Setup :=
      { definition :=
          { content :=
              { texts := [("hello", "Hi $\x7brsr:name\x7d$\x7brsr:none\x7d")]
                resources := [("name", "$\x7btxt:hello\x7d$\x7brsr:name\x7d")] } }
        folder := [] }
    let pieces : List TextPiece :=
      [.literal "\x7b", .placeholder .text "hello", .literal "\x7d, ", .placeholder .resource "name",
        .placeholder .text "none"]
    s.format (textOf pieces) =
      "\x7bHi $\x7btxt:hello\x7d$\x7brsr:name\x7d$\x7brsr:none\x7d\x7d, " ++
        "$\x7btxt:hello\x7d$\x7brsr:name\x7d$\x7btxt:none\x7d" := by
  intro s pieces
  let texts : String → List TextPiece := fun _ =>
    [.literal "Hi ", .placeholder .resource "name", .placeholder .resource "none"]
  have htexts : ∀ key text, s.definition.content.texts.get? key = some text →
      text = textOf (texts key) ∧ ∀ p ∈ texts key, p.IsPlain := by
    intro key text h
    obtain ⟨rfl, rfl⟩ := Prod.mk.inj (List.mem_singleton.mp (Dict.mem_of_get? h))
    exact ⟨by decide +kernel, by decide +kernel⟩
  have hpieces : ∀ p ∈ pieces, p.IsPlain := by decide +kernel
  exact (format_pieces htexts hpieces).trans (by decide +kernel)

end Setup

end FieldStudy
