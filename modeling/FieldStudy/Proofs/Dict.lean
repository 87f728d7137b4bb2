import Mathlib.Data.List.Basic
import Mathlib.Data.List.Induction
import Mathlib.Tactic.Common
import FieldStudy.Dict

/-!
# Tables hold each key once

A table that is only changed by `insert` and `erase` stays in the order of its keys (`Dict.Sorted`), so its pairs
are exactly what it answers to look-ups.
-/

namespace FieldStudy

namespace Dict

universe u v

variable {α : Type u} {β : Type v}

/-- The keys ascend. -/
def Sorted (d : Dict α) : Prop := d.Pairwise fun p q => p.1 < q.1

instance (d : Dict α) : Decidable d.Sorted := inferInstanceAs (Decidable (d.Pairwise fun p q => p.1 < q.1))

lemma sorted_nil : Sorted ([] : Dict α) := List.Pairwise.nil

lemma key_of_mem_insert {d : Dict α} {x : String} {v : α} {p : String × α} (h : p ∈ d.insert x v) :
    p = (x, v) ∨ p ∈ d := by
  induction d with
  | nil => exact .inl (List.mem_singleton.mp h)
  | cons q rest ih =>
    obtain ⟨k, w⟩ := q
    rw [insert] at h
    split at h
    · obtain rfl | hp := List.mem_cons.mp h
      · exact .inl rfl
      · exact .inr (List.mem_cons_of_mem _ hp)
    · split at h
      · obtain rfl | hp := List.mem_cons.mp h
        · exact .inl rfl
        · exact .inr hp
      · obtain rfl | hp := List.mem_cons.mp h
        · exact .inr (List.mem_cons_self ..)
        · obtain rfl | hp := ih hp
          · exact .inl rfl
          · exact .inr (List.mem_cons_of_mem _ hp)

lemma Sorted.insert {d : Dict α} (h : d.Sorted) (x : String) (v : α) : (d.insert x v).Sorted := by
  induction d with
  | nil => exact List.pairwise_singleton _ _
  | cons q rest ih =>
    obtain ⟨k, w⟩ := q
    obtain ⟨hfirst, hrest⟩ := List.pairwise_cons.mp h
    rw [Dict.insert]
    split
    · next hx =>
      subst hx
      exact List.pairwise_cons.mpr ⟨hfirst, hrest⟩
    · next hne =>
      split
      · next hlt =>
        refine List.pairwise_cons.mpr ⟨fun p hp => ?_, h⟩
        obtain rfl | hp := List.mem_cons.mp hp
        · exact hlt
        · exact String.lt_trans hlt (hfirst p hp)
      · next hnlt =>
        refine List.pairwise_cons.mpr ⟨fun p hp => ?_, ih hrest⟩
        obtain rfl | hp := key_of_mem_insert hp
        · -- Neither equal nor below: the new key stands behind the first one.
          by_contra hnot
          exact hne (String.le_antisymm (String.not_lt.mp hnot) (String.not_lt.mp hnlt))
        · exact hfirst p hp

lemma Sorted.erase {d : Dict α} (h : d.Sorted) (x : String) : (d.erase x).Sorted := h.filter _

lemma Sorted.nodup_keys {d : Dict α} (h : d.Sorted) : d.keys.Nodup := by
  refine List.pairwise_map.mpr (h.imp fun {p q} hlt heq => ?_)
  rw [heq] at hlt
  exact String.lt_irrefl _ hlt

lemma mem_of_get? {d : Dict α} {x : String} {v : α} (h : d.get? x = some v) : (x, v) ∈ d := by
  induction d with
  | nil => cases h
  | cons q rest ih =>
    obtain ⟨k, w⟩ := q
    rw [get?_cons] at h
    split at h
    · next hk =>
      obtain rfl := Option.some.inj h
      exact hk ▸ List.mem_cons_self ..
    · exact List.mem_cons_of_mem _ (ih h)

lemma mem_foldl_insert {pairs : List (String × α)} {d : Dict α} {p : String × α}
    (h : p ∈ pairs.foldl (fun d (k, v) => insert d k v) d) : p ∈ d ∨ p ∈ pairs := by
  induction pairs generalizing d with
  | nil => exact .inl h
  | cons q rest ih =>
    obtain hinsert | hrest := ih h
    · obtain rfl | hold := key_of_mem_insert hinsert
      · exact .inr List.mem_cons_self
      · exact .inl hold
    · exact .inr (List.mem_cons_of_mem _ hrest)

/-- What a table made of pairs holds is among them. -/
lemma mem_ofList {pairs : List (String × α)} {p : String × α} (h : p ∈ ofList pairs) : p ∈ pairs :=
  (mem_foldl_insert h).resolve_left List.not_mem_nil

lemma Sorted.get?_of_mem {d : Dict α} (h : d.Sorted) {x : String} {v : α} (hmem : (x, v) ∈ d) :
    d.get? x = some v := by
  induction d with
  | nil => cases hmem
  | cons q rest ih =>
    obtain ⟨k, w⟩ := q
    obtain ⟨hfirst, hrest⟩ := List.pairwise_cons.mp h
    rw [get?_cons]
    obtain heq | hmem := List.mem_cons.mp hmem
    · obtain ⟨rfl, rfl⟩ := Prod.mk.inj heq
      rw [if_pos rfl]
    · have hne : k ≠ x := fun heq => String.lt_irrefl k (heq ▸ hfirst (x, v) hmem)
      rw [if_neg hne]
      exact ih hrest hmem

lemma get?_mapValues (d : Dict α) (f : α → β) (x : String) :
    (d.mapValues f).get? x = (d.get? x).map f := by
  induction d with
  | nil => rfl
  | cons q rest ih =>
    obtain ⟨k, w⟩ := q
    rw [mapValues, List.map_cons, get?_cons, get?_cons]
    split
    · rfl
    · exact ih

lemma get?_adjust (d : Dict α) (x y : String) (f : α → α) :
    (d.adjust x f).get? y = if x = y then (d.get? y).map f else d.get? y := by
  rw [adjust]
  by_cases hxy : x = y
  · subst hxy
    cases hx : d.get? x <;> simp [hx]
  · cases hx : d.get? x <;> simp [hxy, get?_insert_of_ne]

/-! ## Mapping values -/

lemma mapValues_mapValues {γ : Type} (d : Dict α) (f : α → β) (g : β → γ) :
    (d.mapValues f).mapValues g = d.mapValues (g ∘ f) :=
  List.map_map

lemma contains_mapValues (d : Dict α) (f : α → β) (x : String) : (d.mapValues f).contains x = d.contains x := by
  rw [contains, contains, get?_mapValues, Option.isSome_map]

lemma Sorted.mapValues {d : Dict α} (h : d.Sorted) (f : α → β) : (d.mapValues f).Sorted :=
  List.pairwise_map.mpr h

lemma mapValues_insert (d : Dict α) (f : α → β) (x : String) (v : α) :
    (d.insert x v).mapValues f = (d.mapValues f).insert x (f v) := by
  induction d with
  | nil => rfl
  | cons q rest ih =>
    obtain ⟨k, w⟩ := q
    rw [show mapValues f ((k, w) :: rest) = (k, f w) :: mapValues f rest from rfl, insert, insert]
    split
    · rfl
    · split
      · rfl
      · rw [← ih]
        rfl

lemma mapValues_erase (d : Dict α) (f : α → β) (x : String) : (d.erase x).mapValues f = (d.mapValues f).erase x := by
  rw [erase, erase, mapValues, mapValues, List.filter_map]
  rfl

/-- A change of one value that a mapping does not see differently. -/
lemma mapValues_adjust (d : Dict α) {f : α → β} {g : α → α} {g' : β → β} (h : ∀ v, f (g v) = g' (f v)) (x : String) :
    (d.adjust x g).mapValues f = (d.mapValues f).adjust x g' := by
  rw [adjust, adjust, get?_mapValues]
  cases d.get? x with
  | none => rfl
  | some v => exact (d.mapValues_insert f x (g v)).trans (congrArg _ (h v))

/-- Setting a key to the value that it has changes nothing. -/
lemma Sorted.insert_self {d : Dict α} (h : d.Sorted) {x : String} {v : α} (hv : d.get? x = some v) :
    d.insert x v = d := by
  induction d with
  | nil => cases hv
  | cons q rest ih =>
    obtain ⟨k, w⟩ := q
    obtain ⟨hfirst, hrest⟩ := List.pairwise_cons.mp h
    rw [get?_cons] at hv
    rw [Dict.insert]
    by_cases hk : k = x
    · rw [if_pos hk] at hv
      rw [if_pos hk.symm, ← hk, Option.some.inj hv]
    · rw [if_neg hk] at hv
      have hlt : k < x := hfirst (x, v) (mem_of_get? hv)
      rw [if_neg (Ne.symm hk), if_neg (String.lt_asymm hlt), ih hrest hv]

/-! ## Tables made of pairs -/

lemma insert_of_forall_lt {d : Dict α} {x : String} (h : ∀ p ∈ d, p.1 < x) (v : α) : d.insert x v = d ++ [(x, v)] := by
  induction d with
  | nil => rfl
  | cons q rest ih =>
    obtain ⟨k, w⟩ := q
    have hlt : k < x := h (k, w) List.mem_cons_self
    have hne : x ≠ k := by
      rintro rfl
      exact String.lt_irrefl _ hlt
    rw [insert, if_neg hne, if_neg (String.lt_asymm hlt), ih fun p hp => h p (List.mem_cons_of_mem _ hp)]
    rfl

/-- A table is made of its own pairs. -/
lemma ofList_of_sorted {d : Dict α} (h : d.Sorted) : ofList d = d := by
  have hfold (before behind : Dict α) (h : Sorted (before ++ behind)) :
      behind.foldl (fun d (k, v) => insert d k v) before = before ++ behind := by
    induction behind generalizing before with
    | nil => exact (List.append_nil before).symm
    | cons q behind ih =>
      obtain ⟨k, v⟩ := q
      have hbelow : ∀ p ∈ before, p.1 < k := fun p hp => (List.pairwise_append.mp h).2.2 p hp (k, v) List.mem_cons_self
      rw [List.foldl_cons]
      dsimp only
      rw [insert_of_forall_lt hbelow, ih (before ++ [(k, v)]) (by simpa using h)]
      simp
  exact hfold [] d h

/-- A table made of pairs holds each key once. -/
lemma sorted_ofList (pairs : List (String × α)) : (ofList pairs).Sorted := by
  have hfold (d : Dict α) (h : d.Sorted) : Sorted (pairs.foldl (fun d (k, v) => insert d k v) d) := by
    induction pairs generalizing d with
    | nil => exact h
    | cons q rest ih => exact ih _ (h.insert q.1 q.2)
  exact hfold [] sorted_nil

/-- A look-up finds the first pair of the key. -/
lemma get?_eq_some_iff {d : Dict α} {x : String} {v : α} :
    d.get? x = some v ↔ ∃ earlier later, d = earlier ++ (x, v) :: later ∧ ∀ p ∈ earlier, p.1 ≠ x := by
  induction d with
  | nil => simp
  | cons q rest ih =>
    obtain ⟨k, w⟩ := q
    rw [get?_cons]
    constructor
    · intro h
      split at h
      · next hk =>
        obtain rfl := Option.some.inj h
        exact ⟨[], rest, by rw [hk, List.nil_append], List.forall_mem_nil _⟩
      · next hk =>
        obtain ⟨earlier, later, rfl, hearlier⟩ := ih.mp h
        exact ⟨(k, w) :: earlier, later, rfl, List.forall_mem_cons.mpr ⟨hk, hearlier⟩⟩
    · rintro ⟨earlier, later, heq, hearlier⟩
      cases earlier with
      | nil =>
        obtain ⟨hfirst, -⟩ := List.cons.inj heq
        obtain ⟨rfl, rfl⟩ := Prod.mk.inj hfirst
        rw [if_pos rfl]
      | cons q' earlier =>
        obtain ⟨rfl, hrest⟩ := List.cons.inj heq
        obtain ⟨hk, hearlier⟩ := List.forall_mem_cons.mp hearlier
        rw [if_neg hk]
        exact ih.mpr ⟨earlier, later, hrest, hearlier⟩

/-- Of several pairs of one key a table holds the last. -/
lemma get?_ofList (pairs : List (String × α)) (x : String) : (ofList pairs).get? x = get? pairs.reverse x := by
  induction pairs using List.reverseRecOn with
  | nil => rfl
  | append_singleton pairs q ih =>
    obtain ⟨k, w⟩ := q
    have hsnoc : ofList (pairs ++ [(k, w)]) = (ofList pairs).insert k w := by rw [ofList, List.foldl_append]; rfl
    rw [hsnoc, get?_insert, List.reverse_concat, get?_cons, ih]

lemma get?_ofList_eq_some_iff {pairs : List (String × α)} {x : String} {v : α} : (ofList pairs).get? x = some v ↔
    ∃ earlier later, pairs = earlier ++ (x, v) :: later ∧ ∀ p ∈ later, p.1 ≠ x := by
  rw [get?_ofList, get?_eq_some_iff]
  constructor
  · rintro ⟨later, earlier, heq, hlater⟩
    refine ⟨earlier.reverse, later.reverse, ?_, fun p hp => hlater p (List.mem_reverse.mp hp)⟩
    rw [← List.reverse_reverse pairs, heq]
    simp
  · rintro ⟨earlier, later, rfl, hlater⟩
    exact ⟨later.reverse, earlier.reverse, by simp, fun p hp => hlater p (List.mem_reverse.mp hp)⟩

lemma Sorted.mem_values {d : Dict α} (h : d.Sorted) {v : α} : v ∈ d.values ↔ ∃ x, d.get? x = some v := by
  constructor
  · intro hv
    obtain ⟨⟨x, v'⟩, hmem, rfl⟩ := List.mem_map.mp hv
    exact ⟨x, h.get?_of_mem hmem⟩
  · rintro ⟨x, hx⟩
    exact List.mem_map_of_mem (mem_of_get? hx)

/-- Tables are equal if they answer look-ups alike. -/
lemma Sorted.ext {d d' : Dict α} (h : d.Sorted) (h' : d'.Sorted) (hget : ∀ x, d.get? x = d'.get? x) : d = d' := by
  have hnodup {d : Dict α} (h : d.Sorted) : List.Nodup d := by
    refine List.Pairwise.imp (fun {p q} hlt => ?_) h
    rintro rfl
    exact String.lt_irrefl _ hlt
  have hmem : ∀ p, p ∈ d ↔ p ∈ d' := fun p =>
    ⟨fun hp => mem_of_get? (hget p.1 ▸ h.get?_of_mem hp), fun hp => mem_of_get? ((hget p.1).symm ▸ h'.get?_of_mem hp)⟩
  exact List.Perm.eq_of_pairwise (fun p q _ _ hlt hgt => absurd hgt (String.lt_asymm hlt)) h h'
    ((List.perm_ext_iff_of_nodup (hnodup h) (hnodup h')).mpr hmem)

lemma get?_append (d d' : Dict α) (x : String) : get? (d ++ d') x = (get? d x).or (get? d' x) := by
  induction d with
  | nil => rfl
  | cons q rest ih =>
    obtain ⟨k, v⟩ := q
    rw [List.cons_append, get?_cons, get?_cons]
    split
    · rfl
    · exact ih

end Dict

end FieldStudy
