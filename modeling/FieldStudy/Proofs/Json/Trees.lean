import Mathlib.Data.List.Basic
import Mathlib.Data.List.Nodup
import Mathlib.Tactic.Common
import FieldStudy.Json.Decoder
import FieldStudy.Proofs.Dict

/-!
# Decoding what has been encoded

The tree of a value has the value itself, in canonical form, and a structure that is given as an object with each field
once is found to have these fields.
-/

namespace FieldStudy

namespace Json

mutual

/-- Whether the members of every object are in key order. -/
def isOrdered : Json → Bool
  | .arr items => areOrdered items
  | .obj members => Dict.Sorted members && membersOrdered members
  | .null | .bool _ | .int _ | .float _ | .str _ => true

def areOrdered : List Json → Bool
  | [] => true
  | v :: rest => isOrdered v && areOrdered rest

def membersOrdered : List (String × Json) → Bool
  | [] => true
  | (_, v) :: rest => isOrdered v && membersOrdered rest

end

lemma isOrdered_of_mem {members : List (String × Json)} (h : membersOrdered members = true) {p : String × Json}
    (hp : p ∈ members) : p.2.isOrdered = true := by
  induction members with
  | nil => cases hp
  | cons q rest ih =>
    obtain ⟨hq, hrest⟩ := Bool.and_eq_true_iff.mp h
    obtain rfl | hp := List.mem_cons.mp hp
    · exact hq
    · exact ih hrest hp

lemma membersOrdered_of_mem {members : List (String × Json)} (h : ∀ p ∈ members, p.2.isOrdered = true) :
    membersOrdered members = true := by
  induction members with
  | nil => rfl
  | cons p rest ih =>
    obtain ⟨hp, hrest⟩ := List.forall_mem_cons.mp h
    exact Bool.and_eq_true_iff.mpr ⟨hp, ih hrest⟩

mutual

/-- A value that is in order is canonical. -/
theorem canonical_of_isOrdered : ∀ v : Json, v.isOrdered = true → v.canonical = v
  | .null, _ | .bool _, _ | .int _, _ | .float _, _ | .str _, _ => rfl
  | .arr items, h => congrArg arr (canonicalItems_of_areOrdered items h)
  | .obj members, h => by
    obtain ⟨hsorted, hmembers⟩ := Bool.and_eq_true_iff.mp h
    rw [canonical, canonicalMembers_of_membersOrdered members hmembers,
      Dict.ofList_of_sorted (of_decide_eq_true hsorted)]

theorem canonicalItems_of_areOrdered : ∀ items : List Json, areOrdered items = true → canonicalItems items = items
  | [], _ => rfl
  | v :: rest, h => by
    obtain ⟨hv, hrest⟩ := Bool.and_eq_true_iff.mp h
    rw [canonicalItems, canonical_of_isOrdered v hv, canonicalItems_of_areOrdered rest hrest]

theorem canonicalMembers_of_membersOrdered : ∀ members : List (String × Json),
    membersOrdered members = true → canonicalMembers members = members
  | [], _ => rfl
  | (k, v) :: rest, h => by
    obtain ⟨hv, hrest⟩ := Bool.and_eq_true_iff.mp h
    rw [canonicalMembers, canonical_of_isOrdered v hv, canonicalMembers_of_membersOrdered rest hrest]

end

end Json

namespace Source

open Json

mutual

/-- The tree of a value has that value, with its members in order. -/
theorem value?_ofJson : ∀ v : Json, value? (ofJson v) = some v.canonical
  | .null => rfl
  | .bool _ => rfl
  | .int _ => rfl
  | .float _ => rfl
  | .str _ => rfl
  | .arr items => by rw [ofJson, value?, values?_ofItems items]; rfl
  | .obj members => by rw [ofJson, value?, memberValues?_ofMembers members]; rfl

theorem values?_ofItems : ∀ items : List Json, values? (ofItems items) = some (canonicalItems items)
  | [] => rfl
  | v :: items => by rw [ofItems, values?, value?_ofJson v, values?_ofItems items]; rfl

theorem memberValues?_ofMembers : ∀ members : List (String × Json),
    memberValues? (ofMembers members) = some (canonicalMembers members)
  | [] => rfl
  | (k, v) :: members => by rw [ofMembers, memberValues?, value?_ofJson v, memberValues?_ofMembers members]; rfl

end

mutual

/-- The value of a tree has the members of every object in order. -/
theorem isOrdered_of_value? : ∀ (s : Source) (v : Json), value? s = some v → v.isOrdered = true
  | .null, _, h | .bool _, _, h | .int _, _, h | .float _, _, h | .str _, _, h => by
    obtain rfl := Option.some.inj h
    rfl
  | .arr items, v, h => by
    obtain ⟨vs, hvs, rfl⟩ := Option.map_eq_some_iff.mp h
    exact areOrdered_of_values? items vs hvs
  | .obj members, v, h => by
    obtain ⟨ms, hms, rfl⟩ := Option.map_eq_some_iff.mp h
    have hvalues := isOrdered_of_memberValues? members ms hms
    exact Bool.and_eq_true_iff.mpr ⟨decide_eq_true (Dict.sorted_ofList ms),
      membersOrdered_of_mem fun p hp => hvalues p (Dict.mem_ofList hp)⟩
  | .unreadable, _, h => by cases h

theorem areOrdered_of_values? : ∀ (items : List Source) (vs : List Json), values? items = some vs →
    areOrdered vs = true
  | [], _, h => by
    obtain rfl := Option.some.inj h
    rfl
  | s :: items, _, h => by
    obtain ⟨v, hv, h⟩ := Option.bind_eq_some_iff.mp h
    obtain ⟨vs, hvs, h⟩ := Option.bind_eq_some_iff.mp h
    obtain rfl := Option.some.inj h
    exact Bool.and_eq_true_iff.mpr ⟨isOrdered_of_value? s v hv, areOrdered_of_values? items vs hvs⟩

theorem isOrdered_of_memberValues? : ∀ (members : List (Option String × Source)) (ms : List (String × Json)),
    memberValues? members = some ms → ∀ p ∈ ms, p.2.isOrdered = true
  | [], _, h => by
    obtain rfl := Option.some.inj h
    exact List.forall_mem_nil _
  | (k, s) :: members, _, h => by
    obtain ⟨key, -, h⟩ := Option.bind_eq_some_iff.mp h
    obtain ⟨v, hv, h⟩ := Option.bind_eq_some_iff.mp h
    obtain ⟨ms, hms, h⟩ := Option.bind_eq_some_iff.mp h
    obtain rfl := Option.some.inj h
    exact List.forall_mem_cons.mpr ⟨isOrdered_of_value? s v hv, isOrdered_of_memberValues? members ms hms⟩

end

lemma ofItems_eq_map (items : List Json) : ofItems items = items.map ofJson := by
  induction items with
  | nil => rfl
  | cons v items ih => rw [ofItems, ih, List.map_cons]

/-- What is canonical is in order. -/
lemma isOrdered_canonical (v : Json) : v.canonical.isOrdered = true :=
  isOrdered_of_value? (ofJson v) _ (value?_ofJson v)

end Source

namespace Decoder

open Source

variable {α : Type} {d : Decoder α} {f : α → Json}

/-! ## Numbers, lists and tables -/

/-- A number of 64 bits with a sign. -/
def IsInt64 (n : Int) : Prop := Int64.minValue.toInt ≤ n ∧ n ≤ Int64.maxValue.toInt

instance : DecidablePred IsInt64 := fun n =>
  inferInstanceAs (Decidable (Int64.minValue.toInt ≤ n ∧ n ≤ Int64.maxValue.toInt))

lemma int64_ofJson {n : Int} (h : IsInt64 n) : int64 (ofJson (.int n)) = some n := if_pos h

lemma natural_ofJson {n bits : Nat} (h : n < Nat.pow 2 bits) : natural bits (ofJson (.int n)) = some n := by
  rw [natural, ofJson, integer, if_pos (by omega)]
  rfl

lemma list_ofJson {items : List α} (h : ∀ a ∈ items, d (ofJson (f a)) = some a) :
    list d (ofJson (Json.ofList f items)) = some items := by
  rw [Json.ofList, ofJson, list, ofItems_eq_map, List.map_map]
  induction items with
  | nil => rfl
  | cons a items ih =>
    have hrest := ih fun b hb => h b (List.mem_cons_of_mem a hb)
    rw [List.map_cons, List.mapM_cons, hrest, Function.comp_apply, h a List.mem_cons_self]
    rfl

/-- The members of a table, read one by one. -/
lemma mapM_ofMembers {g : Option String × Source → Option (String × α)}
    (hg : ∀ k s, g (some k, s) = (d s).bind fun v => some (k, v)) {table : Dict α}
    (h : ∀ p ∈ table, d (ofJson (f p.2)) = some p.2) : (ofMembers (Dict.mapValues f table)).mapM g = some table := by
  induction table with
  | nil => rfl
  | cons p table ih =>
    have hp : g (some p.1, ofJson (f p.2)) = some p := by rw [hg, h p List.mem_cons_self, Option.bind_some]
    have hrest := ih fun q hq => h q (List.mem_cons_of_mem _ hq)
    have hcons : ofMembers (Dict.mapValues f (p :: table)) =
        (some p.1, ofJson (f p.2)) :: ofMembers (Dict.mapValues f table) := rfl
    rw [hcons, List.mapM_cons, hp, hrest]
    rfl

lemma dict_ofJson {table : Dict α} (hsorted : table.Sorted) (h : ∀ p ∈ table, d (ofJson (f p.2)) = some p.2) :
    dict d (ofJson (Json.ofDict f table)) = some table := by
  refine Eq.trans (congrArg (Option.bind · fun pairs => some (Dict.ofList pairs))
    (mapM_ofMembers (d := d) (fun k s => rfl) h)) ?_
  exact congrArg some (Dict.ofList_of_sorted hsorted)

lemma object_ofJson {table : Dict Json} (h : (Json.obj table).isOrdered = true) :
    object (ofJson (.obj table)) = some table := by
  obtain ⟨hsorted, hmembers⟩ := Bool.and_eq_true_iff.mp h
  have hread := dict_ofJson (d := json) (f := id) (of_decide_eq_true hsorted) fun p hp => by
    rw [json, id_eq, value?_ofJson, Json.canonical_of_isOrdered _ (Json.isOrdered_of_mem hmembers hp)]
  have htable : Json.ofDict id table = .obj table := congrArg Json.obj (List.map_id table)
  rwa [htable] at hread

/-! ## Structures -/

lemma distinctKeys_of_nodup {members : List (String × Source)} (h : (members.map (·.1)).Nodup) :
    distinctKeys members = true := by
  induction members with
  | nil => rfl
  | cons p members ih =>
    obtain ⟨k, s⟩ := p
    obtain ⟨hk, hrest⟩ := List.nodup_cons.mp h
    rw [distinctKeys, ih hrest, Bool.and_true, List.all_eq_true]
    intro q hq
    have hmem : q.1 ∈ members.map (·.1) := List.mem_map.mpr ⟨q, hq, rfl⟩
    have hne : q.1 ≠ k := fun heq => hk (heq ▸ hmem)
    simpa using hne

/-- The fields of a structure that is given as an object with these members. -/
def given (members : List (String × Json)) : Members := ⟨members.map fun p => (p.1, ofJson p.2), false⟩

lemma readableMembers_ofMembers (members : List (String × Json)) :
    readableMembers (ofMembers members) = some (members.map fun p => (p.1, ofJson p.2)) := by
  induction members with
  | nil => rfl
  | cons p members ih =>
    obtain ⟨k, v⟩ := p
    rw [readableMembers] at ih
    rw [ofMembers, readableMembers, List.mapM_cons, ih]
    rfl

lemma distinctKeys_of_sublist {names : List String} {members : List (String × Json)} (hnames : names.Nodup)
    (hmembers : (members.map (·.1)).Sublist names) :
    distinctKeys (members.map fun p => (p.1, ofJson p.2)) = true :=
  distinctKeys_of_nodup (by simpa [List.map_map, Function.comp_def] using hnames.sublist hmembers)

lemma contains_of_sublist {names : List String} {members : List (String × Json)}
    (hmembers : (members.map (·.1)).Sublist names) :
    ∀ q ∈ members.map fun p => (p.1, ofJson p.2), names.contains q.1 = true :=
  List.forall_mem_map.mpr fun p hp => by simpa using hmembers.subset (List.mem_map.mpr ⟨p, hp, rfl⟩)

/-- Members that are named in order are found as they are. -/
lemma bind_members? {names : List String} {members : List (String × Json)} {k : Members → Option α}
    (hnames : names.Nodup) (hmembers : (members.map (·.1)).Sublist names) :
    (members? names (ofJson (.obj members))).bind k = k (given members) := by
  rw [ofJson, members?, readableMembers_ofMembers]
  simp only [Option.bind_eq_bind, Option.bind_some, List.filter_eq_self.mpr (contains_of_sublist hmembers)]
  rw [if_pos (distinctKeys_of_sublist hnames hmembers)]
  rfl

/-- Members of other names are collected as a table. -/
lemma bind_collected? {names : List String} {members : List (String × Json)} {extra : Dict Json}
    {k : Members × Dict Json → Option α} (hnames : names.Nodup) (hmembers : (members.map (·.1)).Sublist names)
    (hextra : ∀ p ∈ extra, p.1 ∉ names) (hordered : (Json.obj extra).isOrdered = true) :
    (collected? names (ofJson (.obj (members ++ extra)))).bind k = k (given members, extra) := by
  obtain ⟨hsorted, hvalues⟩ := Bool.and_eq_true_iff.mp hordered
  have hpartition : ((members ++ extra).map fun p => (p.1, ofJson p.2)).partition (names.contains ·.1) =
      (members.map fun p => (p.1, ofJson p.2), extra.map fun p => (p.1, ofJson p.2)) := by
    have hknown := contains_of_sublist hmembers
    have hunknown : ∀ q ∈ extra.map fun p => (p.1, ofJson p.2), names.contains q.1 = false :=
      List.forall_mem_map.mpr fun p hp => by simpa using hextra p hp
    rw [List.partition_eq_filter_filter, List.map_append, List.filter_append, List.filter_append]
    congr 1
    · rw [List.filter_eq_self.mpr hknown, List.filter_eq_nil_iff.mpr fun q hq => by simpa using hunknown q hq,
        List.append_nil]
    · rw [List.filter_eq_nil_iff.mpr fun q hq => by simpa using hknown q hq,
        List.filter_eq_self.mpr fun q hq => by simpa using hunknown q hq, List.nil_append]
  have hothers : (extra.map fun p => (p.1, ofJson p.2)).mapM (fun p => (json p.2).bind fun v => some (p.1, v)) =
      some extra := by
    clear hordered hsorted hextra hpartition
    induction extra with
    | nil => rfl
    | cons p extra ih =>
      obtain ⟨hp, hrest⟩ := Bool.and_eq_true_iff.mp hvalues
      rw [List.map_cons, List.mapM_cons, ih hrest, json, value?_ofJson, Json.canonical_of_isOrdered _ hp]
      rfl
  rw [ofJson, collected?, readableMembers_ofMembers]
  simp only [Option.bind_eq_bind, Option.bind_some, hpartition]
  rw [show (fun x : String × Source => (json x.2).bind fun v => pure (x.1, v)) =
    fun p => (json p.2).bind fun v => some (p.1, v) from rfl, hothers, Option.bind_some,
    if_pos (distinctKeys_of_sublist hnames hmembers), Dict.ofList_of_sorted (of_decide_eq_true hsorted)]
  rfl

section Given

variable {members : List (String × Json)} {name : String} {v : Json}

lemma find?_given (members : List (String × Json)) (name : String) :
    (given members).find? name = (Dict.get? members name).map ofJson := by
  rw [given, Members.find?]
  induction members with
  | nil => rfl
  | cons p members ih =>
    obtain ⟨k, v⟩ := p
    rw [Dict.get?_cons, List.map_cons]
    by_cases hk : k = name
    · simp [hk]
    · simpa [hk] using ih

lemma required_given (h : Dict.get? members name = some v) : (given members).required name d = d (ofJson v) := by
  rw [Members.required, find?_given, h]
  rfl

lemma withDefault_given (h : Dict.get? members name = some v) (a : α) :
    (given members).withDefault name a d = d (ofJson v) := by
  rw [Members.withDefault, find?_given, h]
  rfl

lemma optional_given (h : Dict.get? members name = some v) : (given members).optional name d = option d (ofJson v) := by
  rw [Members.optional, find?_given, h]
  rfl

/-- A field that is left out when it is empty. -/
lemma defaultNone_given {a : Option α} (h : Dict.get? members name = a.map f)
    (hd : ∀ b ∈ a, option d (ofJson (f b)) = some (some b)) : (given members).defaultNone name d = some a := by
  rw [Members.defaultNone, Members.withDefault, find?_given, h]
  cases a with
  | none => rfl
  | some b => exact hd b rfl

end Given

lemma get?_optionalMember (key : String) (f : α → Json) (a : Option α) (name : String) :
    Dict.get? (Json.optionalMember key f a) name = if key = name then a.map f else none := by
  cases a with
  | none => exact (ite_self none).symm
  | some a => rfl

lemma sublist_optionalMember (key : String) (f : α → Json) (a : Option α) :
    ((Json.optionalMember key f a).map (·.1)).Sublist [key] := by
  cases a with
  | none => exact List.nil_sublist _
  | some a => exact List.Sublist.refl _

/-! ## What has been decoded -/

section Decoded

variable {source : Source} {m : Members} {name : String} {a : α}

lemma isInt64_of_int64 {n : Int} (h : int64 source = some n) : IsInt64 n := by
  rw [int64, integer.eq_def] at h
  split at h
  · split at h
    · next hrange => exact Option.some.inj h ▸ hrange
    · cases h
  · cases h

lemma lt_of_natural {bits n : Nat} (h : natural bits source = some n) : n < Nat.pow 2 bits := by
  obtain ⟨k, hk, rfl⟩ := Option.map_eq_some_iff.mp h
  have hpos : 0 < Nat.pow 2 bits := Nat.pow_pos Nat.two_pos
  rw [integer.eq_def] at hk
  split at hk
  · split at hk
    · obtain rfl := Option.some.inj hk
      omega
    · cases hk
  · cases hk

lemma exists_of_mem_mapM {β γ : Type} {g : β → Option γ} {l : List β} {l' : List γ} (h : l.mapM g = some l') :
    ∀ c ∈ l', ∃ b ∈ l, g b = some c := by
  induction l generalizing l' with
  | nil =>
    obtain rfl : [] = l' := Option.some.inj h
    exact List.forall_mem_nil _
  | cons b l ih =>
    rw [List.mapM_cons] at h
    obtain ⟨c, hc, h⟩ := Option.bind_eq_some_iff.mp h
    obtain ⟨rest, hrest, h⟩ := Option.bind_eq_some_iff.mp h
    obtain rfl := Option.some.inj h
    refine List.forall_mem_cons.mpr ⟨⟨b, List.mem_cons_self, hc⟩, fun c' hc' => ?_⟩
    obtain ⟨b', hb', heq⟩ := ih hrest c' hc'
    exact ⟨b', List.mem_cons_of_mem _ hb', heq⟩

lemma table_of_dict {table : Dict α} (h : dict d source = some table) :
    table.Sorted ∧ ∀ p ∈ table, ∃ s, d s = some p.2 := by
  rw [dict.eq_def] at h
  split at h
  · obtain ⟨pairs, hpairs, h⟩ := Option.bind_eq_some_iff.mp h
    obtain rfl := Option.some.inj h
    refine ⟨Dict.sorted_ofList pairs, fun p hp => ?_⟩
    obtain ⟨⟨k, s⟩, -, hread⟩ := exists_of_mem_mapM hpairs p (Dict.mem_ofList hp)
    obtain ⟨key, -, hread⟩ := Option.bind_eq_some_iff.mp hread
    obtain ⟨v, hv, hread⟩ := Option.bind_eq_some_iff.mp hread
    obtain rfl := Option.some.inj hread
    exact ⟨s, hv⟩
  · cases h

lemma isOrdered_of_object {table : Dict Json} (h : object source = some table) :
    (Json.obj table).isOrdered = true := by
  obtain ⟨hsorted, hvalues⟩ := table_of_dict h
  refine Bool.and_eq_true_iff.mpr ⟨decide_eq_true hsorted, Json.membersOrdered_of_mem fun p hp => ?_⟩
  obtain ⟨s, hs⟩ := hvalues p hp
  exact isOrdered_of_value? s p.2 hs

lemma exists_of_required (h : m.required name d = some a) : ∃ s, d s = some a := by
  obtain ⟨s, -, hs⟩ := Option.bind_eq_some_iff.mp h
  exact ⟨s, hs⟩

lemma default_or_exists {a₀ : α} (h : m.withDefault name a₀ d = some a) : a = a₀ ∨ ∃ s, d s = some a := by
  rw [Members.withDefault] at h
  split at h
  · next s _ => exact .inr ⟨s, h⟩
  · exact .inl (Option.some.inj h).symm

/-- What is collected bears none of the names of the structure. -/
lemma table_of_collected? {names : List String} {extra : Dict Json} (h : collected? names source = some (m, extra)) :
    (Json.obj extra).isOrdered = true ∧ ∀ p ∈ extra, p.1 ∉ names := by
  rw [collected?.eq_def] at h
  split at h
  · obtain ⟨members, -, h⟩ := Option.bind_eq_some_iff.mp h
    simp only [List.partition_eq_filter_filter] at h
    obtain ⟨others, hothers, h⟩ := Option.bind_eq_some_iff.mp h
    split at h
    · obtain ⟨-, rfl⟩ := Prod.mk.inj (Option.some.inj h)
      have hread : ∀ p ∈ others, p.1 ∉ names ∧ p.2.isOrdered = true := fun p hp => by
        obtain ⟨⟨k, s⟩, hmem, hread⟩ := exists_of_mem_mapM hothers p hp
        obtain ⟨v, hv, hread⟩ := Option.bind_eq_some_iff.mp hread
        obtain rfl := Option.some.inj hread
        exact ⟨by simpa using (List.mem_filter.mp hmem).2, isOrdered_of_value? s v hv⟩
      exact ⟨Bool.and_eq_true_iff.mpr ⟨decide_eq_true (Dict.sorted_ofList others),
        Json.membersOrdered_of_mem fun p hp => (hread p (Dict.mem_ofList hp)).2⟩,
        fun p hp => (hread p (Dict.mem_ofList hp)).1⟩
    · cases h
  · cases h

end Decoded

end Decoder

end FieldStudy
