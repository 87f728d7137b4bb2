import Mathlib.Data.List.Basic
import Mathlib.Tactic.Common
import FieldStudy.Proofs.Dict
import FieldStudy.Proofs.Json.Trees
import FieldStudy.Run.Roles
import FieldStudy.Scenario.Action

/-!
# Merging configurations

Merging replaces settings one by one, and where old and new settings are objects the members of these one by one
(`get?_mergeConfig`).  A table covers a configuration if it has every setting of it, the same or as an object with all
its members and perhaps more (`Dict.Covers`).  It may have begun otherwise than the configuration: merging the same
settings into both leaves it covering (`Dict.Covers.mergeConfig`), and so does merging settings of the configuration
itself (`Dict.Covers.pick`), which changes nothing where the two are equal (`mergeConfig_pick`).
-/

namespace FieldStudy

/-! ## Tables of tables -/

/-- A value is neat if its members, where it is an object, ascend. -/
def Json.Neat (v : Json) : Prop := ∀ m, v = .obj m → Dict.Sorted m

namespace Dict

/-- The keys ascend, and all values are of one kind. -/
structure Holds (kind : Json → Prop) (d : Dict Json) : Prop where
  sorted : d.Sorted
  value : ∀ x v, d.get? x = some v → kind v

/-- The keys ascend, and so do those of each value that is an object. -/
abbrev Neat (d : Dict Json) : Prop := d.Holds Json.Neat

/-- The keys ascend, and so do those of all objects within. -/
abbrev Ordered (d : Dict Json) : Prop := d.Holds fun v => v.isOrdered = true

variable {d : Dict Json} {x : String} {v : Json} {kind other : Json → Prop}

lemma holds_nil (kind : Json → Prop) : Holds kind [] := ⟨sorted_nil, fun _ _ h => by cases h⟩

lemma Holds.insert (h : d.Holds kind) (hv : kind v) : Holds kind (d.insert x v) where
  sorted := h.sorted.insert x v
  value y w hw := by
    rw [get?_insert] at hw
    split at hw
    · exact Option.some.inj hw ▸ hv
    · exact h.value y w hw

lemma Holds.mono (h : d.Holds kind) (hkind : ∀ v, kind v → other v) : d.Holds other :=
  ⟨h.sorted, fun x v hv => hkind v (h.value x v hv)⟩

lemma Holds.of_mem (h : d.Holds kind) {p : String × Json} (hp : p ∈ d) : kind p.2 :=
  h.value p.1 p.2 (h.sorted.get?_of_mem hp)

lemma holds_iff : d.Holds kind ↔ d.Sorted ∧ ∀ p ∈ d, kind p.2 :=
  ⟨fun h => ⟨h.sorted, fun _ hp => h.of_mem hp⟩,
    fun ⟨hsorted, hmem⟩ => ⟨hsorted, fun _ _ hv => hmem _ (mem_of_get? hv)⟩⟩

lemma get?_of_sorted_cons {α : Type} {rest : Dict α} {k : String} {v : α} (h : Sorted ((k, v) :: rest)) :
    rest.get? k = none := by
  refine Option.eq_none_iff_forall_ne_some.mpr fun w hw => ?_
  exact String.lt_irrefl k ((List.pairwise_cons.mp h).1 (k, w) (mem_of_get? hw))

/-- Sets the values of several keys. -/
def update (d updates : Dict Json) : Dict Json := updates.foldl (fun d (k, v) => Dict.insert d k v) d

lemma update_cons (d : Dict Json) (k : String) (v : Json) (rest : Dict Json) :
    d.update ((k, v) :: rest) = update (d.insert k v) rest := rfl

lemma get?_update {updates : Dict Json} (h : updates.Sorted) (d : Dict Json) (x : String) :
    (d.update updates).get? x = (updates.get? x).or (d.get? x) := by
  induction updates generalizing d with
  | nil => rfl
  | cons p rest ih =>
    obtain ⟨k, v⟩ := p
    rw [update_cons, ih (List.pairwise_cons.mp h).2, get?_insert, get?_cons]
    by_cases hk : k = x
    · rw [if_pos hk, if_pos hk, ← hk, get?_of_sorted_cons h]
      rfl
    · rw [if_neg hk, if_neg hk]

lemma sorted_update (h : d.Sorted) (updates : Dict Json) : (d.update updates).Sorted := by
  induction updates generalizing d with
  | nil => exact h
  | cons p rest ih => exact ih (h.insert p.1 p.2)

lemma Holds.update {updates : Dict Json} (h : d.Holds kind) (hupdates : ∀ p ∈ updates, kind p.2) :
    Holds kind (d.update updates) := by
  induction updates generalizing d with
  | nil => exact h
  | cons p rest ih =>
    obtain ⟨hp, hrest⟩ := List.forall_mem_cons.mp hupdates
    exact ih (h.insert hp) hrest

/-- Setting keys to the values that they have changes nothing. -/
lemma update_eq_self {updates : Dict Json} (h : d.Sorted) (hvalues : ∀ p ∈ updates, d.get? p.1 = some p.2) :
    d.update updates = d := by
  induction updates with
  | nil => rfl
  | cons p rest ih =>
    obtain ⟨hp, hrest⟩ := List.forall_mem_cons.mp hvalues
    obtain ⟨k, v⟩ := p
    rw [update_cons, h.insert_self hp, ih hrest]

end Dict

namespace Json

lemma isOrdered_obj {m : Dict Json} : (obj m).isOrdered = true ↔ m.Ordered := by
  rw [isOrdered, Bool.and_eq_true_iff, decide_eq_true_iff, Dict.Ordered, Dict.holds_iff]
  exact and_congr_right fun _ => ⟨fun h _ hp => isOrdered_of_mem h hp, membersOrdered_of_mem⟩

lemma neat_of_isOrdered {v : Json} (h : v.isOrdered = true) : v.Neat := by
  rintro m rfl
  exact (isOrdered_obj.mp h).sorted

/-- A value stays of this kind when it takes over the members of another one. -/
def Merges (kind : Json → Prop) : Prop :=
  ∀ existing updates, kind (.obj existing) → kind (.obj updates) → kind (.obj (Dict.update existing updates))

lemma merges_neat : Merges Neat := by
  rintro existing updates hexisting - m heq
  obtain rfl := obj.inj heq
  exact Dict.sorted_update (hexisting existing rfl) updates

lemma merges_isOrdered : Merges fun v => v.isOrdered = true := fun _ _ hexisting hupdates =>
  isOrdered_obj.mpr ((isOrdered_obj.mp hexisting).update fun _ hp => (isOrdered_obj.mp hupdates).of_mem hp)

end Json

lemma Dict.Ordered.neat {d : Dict Json} (h : d.Ordered) : d.Neat := h.mono fun _ => Json.neat_of_isOrdered

/-! ## Merging -/

/-- What a setting comes to when another value is merged into it. -/
def mergeSetting (old : Option Json) (new : Json) : Json :=
  match old, new with
  | some (.obj existing), .obj updates => .obj (Dict.update existing updates)
  | _, _ => new

lemma Json.Merges.mergeSetting {kind : Json → Prop} (h : Merges kind) {old : Option Json} {new : Json}
    (hold : ∀ v, old = some v → kind v) (hnew : kind new) : kind (FieldStudy.mergeSetting old new) := by
  unfold FieldStudy.mergeSetting
  split
  · next existing updates => exact h existing updates (hold _ rfl) hnew
  · exact hnew

lemma mergeSetting_self {v : Json} (h : v.Neat) : mergeSetting (some v) v = v := by
  cases v with
  | obj m =>
    have hsorted : Dict.Sorted m := h m rfl
    exact congrArg Json.obj (Dict.update_eq_self hsorted fun p hp => hsorted.get?_of_mem hp)
  | _ => rfl

variable {config copy values : Dict Json}

lemma mergeConfig_cons (config rest : Dict Json) (k : String) (v : Json) :
    mergeConfig config ((k, v) :: rest) = mergeConfig (config.insert k (mergeSetting (config.get? k) v)) rest := by
  rw [mergeConfig, List.foldl_cons, ← mergeConfig]
  congr 1
  dsimp only
  generalize config.get? k = old
  cases old with
  | none => rfl
  | some old =>
    cases old with
    | obj existing => cases v <;> rfl
    | _ => rfl

/-- Each setting is merged on its own. -/
lemma get?_mergeConfig (h : values.Sorted) (config : Dict Json) (x : String) :
    (mergeConfig config values).get? x = ((values.get? x).map (mergeSetting (config.get? x))).or (config.get? x) := by
  induction values generalizing config with
  | nil => rfl
  | cons p rest ih =>
    obtain ⟨k, v⟩ := p
    rw [mergeConfig_cons, ih (List.pairwise_cons.mp h).2, Dict.get?_insert, Dict.get?_cons]
    by_cases hk : k = x
    · rw [if_pos hk, if_pos hk, ← hk, Dict.get?_of_sorted_cons h]
      rfl
    · rw [if_neg hk, if_neg hk]

lemma Dict.Holds.mergeConfig {kind : Json → Prop} (h : config.Holds kind) (hkind : Json.Merges kind)
    (hvalues : values.Holds kind) : Dict.Holds kind (FieldStudy.mergeConfig config values) := by
  have hmem : ∀ p ∈ values, kind p.2 := fun _ hp => hvalues.of_mem hp
  clear hvalues
  induction values generalizing config with
  | nil => exact h
  | cons p rest ih =>
    obtain ⟨hp, hrest⟩ := List.forall_mem_cons.mp hmem
    obtain ⟨k, v⟩ := p
    rw [mergeConfig_cons]
    exact ih (h.insert (hkind.mergeSetting (h.value k) hp)) hrest

/-! ## Settings of a configuration itself -/

/-- Merging settings of a configuration into it changes nothing. -/
lemma mergeConfig_eq_self (h : config.Neat) (hvalues : ∀ p ∈ values, config.get? p.1 = some p.2) :
    mergeConfig config values = config := by
  induction values with
  | nil => rfl
  | cons p rest ih =>
    obtain ⟨hp, hrest⟩ := List.forall_mem_cons.mp hvalues
    obtain ⟨k, v⟩ := p
    dsimp only at hp
    rw [mergeConfig_cons, hp, mergeSetting_self (h.value k v hp), h.sorted.insert_self hp, ih hrest]

lemma mem_pickConfig {keys : List String} {p : String × Json} (h : p ∈ Run.pickConfig config keys) :
    config.get? p.1 = some p.2 := by
  obtain ⟨key, -, hkey⟩ := List.mem_filterMap.mp (Dict.mem_ofList h)
  obtain ⟨v, hv, rfl⟩ := Option.map_eq_some_iff.mp hkey
  exact hv

lemma mergeConfig_pick (h : config.Neat) (keys : List String) :
    mergeConfig config (Run.pickConfig config keys) = config :=
  mergeConfig_eq_self h fun _ hp => mem_pickConfig hp

lemma Dict.Holds.pickConfig {kind : Json → Prop} (h : config.Holds kind) (keys : List String) :
    Dict.Holds kind (Run.pickConfig config keys) where
  sorted := Dict.sorted_ofList _
  value x v hv := h.value x v (mem_pickConfig (Dict.mem_of_get? hv))

/-! ## Configurations that nodes name -/

/-- A key with points adds a member to the settings of its sensor. -/
lemma ordered_configObject {pairs : List (String × Json)} (h : ∀ p ∈ pairs, p.2.isOrdered = true) :
    (configObject pairs).Ordered := by
  refine List.foldlRecOn pairs _ (Dict.holds_nil _) fun config hconfig p hp => ?_
  dsimp only
  split
  · next sensor setting _ =>
    have hsettings : Dict.Ordered (((config.get? (String.ofList sensor)).bind Json.members?).getD []) := by
      cases hold : config.get? (String.ofList sensor) with
      | none => exact Dict.holds_nil _
      | some v =>
        cases v with
        | obj members => exact Json.isOrdered_obj.mp (Dict.Holds.value hconfig _ _ hold)
        | _ => exact Dict.holds_nil _
    exact Dict.Holds.insert hconfig (Json.isOrdered_obj.mpr (hsettings.insert (h p hp)))
  · exact Dict.Holds.insert hconfig (h p hp)

lemma isOrdered_of_pairs {items : List Source} {pairs : List (String × Json)}
    (h : items.mapM (Decoder.pair Decoder.string Decoder.json) = some pairs) :
    ∀ p ∈ pairs, p.2.isOrdered = true := by
  induction items generalizing pairs with
  | nil =>
    obtain rfl : [] = pairs := Option.some.inj h
    exact List.forall_mem_nil _
  | cons item rest ih =>
    rw [List.mapM_cons] at h
    obtain ⟨p, hp, h⟩ := Option.bind_eq_some_iff.mp h
    obtain ⟨others, hothers, h⟩ := Option.bind_eq_some_iff.mp h
    obtain rfl := Option.some.inj h
    refine List.forall_mem_cons.mpr ⟨?_, ih hothers⟩
    unfold Decoder.pair at hp
    split at hp
    · obtain ⟨k, -, hp⟩ := Option.bind_eq_some_iff.mp hp
      obtain ⟨v, hv, hp⟩ := Option.bind_eq_some_iff.mp hp
      obtain rfl := Option.some.inj hp
      exact Source.isOrdered_of_value? _ v hv
    · cases hp

namespace Action

open Decoder

/-- An action comes from the decoder of its own arguments. -/
lemma decoder_setConfig {p : PrimitiveName} {source : Source} {roles : Option (List String)}
    {pairs : List (String × Json)} (h : decoder p source = some (.setConfig roles pairs)) :
    setConfigDecoder source = some (.setConfig roles pairs) := by
  cases p with
  | deviceSetConfig => exact h
  | _ => simp [decoder, forkDecoder, joinDecoder, delayDecoder, choiceDecoder, sleepDecoder, displayDecoder,
      progressDecoder, eventDecoder, counterDecoder, metadataDecoder, logDecoder, recordDecoder, selectDecoder,
      dumpConfigDecoder, pauseDecoder, Option.bind_eq_some_iff] at h

lemma decoder_metadataSet {p : PrimitiveName} {source : Source} {key : String} {value : Json}
    (h : decoder p source = some (.metadataSet key value)) :
    metadataDecoder source = some (.metadataSet key value) := by
  cases p with
  | metadataSet => exact h
  | _ => simp [decoder, forkDecoder, joinDecoder, delayDecoder, choiceDecoder, sleepDecoder, displayDecoder,
      progressDecoder, eventDecoder, counterDecoder, setConfigDecoder, logDecoder, recordDecoder, selectDecoder,
      dumpConfigDecoder, pauseDecoder, Option.bind_eq_some_iff] at h

/-- The values that a node sets are ordered. -/
lemma isOrdered_setConfig {node : Node} {roles : Option (List String)} {pairs : List (String × Json)}
    (h : ofNode node = .ok (.setConfig roles pairs)) : ∀ p ∈ pairs, p.2.isOrdered = true := by
  rw [ofNode] at h
  split at h
  · next a hdecode =>
    obtain rfl := Except.ok.inj h
    have hdecoded := decoder_setConfig hdecode
    rw [setConfigDecoder] at hdecoded
    obtain ⟨m, -, hdecoded⟩ := Option.bind_eq_some_iff.mp hdecoded
    obtain ⟨names, -, hdecoded⟩ := Option.bind_eq_some_iff.mp hdecoded
    obtain ⟨config, hconfig, hdecoded⟩ := Option.bind_eq_some_iff.mp hdecoded
    obtain ⟨-, rfl⟩ := Action.setConfig.inj (Option.some.inj hdecoded)
    rw [Members.withDefault] at hconfig
    split at hconfig
    · next source _ =>
      unfold Decoder.list at hconfig
      split at hconfig
      · exact isOrdered_of_pairs hconfig
      · cases hconfig
    · obtain rfl := Option.some.inj hconfig
      exact List.forall_mem_nil _
  · cases h

lemma isOrdered_metadataSet {node : Node} {key : String} {value : Json}
    (h : ofNode node = .ok (.metadataSet key value)) : value.isOrdered = true := by
  rw [ofNode] at h
  split at h
  · next a hdecode =>
    obtain rfl := Except.ok.inj h
    have hdecoded := decoder_metadataSet hdecode
    rw [metadataDecoder] at hdecoded
    obtain ⟨m, -, hdecoded⟩ := Option.bind_eq_some_iff.mp hdecoded
    obtain ⟨name, -, hdecoded⟩ := Option.bind_eq_some_iff.mp hdecoded
    obtain ⟨v, hv, hdecoded⟩ := Option.bind_eq_some_iff.mp hdecoded
    obtain ⟨-, rfl⟩ := Action.metadataSet.inj (Option.some.inj hdecoded)
    rw [Members.withDefault] at hv
    split at hv
    · exact Source.isOrdered_of_value? _ v hv
    · obtain rfl := Option.some.inj hv
      rfl
  · cases h

end Action

/-! ## Covering -/

/-- A value covers another if it is the same, or an object with all its members and perhaps more. -/
def Json.Covers (w v : Json) : Prop :=
  w = v ∨ ∃ m m', v = .obj m ∧ w = .obj m' ∧ ∀ x u, Dict.get? m x = some u → Dict.get? m' x = some u

/-- A table covers another if it has a value for each of its keys that covers the value there. -/
def Dict.Covers (copy config : Dict Json) : Prop :=
  ∀ x v, config.get? x = some v → ∃ w, copy.get? x = some w ∧ w.Covers v

/-- A value that has been merged into anything is covered. -/
lemma covers_of_merged {new : Json} (hnew : new.Neat) (old : Option Json) : (mergeSetting old new).Covers new := by
  unfold mergeSetting
  split
  · next existing updates =>
    refine .inr ⟨updates, _, rfl, rfl, fun x u hu => ?_⟩
    rw [Dict.get?_update (hnew updates rfl), hu]
    rfl
  · exact .inl rfl

lemma Json.Covers.mergeSetting {w v new : Json} (h : w.Covers v) (hnew : new.Neat) :
    (FieldStudy.mergeSetting (some w) new).Covers (FieldStudy.mergeSetting (some v) new) := by
  obtain rfl | ⟨m, m', rfl, rfl, hmembers⟩ := h
  · exact .inl rfl
  · cases new with
    | obj updates =>
      refine .inr ⟨_, _, rfl, rfl, fun x u hu => ?_⟩
      rw [Dict.get?_update (hnew updates rfl), Option.or_eq_some_iff] at hu ⊢
      exact hu.imp_right fun hu => ⟨hu.1, hmembers x u hu.2⟩
    | _ => exact .inl rfl

namespace Dict.Covers

/-- Merging the same settings into a configuration and into a table that covers it. -/
lemma mergeConfig (h : copy.Covers config) (hvalues : values.Neat) :
    Dict.Covers (FieldStudy.mergeConfig copy values) (FieldStudy.mergeConfig config values) := by
  intro x v hv
  rw [get?_mergeConfig hvalues.sorted] at hv ⊢
  cases hnew : values.get? x with
  | none =>
    rw [hnew] at hv
    exact h x v hv
  | some new =>
    have hneat := hvalues.value x new hnew
    rw [hnew] at hv
    obtain rfl := Option.some.inj hv
    refine ⟨_, rfl, ?_⟩
    cases hold : config.get? x with
    | none => exact covers_of_merged hneat _
    | some old =>
      obtain ⟨w, hw, hcovers⟩ := h x old hold
      rw [hw]
      exact hcovers.mergeSetting hneat

/-- Merging settings of a configuration into a table that covers it. -/
lemma pick (h : copy.Covers config) (hneat : config.Neat) (keys : List String) :
    Dict.Covers (FieldStudy.mergeConfig copy (Run.pickConfig config keys)) config := by
  have hmerged := h.mergeConfig (hneat.pickConfig keys)
  rwa [mergeConfig_pick hneat keys] at hmerged

end Dict.Covers

end FieldStudy
