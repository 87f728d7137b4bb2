import Mathlib.Data.List.Basic
import Mathlib.Data.List.Nodup
import Mathlib.Tactic.Common
import FieldStudy.Proofs.Device.Configurations

/-!
# Settings one by one and all at once

A node lists pairs of a key and a value.  What they make of a configuration can be said without saying how they are
merged into it (`Sets`): the last pair for a setting counts, and what no pair is about stays.  If no key without points
is repeated or is a sensor that another key names (`Separate`), pairs do so in any portions: what comes of some pairs
and then of others is what comes of all (`Sets.append`).  The configuration that a node makes of its pairs is one way,
merging it another (`sets_mergeConfig`), and there is only one result (`Sets.unique`).
-/

namespace FieldStudy

/-! ## Keys -/

/-- The sensor and the setting that a key with points names: the setting is the part behind the last point. -/
def settingOf? (key : String) : Option (String × String) :=
  (Text.splitLast '.' key.toList).map fun (sensor, name) => (String.ofList sensor, String.ofList name)

/-- The sensors that keys with points name. -/
def sensorsOf (pairs : List (String × Json)) : List String := pairs.filterMap fun p => (settingOf? p.1).map (·.1)

/-- The keys without points. -/
def plainKeysOf (pairs : List (String × Json)) : List String :=
  (pairs.filter fun p => (settingOf? p.1).isNone).map (·.1)

/-- The value of the last pair for a setting of a sensor. -/
def lastFor (pairs : List (String × Json)) (sensor name : String) : Option Json :=
  (pairs.reverse.find? fun p => settingOf? p.1 = some (sensor, name)).map (·.2)

/-- The members of a setting that is an object; of any other there are none. -/
def settingsAt (config : Dict Json) (sensor : String) : Dict Json := ((config.get? sensor).bind Json.members?).getD []

/-- No key without points is repeated, and none is a sensor that a key with points names. -/
structure Separate (pairs : List (String × Json)) : Prop where
  distinct : (plainKeysOf pairs).Nodup
  apart : (plainKeysOf pairs).Disjoint (sensorsOf pairs)

instance (pairs : List (String × Json)) : Decidable (Separate pairs) :=
  decidable_of_iff ((plainKeysOf pairs).Nodup ∧ ∀ x ∈ plainKeysOf pairs, x ∉ sensorsOf pairs)
    ⟨fun ⟨hdistinct, hapart⟩ => ⟨hdistinct, fun x => hapart x⟩, fun h => ⟨h.distinct, fun _ hx => h.apart hx⟩⟩

variable {pairs others : List (String × Json)} {p : String × Json} {sensor name x : String}

lemma mem_plainKeysOf : x ∈ plainKeysOf pairs ↔ ∃ p ∈ pairs, settingOf? p.1 = none ∧ p.1 = x := by
  simp [plainKeysOf]

lemma mem_sensorsOf : x ∈ sensorsOf pairs ↔ ∃ p ∈ pairs, ∃ name, settingOf? p.1 = some (x, name) := by
  simp [sensorsOf]

lemma plainKeysOf_append (pairs others : List (String × Json)) :
    plainKeysOf (pairs ++ others) = plainKeysOf pairs ++ plainKeysOf others := by
  rw [plainKeysOf, List.filter_append, List.map_append]
  rfl

lemma sensorsOf_append (pairs others : List (String × Json)) :
    sensorsOf (pairs ++ others) = sensorsOf pairs ++ sensorsOf others :=
  List.filterMap_append

lemma lastFor_append (pairs others : List (String × Json)) (sensor name : String) :
    lastFor (pairs ++ others) sensor name = (lastFor others sensor name).or (lastFor pairs sensor name) := by
  rw [lastFor, List.reverse_append, List.find?_append, Option.map_or]
  rfl

lemma lastFor_of_notMem (h : sensor ∉ sensorsOf pairs) (name : String) : lastFor pairs sensor name = none := by
  rw [lastFor, Option.map_eq_none_iff, List.find?_eq_none]
  intro p hp hsetting
  exact h (mem_sensorsOf.mpr ⟨p, List.mem_reverse.mp hp, name, of_decide_eq_true hsetting⟩)

namespace Separate

/-- What some pairs have as a key without points others have neither as a key nor as a sensor. -/
lemma notMem_left (h : Separate (pairs ++ others)) (hx : x ∈ plainKeysOf pairs) :
    x ∉ plainKeysOf others ∧ x ∉ sensorsOf others := by
  obtain ⟨hdistinct, hapart⟩ := h
  rw [plainKeysOf_append] at hdistinct hapart
  rw [sensorsOf_append] at hapart
  exact ⟨fun hothers => List.disjoint_of_nodup_append hdistinct hx hothers,
    fun hothers => hapart (List.mem_append_left _ hx) (List.mem_append_right _ hothers)⟩

lemma notMem_right (h : Separate (pairs ++ others)) (hx : x ∈ plainKeysOf others) :
    x ∉ plainKeysOf pairs ∧ x ∉ sensorsOf pairs := by
  obtain ⟨hdistinct, hapart⟩ := h
  rw [plainKeysOf_append] at hdistinct hapart
  rw [sensorsOf_append] at hapart
  exact ⟨fun hpairs => List.disjoint_of_nodup_append hdistinct hpairs hx,
    fun hpairs => hapart (List.mem_append_right _ hx) (List.mem_append_left _ hpairs)⟩

lemma left (h : Separate (pairs ++ others)) : Separate pairs := by
  obtain ⟨hdistinct, hapart⟩ := h
  rw [plainKeysOf_append] at hdistinct hapart
  rw [sensorsOf_append] at hapart
  exact ⟨hdistinct.of_append_left, fun x hx hsensor =>
    hapart (List.mem_append_left _ hx) (List.mem_append_left _ hsensor)⟩

lemma right (h : Separate (pairs ++ others)) : Separate others := by
  obtain ⟨hdistinct, hapart⟩ := h
  rw [plainKeysOf_append] at hdistinct hapart
  rw [sensorsOf_append] at hapart
  exact ⟨hdistinct.of_append_right, fun x hx hsensor =>
    hapart (List.mem_append_right _ hx) (List.mem_append_right _ hsensor)⟩

end Separate

/-! ## What pairs make of a configuration -/

/-- What pairs make of a configuration. -/
structure Sets (pairs : List (String × Json)) (old new : Dict Json) : Prop where
  /-- A sensor that is named has the settings that pairs are about, each from the last such pair, and those of before
  that none is about; a value that is no object has none. -/
  settings : ∀ sensor ∈ sensorsOf pairs, ∃ m, new.get? sensor = some (.obj m) ∧ Dict.Sorted m ∧
    ∀ name, Dict.get? m name = (lastFor pairs sensor name).or ((settingsAt old sensor).get? name)
  /-- The value of a key without points replaces the old one; where both are objects, members replace members. -/
  plain : ∀ p ∈ pairs, settingOf? p.1 = none → new.get? p.1 = some (mergeSetting (old.get? p.1) p.2)
  /-- Nothing else changes. -/
  unnamed : ∀ x, x ∉ sensorsOf pairs → x ∉ plainKeysOf pairs → new.get? x = old.get? x

lemma settingsAt_congr {config config' : Dict Json} (h : config.get? x = config'.get? x) :
    settingsAt config x = settingsAt config' x := by
  rw [settingsAt, settingsAt, h]

lemma settingsAt_of_obj {config : Dict Json} {m : Dict Json} (h : config.get? x = some (.obj m)) :
    settingsAt config x = m := by
  rw [settingsAt, h]
  rfl

lemma Dict.Neat.settingsAt {config : Dict Json} (h : config.Neat) (x : String) :
    Dict.Sorted (FieldStudy.settingsAt config x) := by
  cases hx : config.get? x with
  | none =>
    rw [FieldStudy.settingsAt, hx]
    exact Dict.sorted_nil
  | some v =>
    cases v with
    | obj m =>
      rw [settingsAt_of_obj hx]
      exact h.value x _ hx m rfl
    | _ =>
      rw [FieldStudy.settingsAt, hx]
      exact Dict.sorted_nil

namespace Sets

variable {old mid new new' : Dict Json}

lemma nil : Sets [] old old := ⟨by simp [sensorsOf], by simp, fun _ _ _ => rfl⟩

/-- What comes of some pairs and then of others is what comes of all of them. -/
lemma append (h : Sets pairs old mid) (h' : Sets others mid new) (hseparate : Separate (pairs ++ others)) :
    Sets (pairs ++ others) old new where
  settings sensor hsensor := by
    rw [sensorsOf_append, List.mem_append] at hsensor
    by_cases hothers : sensor ∈ sensorsOf others
    · obtain ⟨m, hm, hsorted, hget⟩ := h'.settings sensor hothers
      refine ⟨m, hm, hsorted, fun name => ?_⟩
      rw [hget, lastFor_append, Option.or_assoc]
      congr 1
      by_cases hpairs : sensor ∈ sensorsOf pairs
      · obtain ⟨m', hm', -, hget'⟩ := h.settings sensor hpairs
        rw [settingsAt_of_obj hm', hget']
      · have hplain : sensor ∉ plainKeysOf pairs := fun hx => (hseparate.notMem_left hx).2 hothers
        rw [settingsAt_congr (h.unnamed sensor hpairs hplain), lastFor_of_notMem hpairs, Option.none_or]
    · have hpairs := hsensor.resolve_right hothers
      have hplain : sensor ∉ plainKeysOf others := fun hx => (hseparate.notMem_right hx).2 hpairs
      obtain ⟨m, hm, hsorted, hget⟩ := h.settings sensor hpairs
      refine ⟨m, (h'.unnamed sensor hothers hplain).trans hm, hsorted, fun name => ?_⟩
      rw [hget, lastFor_append, lastFor_of_notMem hothers, Option.none_or]
  plain p hp hnone := by
    obtain hp | hp := List.mem_append.mp hp
    · obtain ⟨hplain, hsensor⟩ := hseparate.notMem_left (mem_plainKeysOf.mpr ⟨p, hp, hnone, rfl⟩)
      rw [h'.unnamed p.1 hsensor hplain, h.plain p hp hnone]
    · obtain ⟨hplain, hsensor⟩ := hseparate.notMem_right (mem_plainKeysOf.mpr ⟨p, hp, hnone, rfl⟩)
      rw [h'.plain p hp hnone, h.unnamed p.1 hsensor hplain]
  unnamed x hsensor hplain := by
    rw [sensorsOf_append, List.mem_append, not_or] at hsensor
    rw [plainKeysOf_append, List.mem_append, not_or] at hplain
    rw [h'.unnamed x hsensor.2 hplain.2, h.unnamed x hsensor.1 hplain.1]

/-- Pairs leave the settings of each sensor in the order of their names. -/
lemma sorted_settingsAt (h : Sets pairs old new) (hold : ∀ x, Dict.Sorted (settingsAt old x))
    (hx : x ∉ plainKeysOf pairs) : Dict.Sorted (settingsAt new x) := by
  by_cases hsensor : x ∈ sensorsOf pairs
  · obtain ⟨m, hm, hsorted, -⟩ := h.settings x hsensor
    rwa [settingsAt_of_obj hm]
  · rw [settingsAt_congr (h.unnamed x hsensor hx)]
    exact hold x

/-- There is one configuration that pairs make of another. -/
lemma unique (h : Sets pairs old new) (h' : Sets pairs old new') (hnew : new.Sorted) (hnew' : new'.Sorted) :
    new = new' := by
  refine hnew.ext hnew' fun x => ?_
  by_cases hsensor : x ∈ sensorsOf pairs
  · obtain ⟨m, hm, hsorted, hget⟩ := h.settings x hsensor
    obtain ⟨m', hm', hsorted', hget'⟩ := h'.settings x hsensor
    have heq : m = m' := hsorted.ext hsorted' fun name => (hget name).trans (hget' name).symm
    rw [hm, hm', heq]
  · by_cases hplain : x ∈ plainKeysOf pairs
    · obtain ⟨p, hp, hnone, rfl⟩ := mem_plainKeysOf.mp hplain
      rw [h.plain p hp hnone, h'.plain p hp hnone]
    · rw [h.unnamed x hsensor hplain, h'.unnamed x hsensor hplain]

end Sets

/-! ## The configuration that a node makes of its pairs -/

/-- Adds a pair to a configuration. -/
def addPair (config : Dict Json) (p : String × Json) : Dict Json :=
  match settingOf? p.1 with
  | some (sensor, name) => config.insert sensor (.obj ((settingsAt config sensor).insert name p.2))
  | none => config.insert p.1 p.2

lemma configObject_snoc (pairs : List (String × Json)) (p : String × Json) :
    configObject (pairs ++ [p]) = addPair (configObject pairs) p := by
  rw [configObject, List.foldl_append, ← configObject, addPair, settingOf?]
  dsimp only [List.foldl_cons, List.foldl_nil]
  cases Text.splitLast '.' p.1.toList <;> rfl

lemma sorted_addPair {config : Dict Json} (h : config.Sorted) (p : String × Json) : (addPair config p).Sorted := by
  rw [addPair]
  split
  · exact h.insert _ _
  · exact h.insert _ _

lemma sorted_configObject (pairs : List (String × Json)) : (configObject pairs).Sorted := by
  induction pairs using List.reverseRecOn with
  | nil => exact Dict.sorted_nil
  | append_singleton pairs p ih => exact configObject_snoc pairs p ▸ sorted_addPair ih p

/-- A pair for a key without points has to find no value there, as one that is an object would be replaced. -/
lemma sets_addPair {config : Dict Json} (hsorted : ∀ sensor ∈ sensorsOf [p], Dict.Sorted (settingsAt config sensor))
    (hnew : settingOf? p.1 = none → config.get? p.1 = none) : Sets [p] config (addPair config p) := by
  cases hsetting : settingOf? p.1 with
  | none =>
    have hadd : addPair config p = config.insert p.1 p.2 := by rw [addPair, hsetting]
    have hsensors : sensorsOf [p] = [] := by simp [sensorsOf, hsetting]
    refine ⟨by simp [hsensors], fun q hq _ => ?_, fun x _ hx => ?_⟩
    · obtain rfl := List.mem_singleton.mp hq
      rw [hadd, Dict.get?_insert_self, hnew hsetting, mergeSetting]
      simp
    · have hne : p.1 ≠ x := fun heq => hx (mem_plainKeysOf.mpr ⟨p, List.mem_singleton_self p, hsetting, heq⟩)
      rw [hadd, Dict.get?_insert_of_ne _ _ hne]
  | some place =>
    obtain ⟨sensor, name⟩ := place
    have hadd : addPair config p = config.insert sensor (.obj ((settingsAt config sensor).insert name p.2)) := by
      rw [addPair, hsetting]
    have hsensors : sensorsOf [p] = [sensor] := by simp [sensorsOf, hsetting]
    refine ⟨fun x hx => ?_, fun q hq hnone => ?_, fun x hx _ => ?_⟩
    · have hold := hsorted x hx
      obtain rfl := List.mem_singleton.mp (hsensors ▸ hx)
      refine ⟨_, by rw [hadd, Dict.get?_insert_self], hold.insert _ _, fun other => ?_⟩
      by_cases hname : name = other
      · simp [lastFor, hsetting, hname]
      · simp [lastFor, hsetting, hname, Dict.get?_insert_of_ne]
    · obtain rfl := List.mem_singleton.mp hq
      exact absurd (hnone.symm.trans hsetting) (by simp)
    · have hne : sensor ≠ x := fun heq => hx (hsensors ▸ List.mem_singleton.mpr heq.symm)
      rw [hadd, Dict.get?_insert_of_ne _ _ hne]

lemma sets_configObject (h : Separate pairs) : Sets pairs [] (configObject pairs) := by
  induction pairs using List.reverseRecOn with
  | nil => exact .nil
  | append_singleton pairs p ih =>
    have hpairs := ih h.left
    rw [configObject_snoc]
    refine hpairs.append (sets_addPair (fun sensor hsensor => ?_) fun hnone => ?_) h
    · exact hpairs.sorted_settingsAt (fun _ => Dict.sorted_nil) fun hx => (h.notMem_left hx).2 hsensor
    · obtain ⟨hplain, hsensor⟩ := h.notMem_right (mem_plainKeysOf.mpr ⟨p, List.mem_singleton_self p, hnone, rfl⟩)
      exact hpairs.unnamed p.1 hsensor hplain

/-! ## Merging it -/

lemma sorted_mergeConfig {config : Dict Json} (h : config.Sorted) (values : Dict Json) :
    (mergeConfig config values).Sorted := by
  induction values generalizing config with
  | nil => exact h
  | cons p rest ih =>
    rw [mergeConfig_cons]
    exact ih (h.insert _ _)

/-- Settings that are merged into a value are added to those that it has. -/
lemma mergeSetting_obj {config : Dict Json} (hsorted : Dict.Sorted (settingsAt config x)) {updates : Dict Json}
    (hupdates : updates.Sorted) : ∃ m, mergeSetting (config.get? x) (.obj updates) = .obj m ∧ Dict.Sorted m ∧
      ∀ name, Dict.get? m name = (updates.get? name).or ((settingsAt config x).get? name) := by
  unfold mergeSetting
  split
  · next existing updates' hold hnew =>
    obtain rfl := Json.obj.inj hnew
    rw [settingsAt_of_obj hold] at hsorted ⊢
    exact ⟨_, rfl, Dict.sorted_update hsorted _, Dict.get?_update hupdates existing⟩
  · next hnot =>
    refine ⟨updates, rfl, hupdates, fun name => ?_⟩
    have hnone : settingsAt config x = [] := by
      rw [settingsAt]
      cases hold : config.get? x with
      | none => rfl
      | some v =>
        cases v with
        | obj existing => exact absurd rfl (hnot existing updates hold)
        | _ => rfl
    rw [hnone, Dict.get?_nil, Option.or_none]

/-- Merging the configuration made of some pairs into another does to that what the pairs say. -/
lemma sets_mergeConfig {config : Dict Json} (h : Separate pairs)
    (hsorted : ∀ sensor ∈ sensorsOf pairs, Dict.Sorted (settingsAt config sensor)) :
    Sets pairs config (mergeConfig config (configObject pairs)) := by
  have hmade := sets_configObject h
  have hget := get?_mergeConfig (sorted_configObject pairs) config
  refine ⟨fun sensor hsensor => ?_, fun p hp hnone => ?_, fun x hsensor hplain => ?_⟩
  · obtain ⟨updates, hupdates, hordered, hlast⟩ := hmade.settings sensor hsensor
    obtain ⟨m, hm, hm', hnames⟩ := mergeSetting_obj (hsorted sensor hsensor) hordered
    refine ⟨m, ?_, hm', fun name => ?_⟩
    · rw [hget, hupdates, Option.map_some, hm, Option.some_or]
    · rw [hnames, hlast, settingsAt, Dict.get?_nil, Option.bind_none, Option.getD_none, Dict.get?_nil, Option.or_none]
  · rw [hget, hmade.plain p hp hnone, Dict.get?_nil, Option.map_some, Option.some_or]
    simp [mergeSetting]
  · rw [hget, hmade.unnamed x hsensor hplain, Dict.get?_nil, Option.map_none, Option.none_or]

end FieldStudy
