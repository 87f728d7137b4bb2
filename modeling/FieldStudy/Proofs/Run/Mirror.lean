import Mathlib.Data.List.Count
import Mathlib.Data.List.Nodup
import Mathlib.Tactic.Common
import FieldStudy.Proofs.Device.Configurations
import FieldStudy.Proofs.Run.Servicing

/-!
# Configurations in the metadata

The metadata of a run repeat the configuration of each role.  The two documents are changed by the same merges but from
different starting points, as binding a role anew empties its configuration and not the copy.  So what is preserved is
that the copy covers the configuration, and that the two are equal as long as the role has been bound once
(`Mirror.Agrees`).  Four elementary changes make up everything that happens to them (`Mirror.Change`).
-/

namespace FieldStudy

/-- The bindings of the roles, and the copies of their configurations in the metadata. -/
structure Mirror where
  roles : Dict RoleBinding
  copies : Dict Json

namespace Mirror

/-! ## Copies -/

/-- The copy of a role; one that is absent counts as empty. -/
def copyOf (copies : Dict Json) (role : String) : Dict Json := ((copies.get? role).bind Json.members?).getD []

/-- Merges settings into the copy of a role. -/
def note (copies : Dict Json) (role : String) (values : Dict Json) : Dict Json :=
  copies.insert role (.obj (mergeConfig (copyOf copies role) values))

/-- Merges settings into the copies of several roles. -/
def noteAll (bs : List RoleBinding) (f : RoleBinding → Dict Json) (copies : Dict Json) : Dict Json :=
  bs.foldl (fun copies b => note copies b.role (f b)) copies

/-- The bindings of the targeted roles. -/
def targets (g : Mirror) (names : Option (List String)) : List RoleBinding :=
  g.roles.values.filter fun b => isTargeted names b.role

variable {copies : Dict Json} {bs : List RoleBinding} {f : RoleBinding → Dict Json} {b : RoleBinding} {role : String}

lemma copyOf_of_some {m : Dict Json} (h : copies.get? role = some (.obj m)) : copyOf copies role = m := by
  rw [copyOf, h]
  rfl

lemma copyOf_of_none (h : copies.get? role = none) : copyOf copies role = [] := by
  rw [copyOf, h]
  rfl

lemma get?_noteAll_of_notMem (h : role ∉ bs.map (·.role)) : (noteAll bs f copies).get? role = copies.get? role := by
  induction bs generalizing copies with
  | nil => rfl
  | cons c rest ih =>
    obtain ⟨hc, hrest⟩ := not_or.mp (mt List.mem_cons.mpr h)
    rw [noteAll, List.foldl_cons, ← noteAll, ih hrest]
    exact Dict.get?_insert_of_ne _ _ (Ne.symm hc)

lemma get?_noteAll_of_mem (hnodup : (bs.map (·.role)).Nodup) (hb : b ∈ bs) :
    (noteAll bs f copies).get? b.role = some (.obj (mergeConfig (copyOf copies b.role) (f b))) := by
  induction bs generalizing copies with
  | nil => cases hb
  | cons c rest ih =>
    obtain ⟨hc, hrest⟩ := List.nodup_cons.mp hnodup
    rw [noteAll, List.foldl_cons, ← noteAll]
    obtain rfl | hb := List.mem_cons.mp hb
    · rw [get?_noteAll_of_notMem hc]
      exact Dict.get?_insert_self _ _ _
    · have hne : c.role ≠ b.role := fun heq => hc (List.mem_map.mpr ⟨b, hb, heq.symm⟩)
      rw [ih hrest hb, copyOf, copyOf, note, Dict.get?_insert_of_ne _ _ hne]

/-! ## Changes -/

/-- What an operation does to configurations and copies, with the role that it binds. -/
inductive Change (g : Mirror) : Option String → Mirror → Prop
  | keeps : Change g none g
  /-- The same settings are merged into configurations and into copies. -/
  | merges (names : Option (List String)) {values : Dict Json} (hvalues : values.Ordered) :
      Change g none
        { roles := g.roles.mapValues fun b =>
            if isTargeted names b.role then { b with config := mergeConfig b.config values } else b
          copies := noteAll (g.targets names) (fun _ => values) g.copies }
  /-- Settings of each configuration are merged into its copy. -/
  | dumps (names : Option (List String)) (keys : List String) :
      Change g none
        { g with copies := noteAll (g.targets names) (fun b => Run.pickConfig b.config keys) g.copies }
  /-- A role is bound, perhaps anew, with an empty configuration. -/
  | binds (role : String) (d : Device) : Change g (some role) { g with roles := g.roles.insert role ⟨role, d, []⟩ }

lemma Change.of_eq {g g' : Mirror} (h : g' = g) : Change g none g' := h ▸ .keeps

lemma Change.bound {g g' : Mirror} (h : g.Change (some role) g') :
    ∃ d, g'.roles.get? role = some ⟨role, d, []⟩ := by
  cases h with
  | binds role d => exact ⟨d, Dict.get?_insert_self _ _ _⟩

/-! ## Agreement -/

/-- How a configuration that has been bound so many times and its copy agree. -/
structure Agrees (count : Nat) (config copy : Dict Json) : Prop where
  neat : config.Neat
  covers : copy.Covers config
  same : count ≤ 1 → copy = config

namespace Agrees

variable {count : Nat} {config copy values : Dict Json}

lemma empty (h : count ≤ 1 → copy = []) : Agrees count [] copy where
  neat := Dict.holds_nil _
  covers _ _ hv := by cases hv
  same := h

lemma merges (h : Agrees count config copy) (hvalues : values.Neat) :
    Agrees count (mergeConfig config values) (mergeConfig copy values) :=
  ⟨h.neat.mergeConfig Json.merges_neat hvalues, h.covers.mergeConfig hvalues, fun hcount => by rw [h.same hcount]⟩

lemma dumps (h : Agrees count config copy) (keys : List String) :
    Agrees count config (mergeConfig copy (Run.pickConfig config keys)) :=
  ⟨h.neat, h.covers.pick h.neat keys, fun hcount => by rw [h.same hcount, mergeConfig_pick h.neat]⟩

end Agrees

/-- The same settings merged into the configurations of the targeted roles and into their copies. -/
def merged (g : Mirror) (names : Option (List String)) (values : Dict Json) : Mirror where
  roles := g.roles.mapValues fun b =>
    if isTargeted names b.role then { b with config := mergeConfig b.config values } else b
  copies := noteAll (g.targets names) (fun _ => values) g.copies

/-- Roles are listed under their names, each of them once. -/
structure Listed (g : Mirror) : Prop where
  sorted : g.roles.Sorted
  named : ∀ role b, g.roles.get? role = some b → b.role = role

namespace Listed

variable {g : Mirror} {names : Option (List String)}

lemma mem_targets (h : g.Listed) :
    b ∈ g.targets names ↔ g.roles.get? b.role = some b ∧ isTargeted names b.role = true := by
  rw [targets, List.mem_filter, h.sorted.mem_values]
  refine and_congr_left fun _ => ⟨?_, fun hb => ⟨_, hb⟩⟩
  rintro ⟨role, hb⟩
  exact (h.named role b hb).symm ▸ hb

/-- No two bindings are for the same role. -/
lemma nodup_targets (h : g.Listed) : ((g.targets names).map (·.role)).Nodup := by
  have hkeys : g.roles.values.map (·.role) = g.roles.keys := by
    rw [Dict.values, Dict.keys, List.map_map]
    exact List.map_congr_left fun p hp => h.named p.1 p.2 (h.sorted.get?_of_mem hp)
  have hnodup : (g.roles.values.map (·.role)).Nodup := by
    rw [hkeys]
    exact h.sorted.nodup_keys
  exact hnodup.sublist (List.filter_sublist.map _)

/-- A merge concerns the copies of the targeted roles that are bound. -/
lemma get?_noteAll (h : g.Listed) (names : Option (List String)) (f : RoleBinding → Dict Json) (role : String) :
    (noteAll (g.targets names) f g.copies).get? role =
      match g.roles.get? role with
      | some b =>
        if isTargeted names role then some (.obj (mergeConfig (copyOf g.copies role) (f b))) else g.copies.get? role
      | none => g.copies.get? role := by
  have hmem : role ∈ (g.targets names).map (·.role) ↔
      ∃ b, g.roles.get? role = some b ∧ isTargeted names role = true := by
    rw [List.mem_map]
    constructor
    · rintro ⟨b, hb, rfl⟩
      exact ⟨b, h.mem_targets.mp hb⟩
    · rintro ⟨b, hb, htarget⟩
      obtain rfl := h.named role b hb
      exact ⟨b, h.mem_targets.mpr ⟨hb, htarget⟩, rfl⟩
  cases hb : g.roles.get? role with
  | none => exact get?_noteAll_of_notMem fun hin => by simp [hmem, hb] at hin
  | some b =>
    obtain rfl := h.named role b hb
    dsimp only
    by_cases htarget : isTargeted names b.role = true
    · rw [if_pos htarget]
      exact get?_noteAll_of_mem h.nodup_targets (h.mem_targets.mpr ⟨hb, htarget⟩)
    · rw [if_neg htarget]
      exact get?_noteAll_of_notMem fun hin => by simp [hmem, htarget] at hin

lemma copyOf_noteAll (h : g.Listed) (f : RoleBinding → Dict Json) (hb : g.roles.get? role = some b) :
    copyOf (noteAll (g.targets names) f g.copies) role =
      if isTargeted names role then mergeConfig (copyOf g.copies role) (f b) else copyOf g.copies role := by
  have hget := h.get?_noteAll names f role
  rw [hb] at hget
  dsimp only at hget
  split at hget
  · next htarget => rw [if_pos htarget, copyOf_of_some hget]
  · next htarget => rw [if_neg htarget, copyOf, hget, ← copyOf]

lemma get?_merged (h : g.Listed) (names : Option (List String)) (values : Dict Json) (role : String) :
    (g.merged names values).roles.get? role = (g.roles.get? role).map fun b =>
      if isTargeted names role then { b with config := mergeConfig b.config values } else b := by
  rw [merged, Dict.get?_mapValues]
  refine Option.map_congr fun b hb => ?_
  rw [h.named role b hb]

lemma merged (h : g.Listed) (names : Option (List String)) (values : Dict Json) : (g.merged names values).Listed where
  sorted := by
    dsimp only [Mirror.merged]
    exact h.sorted.mapValues _
  named role c hc := by
    rw [h.get?_merged] at hc
    obtain ⟨b, hb, rfl⟩ := Option.map_eq_some_iff.mp hc
    split <;> exact h.named role b hb

lemma binds (h : g.Listed) (role : String) (d : Device) :
    Listed { g with roles := g.roles.insert role ⟨role, d, []⟩ } where
  sorted := h.sorted.insert role _
  named role' c hc := by
    rw [Dict.get?_insert] at hc
    split at hc
    · next heq => exact heq ▸ Option.some.inj hc ▸ rfl
    · exact h.named role' c hc

end Listed

/-- Configurations and copies agree, for the roles that have been bound so far. -/
structure Sound (bound : List String) (g : Mirror) : Prop where
  sorted : g.roles.Sorted
  named : ∀ role b, g.roles.get? role = some b → b.role = role
  known : ∀ role b, g.roles.get? role = some b → role ∈ bound
  object : ∀ role v, g.copies.get? role = some v → ∃ m, v = .obj m
  unbound : ∀ role, g.roles.get? role = none → g.copies.get? role = none
  agrees : ∀ role b, g.roles.get? role = some b → Agrees (bound.count role) b.config (copyOf g.copies role)

namespace Sound

variable {bound : List String} {g g' : Mirror} {names : Option (List String)}

lemma listed (h : g.Sound bound) : g.Listed := ⟨h.sorted, h.named⟩

/-- After a merge the copies are objects, and only roles that are bound have one. -/
lemma object_noteAll (h : g.Sound bound) (f : RoleBinding → Dict Json) {v : Json}
    (hv : (noteAll (g.targets names) f g.copies).get? role = some v) : ∃ m, v = .obj m := by
  rw [h.listed.get?_noteAll] at hv
  split at hv
  · split at hv
    · exact ⟨_, (Option.some.inj hv).symm⟩
    · exact h.object role v hv
  · exact h.object role v hv

lemma unbound_noteAll (h : g.Sound bound) (f : RoleBinding → Dict Json) (hrole : g.roles.get? role = none) :
    (noteAll (g.targets names) f g.copies).get? role = none := by
  rw [h.listed.get?_noteAll, hrole]
  exact h.unbound role hrole

lemma merges (h : g.Sound bound) (names : Option (List String)) {values : Dict Json} (hvalues : values.Neat) :
    (g.merged names values).Sound bound := by
  have hlisted := h.listed.merged names values
  have hget (role : String) {c : RoleBinding} (hc : (g.merged names values).roles.get? role = some c) :
      ∃ b, g.roles.get? role = some b ∧
        c.config = if isTargeted names role then mergeConfig b.config values else b.config := by
    rw [h.listed.get?_merged] at hc
    obtain ⟨b, hb, rfl⟩ := Option.map_eq_some_iff.mp hc
    refine ⟨b, hb, ?_⟩
    split <;> rfl
  refine ⟨hlisted.sorted, hlisted.named, fun role c hc => ?_, fun role v hv => h.object_noteAll _ hv,
    fun role hrole => ?_, fun role c hc => ?_⟩
  · obtain ⟨b, hb, -⟩ := hget role hc
    exact h.known role b hb
  · rw [h.listed.get?_merged, Option.map_eq_none_iff] at hrole
    exact h.unbound_noteAll _ hrole
  · obtain ⟨b, hb, hconfig⟩ := hget role hc
    rw [hconfig, merged, h.listed.copyOf_noteAll _ hb]
    split
    · exact (h.agrees role b hb).merges hvalues
    · exact h.agrees role b hb

lemma dumps (h : g.Sound bound) (names : Option (List String)) (keys : List String) :
    Sound bound { g with copies := noteAll (g.targets names) (fun b => Run.pickConfig b.config keys) g.copies } where
  sorted := h.sorted
  named := h.named
  known := h.known
  object role v hv := h.object_noteAll _ hv
  unbound role hrole := h.unbound_noteAll _ hrole
  agrees role b hb := by
    rw [h.listed.copyOf_noteAll _ hb]
    split
    · exact (h.agrees role b hb).dumps keys
    · exact h.agrees role b hb

lemma binds (h : g.Sound bound) (role : String) (d : Device) :
    Sound (bound ++ [role]) { g with roles := g.roles.insert role ⟨role, d, []⟩ } := by
  have hget (role' : String) {c : RoleBinding} (hc : (g.roles.insert role ⟨role, d, []⟩).get? role' = some c) :
      (role = role' ∧ c = ⟨role, d, []⟩) ∨ (role ≠ role' ∧ g.roles.get? role' = some c) := by
    rw [Dict.get?_insert] at hc
    split at hc
    · next heq => exact .inl ⟨heq, (Option.some.inj hc).symm⟩
    · next hne => exact .inr ⟨hne, hc⟩
  have hlisted := h.listed.binds role d
  refine ⟨hlisted.sorted, hlisted.named, fun role' c hc => ?_, h.object, fun role' hrole => ?_, fun role' c hc => ?_⟩
  · obtain ⟨rfl, -⟩ | ⟨-, hc⟩ := hget role' hc
    · exact List.mem_append_right _ (List.mem_singleton_self _)
    · exact List.mem_append_left _ (h.known role' c hc)
  · refine h.unbound role' ?_
    rw [Dict.get?_insert] at hrole
    split at hrole
    · cases hrole
    · exact hrole
  · rw [List.count_append]
    obtain ⟨rfl, rfl⟩ | ⟨hne, hc⟩ := hget role' hc
    · -- A role that is bound for the first time has no copy yet.
      refine .empty fun hcount => copyOf_of_none (h.unbound role ?_)
      rw [List.count_singleton_self] at hcount
      have hnew : role ∉ bound := List.count_eq_zero.mp (by omega)
      exact Option.eq_none_iff_forall_ne_some.mpr fun b hb => hnew (h.known role b hb)
    · rw [List.count_singleton, if_neg (by simpa using hne), Nat.add_zero]
      exact h.agrees role' c hc

lemma change {label : Option String} (h : g.Sound bound) (hchange : g.Change label g') :
    g'.Sound (bound ++ label.toList) := by
  cases hchange with
  | keeps => simpa using h
  | merges names hvalues =>
    rw [Option.toList_none, List.append_nil]
    exact h.merges names hvalues.neat
  | dumps names keys => simpa using h.dumps names keys
  | binds role d => exact h.binds role d

lemma covers (h : g.Sound bound) (hb : g.roles.get? role = some b) {k : String} {v : Json}
    (hv : b.config.get? k = some v) : ∃ (copy : Dict Json) (w : Json),
      g.copies.get? role = some (.obj copy) ∧ copy.get? k = some w ∧ w.Covers v := by
  obtain ⟨w, hw, hcovers⟩ := (h.agrees role b hb).covers k v hv
  cases hcopy : g.copies.get? role with
  | none => simp [copyOf_of_none hcopy] at hw
  | some copy =>
    obtain ⟨copy, rfl⟩ := h.object role copy hcopy
    rw [copyOf_of_some hcopy] at hw
    exact ⟨copy, w, rfl, hw, hcovers⟩

lemma same (h : g.Sound bound) (hb : g.roles.get? role = some b) (hcount : bound.count role ≤ 1) :
    (g.copies.get? role).getD (.obj []) = .obj b.config := by
  have hsame := (h.agrees role b hb).same hcount
  cases hcopy : g.copies.get? role with
  | none =>
    rw [copyOf_of_none hcopy] at hsame
    rw [Option.getD_none, ← hsame]
  | some copy =>
    obtain ⟨copy, rfl⟩ := h.object role copy hcopy
    rw [copyOf_of_some hcopy] at hsame
    rw [Option.getD_some, hsame]

end Sound

end Mirror

/-! ## Operations of a run -/

namespace Run

variable {r r' q : Run} {s : Setup}

def mirror (r : Run) : Mirror := ⟨r.roles, r.metadata.deviceConfig⟩

lemma Modifies.mirror {fs : List RunField} (h : Modifies fs r r') (hroles : RunField.roles ∉ fs)
    (hmetadata : RunField.metadata ∉ fs) : r'.mirror = r.mirror := by
  have hsameRoles : r'.roles = r.roles := h .roles hroles
  have hsameMetadata : r'.metadata = r.metadata := h .metadata hmetadata
  rw [Run.mirror, Run.mirror, hsameRoles, hsameMetadata]

lemma mirror_savedWith (r : Run) (s : Setup) (code : Int) : (r.savedWith s code).2.mirror = r.mirror :=
  (r.modifies_savedWith s code).mirror (by decide) (by decide)

lemma deviceConfig_foldl (bs : List RoleBinding) (f : RoleBinding → Dict Json) (m : Metadata) :
    (bs.foldl (fun m b => m.mergeRoleConfig b.role (f b)) m).deviceConfig = Mirror.noteAll bs f m.deviceConfig := by
  induction bs generalizing m with
  | nil => rfl
  | cons b rest ih => exact ih (m.mergeRoleConfig b.role (f b))

lemma mirror_mergeRoles (r : Run) (names : Option (List String)) (values : Dict Json) :
    (r.mergeRoles names values).mirror = r.mirror.merged names values :=
  congrArg (Mirror.mk _) (deviceConfig_foldl (r.targets names) (fun _ => values) r.metadata)

lemma change_mergeRoles (r : Run) (names : Option (List String)) {values : Dict Json} (hvalues : values.Ordered) :
    r.mirror.Change none (r.mergeRoles names values).mirror := by
  rw [mirror_mergeRoles]
  exact .merges names hvalues

lemma change_dumpConfig (r : Run) (names : Option (List String)) (keys : List String) :
    r.mirror.Change none (r.dumpConfig names keys).mirror := by
  have hmirror : (r.dumpConfig names keys).mirror = _ :=
    congrArg (Mirror.mk _) (deviceConfig_foldl (r.targets names) (fun b => pickConfig b.config keys) r.metadata)
  rw [hmirror]
  exact .dumps names keys

/-- A role is bound to a device if the backend describes it. -/
def bound? (r : Run) (s : Setup) (d : Device) (role : String) : Option String :=
  match s.backend.deviceInfo r.calls d with
  | .ok _ => some role
  | .error _ => none

lemma change_bind (r : Run) (s : Setup) (d : Device) (role : String) :
    r.mirror.Change (r.bound? s d role) (r.bind s d role).2.mirror := by
  rw [bind, bound?]
  cases s.backend.deviceInfo r.calls d with
  | error e => exact .keeps
  | ok info =>
    dsimp only
    rw [mirror_savedWith]
    exact .binds role d

/-- The role that a selection binds at once, which is so if a single device suits. -/
def selected? (r : Run) (s : Setup) (a : SelectArguments) : Option String :=
  match a.filter.select s.available with
  | [d] => r.bound? s d (a.role.getD defaultRole)
  | _ => none

lemma change_select (r : Run) (s : Setup) (a : SelectArguments) :
    r.mirror.Change (r.selected? s a) (r.select s a).2.mirror := by
  unfold select selected?
  cases a.filter.select s.available with
  | nil => exact .keeps
  | cons d others =>
    cases others with
    | nil => exact r.change_bind s d _
    | cons d' others => exact .keeps

/-- The role that is bound when a wait for the choice of a device is over. -/
def answered? (r : Run) (s : Setup) (result : Except ScenarioError Int) (resumption : Resumption) : Option String :=
  match result, resumption with
  | .ok index, .bind candidates role =>
    (if index < 0 then none else candidates[index.toNat]?).bind fun d => r.bound? s d role
  | _, _ => none

lemma change_proceed (r : Run) (s : Setup) (result : Except ScenarioError Int) (resumption : Resumption) :
    r.mirror.Change (r.answered? s result resumption) (r.proceed s result resumption).2.mirror := by
  cases result with
  | error e => exact .keeps
  | ok value =>
    cases resumption with
    | code code => exact .keeps
    | answer => exact .keeps
    | display rest => exact .of_eq ((r.modifies_showStages rest).mirror (by decide) (by decide))
    | bind candidates role =>
      show r.mirror.Change _ (r.bindChosen s candidates role value).2.mirror
      rw [bindChosen, answered?]
      cases (if value < 0 then none else candidates[value.toNat]?) with
      | none => exact .keeps
      | some d => exact r.change_bind s d role

lemma ordered_fileSetting (file : String) : Dict.Ordered [(SensorType.mic, .obj [("filename", .str file)])] :=
  (Dict.holds_nil _).insert (x := SensorType.mic) (Json.isOrdered_obj.mpr ((Dict.holds_nil _).insert rfl))

lemma ordered_pausedSetting (paused : Bool) : Dict.Ordered [("paused", .bool paused)] :=
  (Dict.holds_nil _).insert rfl

/-- Of the operations on records only the creation of one for a microphone changes configurations. -/
lemma change_record (r : Run) (s : Setup) (op : RecordOp) (a : RecordArguments) :
    r.mirror.Change none (r.record s op a).2.mirror := by
  have hcreate : r.mirror.Change none (r.createRecord s a).2.mirror := by
    rw [createRecord]
    split
    · exact .keeps
    · next first others _ =>
      split
      · exact r.change_mergeRoles a.roles (ordered_fileSetting _)
      · have hopened := (r.modifies_openRecord s a (first :: others)).mirror (by decide) (by decide)
        split
        · next q hopen =>
          rw [hopen] at hopened
          exact .of_eq hopened
        · exact .of_eq hopened
  have hchange : r.mirror.Change none (r.changeRecord s op a).2.mirror := by
    cases op with
    | create => exact hcreate
    | close => exact .of_eq ((r.modifies_closeRecord a.name).mirror (by decide) (by decide))
    | pause | unpause | annotate => exact .keeps
  rw [record]
  split
  · next h => simpa [h] using hchange
  · next q h =>
    rw [h] at hchange
    rw [mirror_savedWith]
    split
    · exact hchange
    · exact hchange

/-! ## The end of a run -/

lemma mirror_halt (r : Run) : r.halt.mirror = r.mirror := by
  have hcancel : ({ r with state := .stopped } : Run).cancel.mirror = r.mirror :=
    (modifies_cancel { r with state := .stopped }).mirror (by decide) (by decide)
  exact ((modifies_clearPrompts _).mirror (by decide) (by decide)).trans hcancel

lemma mirror_stop (r : Run) (s : Setup) (error : Option ScenarioError) : (r.stop s error).mirror = r.mirror := by
  by_cases hstate : r.state = .stopped
  · rw [stop, if_pos hstate]
  · rw [r.stop_eq s error hstate, (modifies_reported _ error).mirror (by decide) (by decide),
      (modifies_released _ s).mirror (by decide) (by decide), mirror_halt]

lemma mirror_close (r : Run) (s : Setup) (i : Nat) (t : Task) (p : Point) (turn : Turn) :
    (r.close s i t p turn).mirror = r.mirror := by
  obtain hmodifies | ⟨error, q, -, hq, hclose⟩ := r.close_cases s i t p turn
  · exact hmodifies.mirror (by decide) (by decide)
  · rw [hclose, (modifies_setStatus _ i .ended).mirror (by decide) (by decide), mirror_stop,
      hq.mirror (by decide) (by decide)]

/-! ## Actions -/

/-- The role that an action binds. -/
def actionBinds? (r : Run) (s : Setup) : Action → Option String
  | .select a => r.selected? s a
  | _ => none

lemma change_execute (r : Run) (s : Setup) (v : Visit) {node : Node} {a : Action} (ha : Action.ofNode node = .ok a) :
    r.mirror.Change (r.actionBinds? s a) (r.execute s v a).2.mirror := by
  have hsaved {q : Run} (h : r.mirror.Change none q.mirror) : r.mirror.Change none (q.savedWith s 0).2.mirror := by
    rwa [mirror_savedWith]
  cases a with
  | nop => exact .keeps
  | fork branch =>
    show r.mirror.Change none (r.fork v branch).2.mirror
    rw [fork]
    split
    · exact .keeps
    · exact .keeps
  | join a => exact .of_eq (congrArg mirror (r.join_run v a))
  | abort info => exact .of_eq (mirror_stop _ s _)
  | waitDelay seconds => exact .of_eq (congrArg mirror (r.sleep_run seconds 0))
  | waitNext | waitOption a | screenSleep enable =>
    exact .of_eq ((r.modifies_promptThen _ _).mirror (by decide) (by decide))
  | display primitive a => exact .of_eq ((r.modifies_display s v primitive a).mirror (by decide) (by decide))
  | progress a => exact .of_eq ((r.modifies_emit _).mirror (by decide) (by decide))
  | event op a => exact .of_eq ((r.modifies_event op a).mirror (by decide) (by decide))
  | counter op a => exact .of_eq ((r.modifies_counter op a).mirror (by decide) (by decide))
  | metadataSet key value => exact hsaved .keeps
  | logInfo message => exact .of_eq ((r.modifies_logInfo s message).mirror (by decide) (by decide))
  | record op a => exact r.change_record s op a
  | select a => exact r.change_select s a
  | setConfig roles pairs =>
    exact hsaved (r.change_mergeRoles roles (ordered_configObject (Action.isOrdered_setConfig ha)))
  | dumpConfig roles keys => exact hsaved (r.change_dumpConfig roles keys)
  | pauseSensor paused roles => exact hsaved (r.change_mergeRoles roles (ordered_pausedSetting paused))
  | startSensor a => exact .of_eq ((r.modifies_startSensors s a).mirror (by decide) (by decide))
  | stopSensor a => exact .of_eq ((r.modifies_stopSensors s a).mirror (by decide) (by decide))
  | deviceRecord _ => exact .keeps

/-! ## Moves -/

/-- The role that a move binds: by a selection that a single device suits, or by the choice of one of several. -/
def binds? (s : Setup) (r : Run) : Move → Option String
  | .step i =>
    r.tasks[i]?.bind fun t =>
      match t.status with
      | .entering p => (r.action? s t p).bind (r.actionBinds? s)
      | .waiting _ a resumption => (r.waitResult? t.token a).bind fun result => r.answered? s result resumption
      | .ended => none
  | _ => none

/-- The roles that have been bound since the run was started last, as often as they were.  A start binds the devices
chosen beforehand. -/
def boundAfter (s : Setup) (r : Run) (bound : List String) : Move → List String
  | .start => if r.state = .stopped then s.roles.keys else bound
  | m => bound ++ (r.binds? s m).toList

/-- The roles that have been bound after some moves. -/
def bindings (s : Setup) : Run → List String → List Move → List String
  | _, bound, [] => bound
  | r, bound, m :: rest => bindings s (r.after s m) (r.boundAfter s bound m) rest

variable {bound : List String} {i : Nat}

lemma answered?_awake (a : Await) (result : Except ScenarioError Int) (resumption : Resumption) :
    (r.awake i a).answered? s result resumption = r.answered? s result resumption := by
  cases a <;> rfl

lemma change_step (h : r.step? s i = some r') : r.mirror.Change (r.binds? s (.step i)) r'.mirror := by
  obtain ⟨t, p, turn, q, ht, -, hworked, rfl⟩ := step_cases h
  rw [mirror_close, binds?, ht, Option.bind_some]
  cases hworked with
  | enters hstatus hnone =>
    simp only [hstatus, hnone, Option.bind_none]
    exact .keeps
  | @takes node a hstatus hnode haction =>
    obtain ⟨-, node', hnode', ha, -⟩ := action?_eq_some_iff.mp haction
    obtain rfl := Option.some.inj (hnode.symm.trans hnode')
    simp only [hstatus, haction, Option.bind_some]
    exact change_execute { r with point := some p } s ⟨t.branch, p.node, node, t.token⟩ ha
  | @goesOn a resumption result hstatus hresult =>
    have hproceed := (r.awake i a).change_proceed s result resumption
    rw [answered?_awake, (r.modifies_awake i a).mirror (by decide) (by decide)] at hproceed
    simp only [hstatus, hresult, Option.bind_some]
    exact hproceed

/-- A task that does not take a step binds nothing. -/
lemma binds?_of_step? (h : r.step? s i = none) : r.binds? s (.step i) = none := by
  rw [binds?]
  cases ht : r.tasks[i]? with
  | none => rfl
  | some t =>
    rw [Option.bind_some]
    cases hstatus : t.status with
    | entering p =>
      rw [step?_entering s ht hstatus] at h
      cases h
    | waiting p a resumption =>
      rw [step?_waiting s ht hstatus, Option.map_eq_none_iff] at h
      simp only [h, Option.bind_none]
    | ended => rfl

/-- A run begins with the devices chosen beforehand and without copies of their configurations, which are empty. -/
lemma sound_mirror_initial (s : Setup) : Mirror.Sound s.roles.keys ⟨s.roles, []⟩ where
  sorted := Dict.sorted_ofList _
  named role b hb := named_setup s (Dict.mem_of_get? hb)
  known role b hb := List.mem_map.mpr ⟨(role, b), Dict.mem_of_get? hb, rfl⟩
  object role v hv := by cases hv
  unbound role _ := rfl
  agrees role b hb := by
    rw [config_setup s (Dict.mem_of_get? hb)]
    exact .empty fun _ => rfl

lemma mirror_start (s : Setup) (hstate : r.state = .stopped) : (r.start s).2.mirror = ⟨s.roles, []⟩ := by
  obtain ⟨q, hq, hstart⟩ := start_of_stopped s hstate
  have hfolder := hq.mirror (by decide) (by decide)
  obtain ⟨e, hstart⟩ | hstart := hstart
  · rw [hstart]
    exact (q.modifies_cancel.mirror (by decide) (by decide)).trans hfolder
  · rw [hstart]
    exact hfolder

/-- Every move but one that begins anew makes one of the elementary changes. -/
lemma change_after {m : Move} (h : m = .start → r.state ≠ .stopped) :
    r.mirror.Change (r.binds? s m) (r.after s m).mirror := by
  cases m with
  | start =>
    rw [after, start, if_pos (h rfl)]
    exact .keeps
  | pause => exact .of_eq ((r.modifies_pause s).mirror (by decide) (by decide))
  | resume => exact .of_eq ((r.modifies_resume s).mirror (by decide) (by decide))
  | stop error => exact .of_eq (r.mirror_stop s error)
  | answer id a => exact .of_eq ((r.modifies_answer id a).mirror (by decide) (by decide))
  | sample role sensor timestamp values =>
    exact .of_eq ((r.modifies_sample role sensor timestamp values).mirror (by decide) (by decide))
  | step i =>
    cases hstep : r.step? s i with
    | none =>
      rw [binds?_of_step? hstep, after, hstep]
      exact .keeps
    | some r' =>
      rw [after, hstep, Option.getD_some]
      exact change_step hstep
  | others shared => exact .keeps

lemma sound_mirror_after (h : r.mirror.Sound bound) (m : Move) :
    (r.after s m).mirror.Sound (r.boundAfter s bound m) := by
  by_cases hbegins : m = .start ∧ r.state = .stopped
  · obtain ⟨rfl, hstate⟩ := hbegins
    rw [boundAfter, if_pos hstate, after, mirror_start s hstate]
    exact sound_mirror_initial s
  · have hchange := h.change (r.change_after (s := s) fun hm hstate => hbegins ⟨hm, hstate⟩)
    cases m with
    | start =>
      rw [boundAfter, if_neg fun hstate => hbegins ⟨rfl, hstate⟩]
      simpa [binds?] using hchange
    | _ => exact hchange

lemma sound_mirror_afterAll (h : r.mirror.Sound bound) (moves : List Move) :
    (r.afterAll s moves).mirror.Sound (r.bindings s bound moves) := by
  induction moves generalizing r bound with
  | nil => exact h
  | cons m rest ih => exact ih (sound_mirror_after h m)

/-- A move that counts as one that binds a role has given it a device and an empty configuration. -/
lemma bound_after {m : Move} {role : String} (h : r.binds? s m = some role) :
    ∃ d, (r.after s m).roles.get? role = some ⟨role, d, []⟩ := by
  cases m with
  | step i =>
    cases hstep : r.step? s i with
    | none =>
      rw [binds?_of_step? hstep] at h
      cases h
    | some r' =>
      have hchange := change_step hstep
      rw [h] at hchange
      rw [after, hstep, Option.getD_some]
      exact hchange.bound
  | _ => cases h

/-- In every state of a run the metadata have each setting of each role: the same value, or where it is an object, an
object with all its members and perhaps more.  For a role that has been bound once, beforehand or by a selection, they
have its configuration and nothing else; an absent one counts as empty.

Those moves count as bindings that give a role a device and an empty configuration. -/
theorem metadata_mirror_configurations (x : Ensemble) (s : Setup) (moves : List Move) :
    let r := (x.newRun s).afterAll s moves
    let bound := (x.newRun s).bindings s s.roles.keys moves
    (∀ role b, r.roles.get? role = some b →
      role ∈ bound ∧
      (∀ k v, b.config.get? k = some v →
        ∃ (copy : Dict Json) (w : Json),
          r.metadata.deviceConfig.get? role = some (.obj copy) ∧ copy.get? k = some w ∧ w.Covers v) ∧
      (bound.count role = 1 → (r.metadata.deviceConfig.get? role).getD (.obj []) = .obj b.config)) ∧
    ∀ m role, r.binds? s m = some role → ∃ d, (r.after s m).roles.get? role = some ⟨role, d, []⟩ := by
  intro r bound
  have hsound : r.mirror.Sound bound := sound_mirror_afterAll (r := x.newRun s) (sound_mirror_initial s) moves
  refine ⟨fun role b hb => ?_, fun m role => bound_after⟩
  exact ⟨hsound.known role b hb, fun k v hv => hsound.covers hb hv, fun hcount => hsound.same hb hcount.le⟩

/-- A phone is selected and its accelerometer configured, then all this is done once more with another setting.  The
copy of the first configuration is equal to it; that of the second one has a member more. -/
theorem metadata_mirror_configurations_rebound :
    let phone : Device := ⟨.mobilePhone, [⟨"", SensorType.acc, []⟩], []⟩
    let choose (next : String) : Node := { Node.ofPrimitive .deviceSelect with next := [some next] }
    let set (key : String) (value : Int) (next : String) : Node :=
      { Node.ofPrimitive .deviceSetConfig with
        arguments := .obj [("config", .arr [.arr [.str key, .int value]])], next := [some next] }
    let nodes : Dict Node :=
      [("a", choose "b"), ("b", set "acc.rate" 5 "c"), ("c", choose "d"), ("d", set "acc.range" 2 "e"),
        ("e", Node.ofPrimitive .waitNext)]
    let s : Setup :=
      { definition := { scenarioId := 1, content := { entry := "a", nodes } }, folder := ["run"], available := [phone] }
    let x : Ensemble := { files := {} }
    let once := (x.newRun s).afterAll s [.start, .step 0, .step 0]
    let twice := (x.newRun s).afterAll s [.start, .step 0, .step 0, .step 0, .step 0]
    (∃ b, once.roles.get? "main" = some b ∧ b.config.get? "acc" ≠ none ∧
      (once.metadata.deviceConfig.get? "main").getD (.obj []) = .obj b.config) ∧
    ∃ (b : RoleBinding) (v : Json) (copy : Dict Json) (w : Json), twice.roles.get? "main" = some b ∧
      b.config.get? "acc" = some v ∧ twice.metadata.deviceConfig.get? "main" = some (.obj copy) ∧
      copy.get? "acc" = some w ∧ w.Covers v ∧ w ≠ v := by
  intro phone choose set nodes s x
  have hacc (r : Run) (h : (r.roles.get? "main").any (fun b => b.config.contains "acc") = true) :
      ∃ b v, r.roles.get? "main" = some b ∧ b.config.get? "acc" = some v := by
    obtain ⟨b, hb, hacc⟩ := (Option.any_eq_true ..).mp h
    obtain ⟨v, hv⟩ := Option.isSome_iff_exists.mp hacc
    exact ⟨b, v, hb, hv⟩
  obtain ⟨b, v, hb, hv⟩ := hacc ((x.newRun s).afterAll s [.start, .step 0, .step 0]) (by decide +kernel)
  obtain ⟨b', v', hb', hv'⟩ :=
    hacc ((x.newRun s).afterAll s [.start, .step 0, .step 0, .step 0, .step 0]) (by decide +kernel)
  obtain ⟨-, -, hsame⟩ := (metadata_mirror_configurations x s _).1 "main" b hb
  obtain ⟨-, hcovers, -⟩ := (metadata_mirror_configurations x s _).1 "main" b' hb'
  obtain ⟨copy, w, hcopy, hw, hwv⟩ := hcovers "acc" v' hv'
  refine ⟨⟨b, hb, by simp [hv], hsame (by decide +kernel)⟩, b', v', copy, w, hb', hv', hcopy, hw, hwv, ?_⟩
  rintro rfl
  have htext (r : Run) (hb : r.roles.get? "main" = some b')
      (hcopy : r.metadata.deviceConfig.get? "main" = some (.obj copy)) :
      ((r.metadata.deviceConfig.get? "main").bind (·.get? "acc")).map Json.compact =
        ((r.roles.get? "main").bind (·.config.get? "acc")).map Json.compact := by
    rw [hb, Option.bind_some, hv', hcopy, Option.bind_some, show (Json.obj copy).get? "acc" = copy.get? "acc" from rfl,
      hw]
  exact absurd (htext _ hb' hcopy) (by decide +kernel)

end Run

end FieldStudy
