import Mathlib.Data.List.Basic
import Mathlib.Tactic.Common
import FieldStudy.Proofs.Run.Accounts
import FieldStudy.Proofs.Run.Mirror
import FieldStudy.Proofs.Run.Queue
import FieldStudy.Proofs.Scenario.Metadata

/-!
# What the metadata of a run hold

The numbers in the metadata are in their ranges and the tables have their keys in order, in every state that a run
reaches (`Run.storable_afterAll`).  This rests on what a run is set up with (`Setup.Storable`), on the times that the
clock shows (`Run.InRange`) and on the values that nodes name, which have been read in order.

The configurations of the roles belong to the invariant, as settings of them are copied into the metadata.
-/

namespace FieldStudy

open Decoder (IsInt64)

namespace Metadata.Storable

variable {m : Metadata} {ms : Int}

lemma ordered (h : m.Storable) : m.deviceInfo.Ordered ∧ m.deviceConfig.Ordered ∧ m.extra.Ordered := by
  simpa [Json.isOrdered_obj] using h.tables

/-- Tables may be replaced by others that are in order. -/
lemma of_tables (h : m.Storable) {info config extra : Dict Json} (hinfo : info.Ordered) (hconfig : config.Ordered)
    (hextra : extra.Ordered) :
    Storable { m with deviceInfo := info, deviceConfig := config, extra } where
  __ := h
  tables := by simp [Json.isOrdered_obj, hinfo, hconfig, hextra]

lemma markStart (h : m.Storable) (hms : IsInt64 ms) : (m.markStart ms).Storable where
  __ := h
  startTime _ hstart := Option.some.inj hstart ▸ hms

lemma markEnd (h : m.Storable) (hms : IsInt64 ms) : (m.markEnd ms).Storable where
  __ := h
  endTime _ hend := Option.some.inj hend ▸ hms

lemma abort (h : m.Storable) (info : AbortInfo) : Storable { m with abort := some info } where
  __ := h

lemma addRecord (h : m.Storable) (name file : String) (hms : IsInt64 ms) :
    Storable { m with records := m.records.insert name ⟨file, ms⟩ } where
  __ := h
  records := by
    refine ⟨h.records.1.insert name _, fun p hp => ?_⟩
    obtain rfl | hold := Dict.key_of_mem_insert hp
    · exact hms
    · exact h.records.2 p hold

lemma addRecordEvent (h : m.Storable) (event record : String) (hms : IsInt64 ms) :
    (m.addRecordEvent event record ms).Storable where
  __ := h
  recordEvents e he := by
    obtain hold | hnew := List.mem_append.mp he
    · exact h.recordEvents e hold
    · exact List.mem_singleton.mp hnew ▸ hms

lemma annotate (h : m.Storable) {a : Annotation} (ha : IsInt64 a.timestamp) : (m.annotate a).Storable where
  __ := h
  annotations b hb := by
    obtain hold | hnew := List.mem_append.mp hb
    · exact h.annotations b hold
    · exact List.mem_singleton.mp hnew ▸ ha

lemma describe (h : m.Storable) (role : String) {info : Json} (hinfo : info.isOrdered = true) :
    Storable { m with deviceInfo := m.deviceInfo.insert role info } := by
  obtain ⟨hdevices, hconfig, hextra⟩ := h.ordered
  exact h.of_tables (hdevices.insert hinfo) hconfig hextra

lemma note (h : m.Storable) (key : String) {value : Json} (hvalue : value.isOrdered = true) :
    Storable { m with extra := m.extra.insert key value } := by
  obtain ⟨hinfo, hconfig, hextra⟩ := h.ordered
  exact h.of_tables hinfo hconfig (hextra.insert hvalue)

lemma mergeRoleConfig (h : m.Storable) (role : String) {values : Dict Json} (hvalues : values.Ordered) :
    (m.mergeRoleConfig role values).Storable := by
  obtain ⟨hinfo, hconfig, hextra⟩ := h.ordered
  have hrole : (m.roleConfig role).Ordered := by
    rw [roleConfig]
    cases hold : m.deviceConfig.get? role with
    | none => exact Dict.holds_nil _
    | some v =>
      cases v with
      | obj members => exact Json.isOrdered_obj.mp (hconfig.value role _ hold)
      | _ => exact Dict.holds_nil _
  have hmerged := hrole.mergeConfig Json.merges_isOrdered hvalues
  exact h.of_tables hinfo (hconfig.insert (Json.isOrdered_obj.mpr hmerged)) hextra

lemma mergeRoleConfigs (h : m.Storable) {bs : List RoleBinding} {f : RoleBinding → Dict Json}
    (hf : ∀ b ∈ bs, (f b).Ordered) : (bs.foldl (fun m b => m.mergeRoleConfig b.role (f b)) m).Storable :=
  List.foldlRecOn bs _ h fun _ hm b hb => Storable.mergeRoleConfig hm b.role (hf b hb)

end Metadata.Storable

/-- The numbers that a run is set up with are in their ranges, and devices are described by values in order. -/
structure Setup.Storable (s : Setup) : Prop where
  version : s.config.metadataVersion < Nat.pow 2 32
  identifiers : IsInt64 s.definition.scenarioId ∧ IsInt64 s.definition.collectionId ∧ IsInt64 s.profile.id
  described : ∀ calls d info, s.backend.deviceInfo calls d = .ok info → info.isOrdered = true

lemma Setup.Storable.metadata {s : Setup} (h : s.Storable) : s.metadata.Storable where
  version := h.version
  identifiers := h.identifiers
  startTime _ hms := by cases hms
  endTime _ hms := by cases hms
  records := ⟨Dict.sorted_nil, List.forall_mem_nil _⟩
  recordEvents := List.forall_mem_nil _
  annotations := List.forall_mem_nil _
  tables := by
    have hnil : Dict.Ordered [] := Dict.holds_nil _
    simp [Setup.metadata, Metadata.initial, Json.isOrdered_obj, hnil]

namespace Run

variable {r r' q : Run} {s : Setup} {i : Nat} {t : Task} {p : Point} {turn : Turn}

lemma now_of_leads (walker : Option Nat) (h : r.queue.Leads walker q.queue) : q.now = r.now :=
  congrArg Nat.cast h.clock

lemma ordered_setup (s : Setup) : ∀ p ∈ s.roles, p.2.config.Ordered := by
  rintro ⟨role, b⟩ hb
  rw [config_setup s hb]
  exact Dict.holds_nil _

/-- The metadata can be stored as they are, and the configurations that may be copied into them are in order. -/
structure Storable (r : Run) : Prop where
  metadata : r.metadata.Storable
  configs : ∀ p ∈ r.roles, p.2.config.Ordered

namespace Storable

lemma of_modifies {fs : List RunField} (h : r.Storable) (hq : Modifies fs r q)
    (hfs : ∀ f ∈ [RunField.metadata, .roles], f ∉ fs) : q.Storable := by
  have hmetadata : q.metadata = r.metadata := hq .metadata (hfs _ (by decide))
  have hroles : q.roles = r.roles := hq .roles (hfs _ (by decide))
  exact ⟨hmetadata ▸ h.metadata, hroles ▸ h.configs⟩

lemma savedWith (h : r.Storable) (code : Int) : (r.savedWith s code).2.Storable :=
  h.of_modifies (r.modifies_savedWith s code) (by decide)

lemma of_mem_targets (h : r.Storable) {names : Option (List String)} {b : RoleBinding} (hb : b ∈ r.targets names) :
    b.config.Ordered := by
  obtain ⟨p, hp, rfl⟩ := List.mem_map.mp (List.mem_filter.mp hb).1
  exact h.configs p hp

/-! ## Roles -/

lemma mergeRoles (h : r.Storable) (names : Option (List String)) {values : Dict Json} (hvalues : values.Ordered) :
    (r.mergeRoles names values).Storable where
  metadata := h.metadata.mergeRoleConfigs fun _ _ => hvalues
  configs p hp := by
    obtain ⟨⟨role, b⟩, hb, rfl⟩ := List.mem_map.mp hp
    dsimp only
    split
    · exact (h.configs _ hb).mergeConfig Json.merges_isOrdered hvalues
    · exact h.configs _ hb

lemma dumpConfig (h : r.Storable) (names : Option (List String)) (keys : List String) :
    (r.dumpConfig names keys).Storable :=
  ⟨h.metadata.mergeRoleConfigs fun _ hb => (h.of_mem_targets hb).pickConfig keys, h.configs⟩

lemma bind (h : r.Storable) (hs : s.Storable) (d : Device) (role : String) : (r.bind s d role).2.Storable := by
  rw [Run.bind]
  split
  · exact h
  · next info hinfo =>
    have hconfigs : ∀ p ∈ r.roles.insert role ⟨role, d, []⟩, p.2.config.Ordered := fun p hp => by
      obtain rfl | hold := Dict.key_of_mem_insert hp
      · exact Dict.holds_nil _
      · exact h.configs p hold
    let bound : Run :=
      { r with
        roles := r.roles.insert role ⟨role, d, []⟩
        metadata := { r.metadata with deviceInfo := r.metadata.deviceInfo.insert role info } }
    have hbound : bound.Storable := ⟨h.metadata.describe role (hs.described _ _ _ hinfo), hconfigs⟩
    exact hbound.savedWith 0

lemma select (h : r.Storable) (hs : s.Storable) (a : SelectArguments) : (r.select s a).2.Storable := by
  rw [Run.select]
  dsimp only
  split
  · exact h
  · exact h.bind hs _ _
  · dsimp only
    exact h.of_modifies (r.modifies_prompt _) (by decide)

/-! ## Records -/

lemma createRecord (h : r.Storable) (hnow : IsInt64 r.now) (a : RecordArguments) :
    (r.createRecord s a).2.Storable := by
  rw [Run.createRecord]
  split
  · exact h
  · next first others _ =>
    split
    · have hmerged := h.mergeRoles a.roles (ordered_fileSetting (fileName a.name micExtension))
      exact ⟨hmerged.metadata.addRecord _ _ hnow, hmerged.configs⟩
    · have hopen := r.modifies_openRecord s a (first :: others)
      have hopened := h.of_modifies hopen (by decide)
      have hsame : (r.openRecord s a (first :: others)).2.agenda = r.agenda := hopen .agenda (by decide)
      split
      · next q hresult =>
        rw [hresult] at hopened hsame
        have hnow' : IsInt64 q.now := by rwa [now, clock, hsame]
        exact ⟨hopened.metadata.addRecord _ _ hnow', hopened.configs⟩
      · exact hopened

lemma record (h : r.Storable) (hnow : IsInt64 r.now) (op : RecordOp) (a : RecordArguments) :
    (r.record s op a).2.Storable := by
  have hchanged : (r.changeRecord s op a).2.Storable := by
    cases op with
    | create => exact h.createRecord hnow a
    | close => exact h.of_modifies (r.modifies_closeRecord a.name) (by decide)
    | pause => exact h.of_modifies (r.modifies_pauseRecord a.name true) (by decide)
    | unpause => exact h.of_modifies (r.modifies_pauseRecord a.name false) (by decide)
    | annotate => exact ⟨h.metadata.annotate hnow, h.configs⟩
  have hclock : (r.changeRecord s op a).2.agenda = r.agenda :=
    r.modifies_changeRecord s op a .agenda (by decide)
  rw [Run.record]
  split
  · next hresult => simpa [hresult] using hchanged
  · next q hresult =>
    rw [hresult] at hchanged hclock
    have hnow' : IsInt64 q.now := by rwa [now, clock, hclock]
    refine savedWith ?_ 0
    split
    · exact ⟨hchanged.metadata.addRecordEvent _ _ hnow', hchanged.configs⟩
    · exact hchanged

/-! ## Actions -/

lemma halt (h : r.Storable) (hnow : IsInt64 r.now) : r.halt.Storable := by
  have hcancelled : Modifies [.state, .cancelled, .prompts, .agenda] r
      ({ r with state := .stopped } : Run).cancel.clearPrompts := by
    have hset : Modifies [.state, .cancelled, .prompts, .agenda] r { r with state := .stopped } := by
      intro f hf
      cases f <;> first | rfl | simp at hf
    exact (hset.trans ((modifies_cancel _).mono (by decide))).trans ((modifies_clearPrompts _).mono (by decide))
  have hclock : ({ r with state := .stopped } : Run).cancel.clearPrompts.now = r.now :=
    now_of_leads none ((queue_cancel { r with state := .stopped }).trans (queue_clearPrompts _))
  have hkept := h.of_modifies hcancelled (by decide)
  exact ⟨hkept.metadata.markEnd (hclock ▸ hnow), hkept.configs⟩

lemma stop (h : r.Storable) (hnow : IsInt64 r.now) (error : Option ScenarioError) : (r.stop s error).Storable := by
  by_cases hstate : r.state = .stopped
  · rw [Run.stop, if_pos hstate]
    exact h
  · rw [r.stop_eq s error hstate]
    exact ((h.halt hnow).of_modifies (modifies_released _ s) (by decide)).of_modifies (modifies_reported _ error)
      (by decide)

/-- The values that an action brings into the metadata come from its node. -/
lemma execute (h : r.Storable) (hs : s.Storable) (hnow : IsInt64 r.now) (v : Visit) {node : Node} {a : Action}
    (ha : Action.ofNode node = .ok a) : (r.execute s v a).2.Storable := by
  cases a with
  | fork branch =>
    show (r.fork v branch).2.Storable
    rw [fork]
    split
    · exact h
    · exact ⟨h.metadata, h.configs⟩
  | abort info =>
    have hnoted : (r.updateMetadata fun m => { m with abort := some info }).Storable :=
      ⟨h.metadata.abort info, h.configs⟩
    exact hnoted.stop hnow _
  | metadataSet key value =>
    have hnoted : (r.updateMetadata fun m => { m with extra := m.extra.insert key value }).Storable :=
      ⟨h.metadata.note key (Action.isOrdered_metadataSet ha), h.configs⟩
    exact hnoted.savedWith 0
  | record op a => exact h.record hnow op a
  | select a => exact h.select hs a
  | setConfig roles pairs =>
    exact (h.mergeRoles roles (ordered_configObject (Action.isOrdered_setConfig ha))).savedWith 0
  | dumpConfig roles keys => exact (h.dumpConfig roles keys).savedWith 0
  | pauseSensor paused roles => exact (h.mergeRoles roles (ordered_pausedSetting paused)).savedWith 0
  | event op a => exact h.of_modifies (r.modifies_event op a) (by decide)
  | counter op a => exact h.of_modifies (r.modifies_counter op a) (by decide)
  | startSensor a => exact h.of_modifies (r.modifies_startSensors s a) (by decide)
  | stopSensor a => exact h.of_modifies (r.modifies_stopSensors s a) (by decide)
  | logInfo message => exact h.of_modifies (r.modifies_logInfo s message) (by decide)
  | display primitive a => exact h.of_modifies (r.modifies_display s v primitive a) (by decide)
  | progress a => exact h.of_modifies (r.modifies_emit _) (by decide)
  | waitNext | waitOption a | screenSleep enable => exact h.of_modifies (r.modifies_promptThen _ _) (by decide)
  | waitDelay seconds =>
    show (r.sleep seconds 0).2.Storable
    rw [r.sleep_run seconds 0]
    exact h
  | join a =>
    show (r.join v a).2.Storable
    rw [r.join_run v a]
    exact h
  | nop | deviceRecord => exact h

lemma proceed (h : r.Storable) (hs : s.Storable) (result : Except ScenarioError Int) (resumption : Resumption) :
    (r.proceed s result resumption).2.Storable := by
  cases result with
  | error e => exact h
  | ok value =>
    cases resumption with
    | code code => exact h
    | answer => exact h
    | display rest => exact h.of_modifies (r.modifies_showStages rest) (by decide)
    | bind candidates role =>
      show (r.bindChosen s candidates role value).2.Storable
      rw [bindChosen]
      split
      · exact h.bind hs _ role
      · exact h

/-! ## Moves -/

lemma worked (h : r.Storable) (hs : s.Storable) (hnow : IsInt64 r.now) (hworked : r.Worked s i t p turn q) :
    q.Storable := by
  cases hworked with
  | enters => exact ⟨h.metadata, h.configs⟩
  | @takes node a hstatus hnode haction =>
    obtain ⟨-, node', hnode', ha, -⟩ := action?_eq_some_iff.mp haction
    have hentered : ({ r with point := some p } : Run).Storable := ⟨h.metadata, h.configs⟩
    exact hentered.execute hs hnow _ ha
  | goesOn => exact (h.of_modifies (r.modifies_awake i _) (by decide)).proceed hs _ _

lemma close (h : r.Storable) (hnow : IsInt64 r.now) (i : Nat) (t : Task) (p : Point) (turn : Turn) :
    (r.close s i t p turn).Storable := by
  obtain hmodifies | ⟨error, q, -, hq, hclose⟩ := r.close_cases s i t p turn
  · exact h.of_modifies hmodifies (by decide)
  · have hclosed := now_of_leads (some i) (r.queue_close s i t p turn)
    have hstopped := now_of_leads none (q.queue_stop s error)
    rw [hclose] at hclosed ⊢
    have hclock : q.now = r.now := hstopped.symm.trans hclosed
    exact ((h.of_modifies hq (by decide)).stop (hclock ▸ hnow) error).of_modifies (modifies_setStatus _ i .ended)
      (by decide)

lemma step (h : r.Storable) (hs : s.Storable) (hnow : IsInt64 r.now) (hstep : r.step? s i = some r') :
    r'.Storable := by
  obtain ⟨t, p, turn, q, -, -, hworked, rfl⟩ := step_cases hstep
  have hclock := now_of_leads none (queue_worked hworked)
  exact (h.worked hs hnow hworked).close (hclock ▸ hnow) i t p turn

lemma start (h : r.Storable) (hs : s.Storable) (hnow : IsInt64 r.now) : (r.start s).2.Storable := by
  by_cases hstate : r.state = .stopped
  · have hreleased : r.clearPrompts.releaseFiles.agenda = r.clearPrompts.agenda :=
      r.clearPrompts.modifies_releaseFiles .agenda (by decide)
    have hclock : r.clearPrompts.releaseFiles.now = r.now := by
      rw [now, clock, hreleased]
      exact now_of_leads none r.queue_clearPrompts
    have hreset : (r.reset s).Storable := ⟨hs.metadata.markStart (hclock ▸ hnow), ordered_setup s⟩
    obtain ⟨q, hq, hstart⟩ := start_of_stopped s hstate
    have hcreated := hreset.of_modifies hq (by decide)
    obtain ⟨e, hstart⟩ | hstart := hstart
    · rw [hstart]
      have hcancelled := hcreated.of_modifies q.modifies_cancel (by decide)
      exact ⟨hcancelled.metadata, hcancelled.configs⟩
    · rw [hstart]
      exact ⟨hcreated.metadata, hcreated.configs⟩
  · rw [Run.start, if_pos hstate]
    exact h

lemma after (h : r.Storable) (hs : s.Storable) (hnow : IsInt64 r.now) (m : Move) : (r.after s m).Storable := by
  cases m with
  | start => exact h.start hs hnow
  | pause => exact h.of_modifies (r.modifies_pause s) (by decide)
  | resume => exact h.of_modifies (r.modifies_resume s) (by decide)
  | stop error => exact h.stop hnow error
  | answer id a => exact h.of_modifies (r.modifies_answer id a) (by decide)
  | sample role sensor timestamp values =>
    exact h.of_modifies (r.modifies_sample role sensor timestamp values) (by decide)
  | step i =>
    rw [Run.after]
    cases hstep : r.step? s i with
    | none => exact h
    | some r' => exact h.step hs hnow hstep
  | others shared => exact ⟨h.metadata, h.configs⟩

end Storable

/-- The clock shows a timestamp at each of these moves. -/
def InRange (s : Setup) (r : Run) (moves : List Move) : Prop := ¬ r.Happens s (fun q _ => ¬ IsInt64 q.now) moves

/-- Whatever moves a run makes, its metadata can be stored as they are. -/
lemma storable_afterAll (h : r.Storable) (hs : s.Storable) {moves : List Move} (hrange : r.InRange s moves) :
    (r.afterAll s moves).Storable := by
  induction moves generalizing r with
  | nil => exact h
  | cons m rest ih =>
    obtain ⟨hfirst, hrest⟩ := not_or.mp hrange
    exact ih (h.after hs (not_not.mp hfirst) m) hrest

lemma storable_newRun (x : Ensemble) (hs : s.Storable) : (x.newRun s).Storable := ⟨hs.metadata, ordered_setup s⟩

end Run

end FieldStudy
