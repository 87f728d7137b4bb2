import Mathlib.Data.List.Basic
import Mathlib.Tactic.Common
import FieldStudy.Proofs.Run.Modifies

/-!
# Failures and aborts of actions

An action fails by a fault of its own or with what the backend has replied (`Run.fair_execute`).  That the scenario is
aborted is no such fault: an abort ends with a code like any other action, and it alone notes an abort in the metadata
(`Run.abort_execute`).
-/

namespace FieldStudy

/-- An error of the scenario, its files or its devices: neither an abort, nor the end of an epoch, nor a rejection by
the host. -/
def ScenarioError.isFault : ScenarioError → Bool
  | .prompt _ | .aborted _ | .cancelled => false
  | _ => true

/-- The error is among those that the backend can reply with. -/
def Backend.Replies (b : Backend) (e : ScenarioError) : Prop :=
  (∃ calls call, b.reply calls call = .error e) ∨ ∃ calls d, b.deviceInfo calls d = .error e

/-- What the action fails with, if it fails, is a fault or a reply of the backend. -/
def Outcome.Fair (b : Backend) : Outcome → Prop
  | .fails e => e.isFault = true ∨ b.Replies e
  | _ => True

namespace Run

variable {s : Setup}

/-! ## What an action fails with -/

lemma fair_savedWith (r : Run) (s : Setup) (code : Int) : (r.savedWith s code).1.Fair s.backend := by
  unfold savedWith saveMetadata
  cases r.metadata.save s.folder r.files with
  | error e => exact .inl rfl
  | ok files => trivial

lemma fair_bind (r : Run) (s : Setup) (d : Device) (role : String) : (r.bind s d role).1.Fair s.backend := by
  rw [bind]
  cases hinfo : s.backend.deviceInfo r.calls d with
  | error e => exact .inr (.inr ⟨_, _, hinfo⟩)
  | ok info => exact fair_savedWith _ s 0

lemma fair_select (r : Run) (s : Setup) (a : SelectArguments) : (r.select s a).1.Fair s.backend := by
  rw [select]
  dsimp only
  split
  · trivial
  · exact r.fair_bind s _ _
  · trivial

lemma fair_bindChosen (r : Run) (s : Setup) (candidates : List Device) (role : String) (index : Int) :
    (r.bindChosen s candidates role index).1.Fair s.backend := by
  rw [bindChosen]
  split
  · exact r.fair_bind s _ role
  · trivial

lemma fair_logInfo (r : Run) (s : Setup) (message : String) : (r.logInfo s message).1.Fair s.backend := by
  rw [logInfo]
  dsimp only
  split
  · trivial
  · exact .inl rfl

lemma fault_openRecord (r : Run) (s : Setup) (a : RecordArguments) (sensors : List String) {e : ScenarioError}
    (h : (r.openRecord s a sensors).1 = .error e) : e.isFault = true := by
  rw [openRecord] at h
  split at h
  · cases h
  · dsimp only at h
    split at h
    · cases h
      rfl
    · cases h

lemma fault_createRecord (r : Run) (s : Setup) (a : RecordArguments) {e : ScenarioError}
    (h : (r.createRecord s a).1 = .error e) : e.isFault = true := by
  rw [createRecord] at h
  split at h
  · cases h
  · next first others _ =>
    have hopen := @fault_openRecord r s a (first :: others) e
    split at h
    · cases h
    · generalize r.openRecord s a (first :: others) = x at h hopen
      obtain ⟨result, q⟩ := x
      cases result with
      | error e' => exact hopen h
      | ok done => cases h

lemma fault_closeRecord (r : Run) (name : String) {e : ScenarioError} (h : (r.closeRecord name).1 = .error e) :
    e.isFault = true := by
  rw [closeRecord] at h
  dsimp only at h
  split at h
  · cases h
  · next w _ =>
    dsimp only at h
    generalize (w.close r.files).1 = result at h
    cases result with
    | error e' =>
      cases h
      rfl
    | ok done => cases h

lemma fair_record (r : Run) (s : Setup) (op : RecordOp) (a : RecordArguments) :
    (r.record s op a).1.Fair s.backend := by
  have hchange {e : ScenarioError} (h : (r.changeRecord s op a).1 = .error e) : e.isFault = true := by
    cases op with
    | create => exact r.fault_createRecord s a h
    | close => exact r.fault_closeRecord a.name h
    | _ => cases h
  rw [record]
  generalize r.changeRecord s op a = x at hchange
  obtain ⟨result, q⟩ := x
  cases result with
  | error e => exact .inl (hchange rfl)
  | ok done => exact fair_savedWith _ s 0

/-! ## Sensors -/

lemma fair_forEachSensor {b : Backend} {step : Run → RoleBinding → String → Option Outcome × Run}
    (hstep : ∀ r target sensor, ∀ o ∈ (step r target sensor).1, o.Fair b) (pairs : List (RoleBinding × String))
    (r : Run) : (forEachSensor step pairs r).1.Fair b := by
  induction pairs generalizing r with
  | nil => trivial
  | cons pair rest ih =>
    have hfirst := hstep r pair.1 pair.2
    rw [forEachSensor]
    generalize step r pair.1 pair.2 = x at hfirst
    obtain ⟨outcome, q⟩ := x
    cases outcome with
    | none => exact ih q
    | some o => exact hfirst o rfl

lemma fair_startMotion (s : Setup) (r : Run) (b : RoleBinding) (sensor : String) :
    ∀ o ∈ (startMotion s r b sensor).1, o.Fair s.backend := by
  rw [startMotion]
  split
  · simp
  · dsimp only
    split
    · next hask =>
      rintro o ⟨⟩
      exact .inr (.inl ⟨_, _, congrArg Prod.fst hask⟩)
    · rintro o ⟨⟩
      trivial
    · simp

lemma fair_startMic (s : Setup) (r : Run) (b : RoleBinding) : ∀ o ∈ (startMic s r b).1, o.Fair s.backend := by
  rw [startMic]
  split
  · rintro o ⟨⟩
    trivial
  · split
    · rintro o ⟨⟩
      exact .inl rfl
    · dsimp only
      split
      · next hask =>
        rintro o ⟨⟩
        exact .inr (.inl ⟨_, _, congrArg Prod.fst hask⟩)
      · simp

lemma fair_stopMotion (s : Setup) (r : Run) (b : RoleBinding) (sensor : String) :
    ∀ o ∈ (stopMotion s r b sensor).1, o.Fair s.backend := by
  rw [stopMotion]
  split
  · simp
  · split
    · next hask =>
      rintro o ⟨⟩
      exact .inr (.inl ⟨_, _, congrArg Prod.fst hask⟩)
    · rintro o ⟨⟩
      trivial
    · simp

lemma fair_stopMic (s : Setup) (r : Run) (b : RoleBinding) : ∀ o ∈ (stopMic s r b).1, o.Fair s.backend := by
  rw [stopMic]
  split
  · simp
  · dsimp only
    split
    · next hask =>
      rintro o ⟨⟩
      exact .inr (.inl ⟨_, _, congrArg Prod.fst hask⟩)
    · simp

lemma fair_startSensors (r : Run) (s : Setup) (a : SensorArguments) : (r.startSensors s a).1.Fair s.backend := by
  refine fair_forEachSensor (fun q b sensor => ?_) _ r
  rw [startSensor]
  split
  · exact fair_startMotion s q b sensor
  · split
    · exact fair_startMic s q b
    · simp

lemma fair_stopSensors (r : Run) (s : Setup) (a : SensorArguments) : (r.stopSensors s a).1.Fair s.backend := by
  refine fair_forEachSensor (fun q b sensor => ?_) _ r
  rw [stopSensor]
  split
  · exact fair_stopMotion s q b sensor
  · split
    · exact fair_stopMic s q b
    · simp

/-! ## Actions that wait -/

lemma fair_sleep (b : Backend) (r : Run) (seconds : Double) (code : Int) : (r.sleep seconds code).1.Fair b := by
  rw [sleep]
  split <;> trivial

lemma fair_showStages (b : Backend) (r : Run) (stages : List DisplayStage) : (r.showStages stages).1.Fair b := by
  induction stages with
  | nil => trivial
  | cons stage rest ih =>
    cases stage with
    | sleep seconds =>
      rw [showStages]
      split
      · trivial
      · exact ih
    | countdown seconds => trivial
    | next => trivial

lemma fair_event (b : Backend) (r : Run) (op : EventOp) (a : EventArguments) : (r.event op a).1.Fair b := by
  have hwait (all : Bool) : (r.waitEvents all a).1.Fair b := by
    rw [waitEvents]
    dsimp only
    split
    · trivial
    · split
      · trivial
      · split
        · trivial
        · split
          · exact fair_sleep b r _ 1
          · trivial
  cases op with
  | wait => exact hwait false
  | waitAll => exact hwait true
  | _ => trivial

/-- Whatever an action is, an abort included: if it fails then by a fault or with a reply of the backend. -/
theorem fair_execute (r : Run) (s : Setup) (v : Visit) (a : Action) : (r.execute s v a).1.Fair s.backend := by
  cases a with
  | fork branch =>
    show (r.fork v branch).1.Fair s.backend
    rw [fork]
    split
    · exact .inl rfl
    · trivial
  | join a =>
    show (r.join v a).1.Fair s.backend
    rw [join]
    split <;> trivial
  | waitDelay seconds => exact fair_sleep _ r seconds 0
  | display primitive a => exact fair_showStages _ _ _
  | event op a => exact fair_event _ r op a
  | counter op a => cases op <;> trivial
  | metadataSet key value => exact fair_savedWith _ s 0
  | logInfo message => exact r.fair_logInfo s message
  | record op a => exact r.fair_record s op a
  | select a => exact r.fair_select s a
  | setConfig roles pairs => exact fair_savedWith _ s 0
  | dumpConfig roles keys => exact fair_savedWith _ s 0
  | pauseSensor paused roles => exact fair_savedWith _ s 0
  | startSensor a => exact r.fair_startSensors s a
  | stopSensor a => exact r.fair_stopSensors s a
  | _ => trivial

/-- An action that goes on after a wait fails if the wait has, or by a fault, or with a reply of the backend. -/
theorem fair_proceed (r : Run) (s : Setup) (value : Int) (resumption : Resumption) :
    (r.proceed s (.ok value) resumption).1.Fair s.backend := by
  cases resumption with
  | display rest => exact fair_showStages _ r rest
  | bind candidates role => exact r.fair_bindChosen s candidates role value
  | _ => trivial

/-! ## The abort that the metadata note -/

lemma abort_mergeConfigs (values : RoleBinding → Dict Json) (bs : List RoleBinding) (m : Metadata) :
    (bs.foldl (fun m b => m.mergeRoleConfig b.role (values b)) m).abort = m.abort := by
  induction bs generalizing m with
  | nil => rfl
  | cons b rest ih => exact (ih _).trans rfl

lemma abort_mergeRoles (r : Run) (names : Option (List String)) (values : Dict Json) :
    (r.mergeRoles names values).metadata.abort = r.metadata.abort :=
  abort_mergeConfigs (fun _ => values) _ _

lemma abort_dumpConfig (r : Run) (names : Option (List String)) (keys : List String) :
    (r.dumpConfig names keys).metadata.abort = r.metadata.abort :=
  abort_mergeConfigs (fun b => pickConfig b.config keys) _ _

/-- Who keeps off the metadata keeps the abort that they note. -/
lemma Modifies.abort {fs : List RunField} {r r' : Run} (h : Modifies fs r r') (hfs : RunField.metadata ∉ fs) :
    r'.metadata.abort = r.metadata.abort :=
  congrArg Metadata.abort (h .metadata hfs)

lemma abort_savedWith (r : Run) (s : Setup) (code : Int) :
    (r.savedWith s code).2.metadata.abort = r.metadata.abort :=
  (r.modifies_savedWith s code).abort (by decide)

lemma abort_bind (r : Run) (s : Setup) (d : Device) (role : String) :
    (r.bind s d role).2.metadata.abort = r.metadata.abort := by
  rw [bind]
  split
  · rfl
  · exact (abort_savedWith _ s 0).trans rfl

lemma abort_select (r : Run) (s : Setup) (a : SelectArguments) :
    (r.select s a).2.metadata.abort = r.metadata.abort := by
  rw [select]
  dsimp only
  split
  · rfl
  · exact r.abort_bind s _ _
  · rfl

lemma abort_createRecord (r : Run) (s : Setup) (a : RecordArguments) :
    (r.createRecord s a).2.metadata.abort = r.metadata.abort := by
  rw [createRecord]
  split
  · rfl
  · next first others _ =>
    split
    · exact r.abort_mergeRoles a.roles _
    · have hopen := (r.modifies_openRecord s a (first :: others)).abort (by decide)
      split
      · next hopened => exact (congrArg (·.2.metadata.abort) hopened).symm.trans hopen
      · exact hopen

lemma abort_changeRecord (r : Run) (s : Setup) (op : RecordOp) (a : RecordArguments) :
    (r.changeRecord s op a).2.metadata.abort = r.metadata.abort := by
  cases op with
  | create => exact r.abort_createRecord s a
  | close => exact (r.modifies_closeRecord a.name).abort (by decide)
  | _ => rfl

lemma abort_record (r : Run) (s : Setup) (op : RecordOp) (a : RecordArguments) :
    (r.record s op a).2.metadata.abort = r.metadata.abort := by
  have hchange := r.abort_changeRecord s op a
  rw [record]
  generalize r.changeRecord s op a = x at hchange
  obtain ⟨result, q⟩ := x
  cases result with
  | error e => exact hchange
  | ok done =>
    refine (abort_savedWith _ s 0).trans (Eq.trans ?_ hchange)
    cases op <;> rfl

/-- Only an abort notes one. -/
theorem abort_execute (r : Run) (s : Setup) (v : Visit) {a : Action} (habort : ∀ info, a ≠ .abort info) :
    (r.execute s v a).2.metadata.abort = r.metadata.abort := by
  cases a with
  | nop => rfl
  | fork branch =>
    show (r.fork v branch).2.metadata.abort = r.metadata.abort
    rw [fork]
    split <;> rfl
  | join a => exact congrArg (·.metadata.abort) (r.join_run v a)
  | abort info => exact absurd rfl (habort info)
  | waitDelay seconds => exact congrArg (·.metadata.abort) (r.sleep_run seconds 0)
  | waitNext => rfl
  | waitOption a => rfl
  | screenSleep enable => rfl
  | display primitive a => exact (r.modifies_display s v primitive a).abort (by decide)
  | progress a => rfl
  | event op a => exact (r.modifies_event op a).abort (by decide)
  | counter op a => exact (r.modifies_counter op a).abort (by decide)
  | metadataSet key value => exact (abort_savedWith _ s 0).trans rfl
  | logInfo message => exact (r.modifies_logInfo s message).abort (by decide)
  | record op a => exact r.abort_record s op a
  | select a => exact r.abort_select s a
  | setConfig roles pairs => exact (abort_savedWith _ s 0).trans (r.abort_mergeRoles _ _)
  | dumpConfig roles keys => exact (abort_savedWith _ s 0).trans (r.abort_dumpConfig _ _)
  | pauseSensor paused roles => exact (abort_savedWith _ s 0).trans (r.abort_mergeRoles _ _)
  | startSensor a => exact (r.modifies_startSensors s a).abort (by decide)
  | stopSensor a => exact (r.modifies_stopSensors s a).abort (by decide)
  | deviceRecord primitive => rfl

lemma abort_proceed (r : Run) (s : Setup) (result : Except ScenarioError Int) (resumption : Resumption) :
    (r.proceed s result resumption).2.metadata.abort = r.metadata.abort := by
  cases result with
  | error e => rfl
  | ok value =>
    cases resumption with
    | code code => rfl
    | answer => rfl
    | display rest => exact (r.modifies_showStages rest).abort (by decide)
    | bind candidates role =>
      show (r.bindChosen s candidates role value).2.metadata.abort = r.metadata.abort
      rw [bindChosen]
      split
      · exact r.abort_bind s _ role
      · rfl

end Run

end FieldStudy
