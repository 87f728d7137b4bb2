import Mathlib.Data.List.Basic
import Mathlib.Tactic.Common
import FieldStudy.Run.Branch

/-!
# What operations modify

Each operation of a run changes some of its fields and leaves the others as they are.  `Modifies fs r r'` says
that `r'` agrees with `r` outside the fields `fs`; here is one such lemma for each operation, and from them for
every action but a fork and an abort (`Run.modifies_execute`).  Whatever depends on other fields only is kept
without a look into the operation.
-/

namespace FieldStudy

/-- The fields of a run by name. -/
inductive RunField
  | state | token | tokens | cancelled | point | counters | signals | events | branches | metadata | roles
  | prompts | writers | routes | log | listening | recording | files | notices | calls | finished | tasks
  | number | agenda
deriving DecidableEq

namespace RunField

def Value : RunField → Type
  | state => RunState
  | token | tokens | number => Nat
  | cancelled => List Nat
  | point => Option Point
  | counters => Dict Int
  | signals => Signals
  | events | branches => Dict Nat
  | metadata => Metadata
  | roles => Dict RoleBinding
  | prompts => Prompts
  | writers => Dict (RecordWriter FileLogger)
  | routes => Dict (List String)
  | log => Option FileLogger
  | listening => List (String × String)
  | recording => List String
  | files => FileStore
  | notices => List Notice
  | calls => List BackendCall
  | finished => Option StopReason
  | tasks => List Task
  | agenda => Agenda

def get (r : Run) : (f : RunField) → f.Value
  | state => r.state
  | token => r.token
  | tokens => r.tokens
  | cancelled => r.cancelled
  | point => r.point
  | counters => r.counters
  | signals => r.signals
  | events => r.events
  | branches => r.branches
  | metadata => r.metadata
  | roles => r.roles
  | prompts => r.prompts
  | writers => r.writers
  | routes => r.routes
  | log => r.log
  | listening => r.listening
  | recording => r.recording
  | files => r.files
  | notices => r.notices
  | calls => r.calls
  | finished => r.finished
  | tasks => r.tasks
  | number => r.number
  | agenda => r.agenda

end RunField

/-- The runs agree outside these fields. -/
def Run.Modifies (fs : List RunField) (r r' : Run) : Prop := ∀ f, f ∉ fs → f.get r' = f.get r

namespace Run

namespace Modifies

variable {fs gs : List RunField} {r r₁ r₂ : Run}

lemma refl (fs : List RunField) (r : Run) : Modifies fs r r := fun _ _ => rfl

lemma of_eq (h : r₁ = r) : Modifies fs r r₁ := h ▸ refl fs r

lemma mono (h : Modifies fs r r₁) (hsub : ∀ f ∈ fs, f ∈ gs) : Modifies gs r r₁ :=
  fun f hf => h f fun hin => hf (hsub f hin)

lemma trans (h : Modifies fs r r₁) (h' : Modifies fs r₁ r₂) : Modifies fs r r₂ :=
  fun f hf => (h' f hf).trans (h f hf)

/-- Steps that keep to the same fields do so one after another. -/
lemma foldl {α : Type} {step : Run → α → Run} (hstep : ∀ r a, Modifies fs r (step r a)) (as : List α)
    (r : Run) : Modifies fs r (as.foldl step r) := by
  induction as generalizing r with
  | nil => exact refl fs r
  | cons a rest ih => exact (hstep r a).trans (ih _)

end Modifies

/-! ## Shared operations -/

lemma modifies_emit (r : Run) (n : Notice) : Modifies [.notices] r (r.emit n) := by
  intro f hf
  cases f <;> first | rfl | simp at hf

lemma modifies_ask (r : Run) (s : Setup) (call : BackendCall) : Modifies [.calls] r (r.ask s call).2 := by
  intro f hf
  cases f <;> first | rfl | simp at hf

lemma modifies_enqueue (r : Run) (task : Nat) : Modifies [.agenda] r (r.enqueue task) := by
  intro f hf
  cases f <;> first | rfl | simp at hf

lemma modifies_wake (r : Run) (concerns : Task → Await → Bool) :
    Modifies [.agenda] r (r.wake concerns) := by
  refine Modifies.foldl (fun r ti => ?_) _ r
  obtain ⟨t, i⟩ := ti
  dsimp only
  split
  · split
    · exact modifies_enqueue r i
    · exact .refl _ r
  · exact .refl _ r

lemma modifies_resolve (r : Run) (signal : Nat) (value : Int) :
    Modifies [.signals, .agenda] r (r.resolve signal value) := by
  have hset : Modifies [.signals, .agenda] r { r with signals := r.signals.resolve signal value } := by
    intro f hf
    cases f <;> first | rfl | simp at hf
  exact hset.trans ((modifies_wake _ _).mono (by decide))

lemma modifies_clearPrompts (r : Run) : Modifies [.prompts, .agenda] r r.clearPrompts := by
  have hset : Modifies [.prompts, .agenda] r { r with prompts := r.prompts.clear } := by
    intro f hf
    cases f <;> first | rfl | simp at hf
  exact hset.trans ((modifies_wake _ _).mono (by decide))

lemma modifies_answer (r : Run) (id : Nat) (a : Answer) :
    Modifies [.prompts, .agenda] r (r.answer id a).2 := by
  have hset : Modifies [.prompts, .agenda] r { r with prompts := r.prompts.answer id a } := by
    intro f hf
    cases f <;> first | rfl | simp at hf
  rw [answer]
  split
  · exact hset.trans ((modifies_wake _ _).mono (by decide))
  · exact .refl _ r

lemma prompts_answer (r : Run) (id : Nat) (a : Answer) : (r.answer id a).2.prompts = r.prompts.answer id a := by
  rw [answer]
  split
  · exact modifies_wake { r with prompts := r.prompts.answer id a } _ .prompts (by decide)
  · next hid => rw [Prompts.answer, if_neg hid]

lemma modifies_cancel (r : Run) : Modifies [.cancelled, .agenda] r r.cancel := by
  have hset : Modifies [.cancelled, .agenda] r { r with cancelled := r.token :: r.cancelled } := by
    intro f hf
    cases f <;> first | rfl | simp at hf
  exact hset.trans ((modifies_wake _ _).mono (by decide))

lemma modifies_registerBranch (r : Run) (name : String) :
    Modifies [.signals, .branches] r (r.registerBranch name).2 := by
  intro f hf
  cases f <;> first | rfl | simp at hf

lemma modifies_prompt (r : Run) (notice : Nat → Notice) :
    Modifies [.prompts, .notices] r (r.prompt notice).2 := by
  intro f hf
  cases f <;> first | rfl | simp at hf

lemma modifies_updateMetadata (r : Run) (g : Metadata → Metadata) :
    Modifies [.metadata] r (r.updateMetadata g) := by
  intro f hf
  cases f <;> first | rfl | simp at hf

lemma modifies_saveMetadata (r : Run) (s : Setup) : Modifies [.files] r (r.saveMetadata s).2 := by
  rw [saveMetadata]
  split
  · intro f hf
    cases f <;> first | rfl | simp at hf
  · exact .refl _ r

lemma modifies_savedWith (r : Run) (s : Setup) (code : Int) :
    Modifies [.files] r (r.savedWith s code).2 := by
  have h := r.modifies_saveMetadata s
  rw [savedWith]
  split
  · next hs => simpa [hs] using h
  · next hs => simpa [hs] using h

/-! ## Roles -/

lemma modifies_mergeRoles (r : Run) (names : Option (List String)) (values : Dict Json) :
    Modifies [.roles, .metadata] r (r.mergeRoles names values) := by
  intro f hf
  cases f <;> first | rfl | simp at hf

lemma modifies_bind (r : Run) (s : Setup) (d : Device) (role : String) :
    Modifies [.roles, .metadata, .files] r (r.bind s d role).2 := by
  rw [bind]
  split
  · exact .refl _ r
  · next info _ =>
    have hset : Modifies [.roles, .metadata, .files] r
        { r with
          roles := r.roles.insert role ⟨role, d, []⟩
          metadata := { r.metadata with deviceInfo := r.metadata.deviceInfo.insert role info } } := by
      intro f hf
      cases f <;> first | rfl | simp at hf
    exact hset.trans ((modifies_savedWith _ s 0).mono (by decide))

lemma modifies_select (r : Run) (s : Setup) (a : SelectArguments) :
    Modifies [.roles, .metadata, .files, .prompts, .notices] r (r.select s a).2 := by
  rw [select]
  dsimp only
  split
  · exact .refl _ r
  · exact (r.modifies_bind s _ _).mono (by decide)
  · dsimp only
    exact (r.modifies_prompt _).mono (by decide)

lemma modifies_bindChosen (r : Run) (s : Setup) (candidates : List Device) (role : String) (index : Int) :
    Modifies [.roles, .metadata, .files] r (r.bindChosen s candidates role index).2 := by
  rw [bindChosen]
  split
  · exact r.modifies_bind s _ role
  · exact .refl _ r

/-! ## Records -/

lemma modifies_openRecord (r : Run) (s : Setup) (a : RecordArguments) (sensors : List String) :
    Modifies [.writers, .routes, .files] r (r.openRecord s a sensors).2 := by
  rw [openRecord]
  split
  · exact .refl _ r
  · dsimp only
    split <;>
    · intro f hf
      cases f <;> first | rfl | simp at hf

lemma modifies_createRecord (r : Run) (s : Setup) (a : RecordArguments) :
    Modifies [.roles, .metadata, .writers, .routes, .files] r (r.createRecord s a).2 := by
  rw [createRecord]
  split
  · exact .refl _ r
  · next first others _ =>
    split
    · exact ((r.modifies_mergeRoles _ _).mono (by decide)).trans
        ((modifies_updateMetadata _ _).mono (by decide))
    · have h := r.modifies_openRecord s a (first :: others)
      split
      · next q hopen =>
        rw [hopen] at h
        exact (h.mono (by decide)).trans ((modifies_updateMetadata _ _).mono (by decide))
      · exact h.mono (by decide)

lemma modifies_closeRecord (r : Run) (name : String) :
    Modifies [.writers, .routes, .files] r (r.closeRecord name).2 := by
  rw [closeRecord]
  dsimp only
  split <;>
  · intro f hf
    cases f <;> first | rfl | simp at hf

lemma modifies_pauseRecord (r : Run) (name : String) (paused : Bool) :
    Modifies [.writers] r (r.pauseRecord name paused) := by
  intro f hf
  cases f <;> first | rfl | simp at hf

lemma modifies_changeRecord (r : Run) (s : Setup) (op : RecordOp) (a : RecordArguments) :
    Modifies [.roles, .metadata, .writers, .routes, .files] r (r.changeRecord s op a).2 := by
  cases op with
  | create => exact r.modifies_createRecord s a
  | close => exact (r.modifies_closeRecord a.name).mono (by decide)
  | pause => exact (r.modifies_pauseRecord a.name true).mono (by decide)
  | unpause => exact (r.modifies_pauseRecord a.name false).mono (by decide)
  | annotate => exact (r.modifies_updateMetadata _).mono (by decide)

lemma modifies_record (r : Run) (s : Setup) (op : RecordOp) (a : RecordArguments) :
    Modifies [.roles, .metadata, .writers, .routes, .files] r (r.record s op a).2 := by
  have hchange := r.modifies_changeRecord s op a
  rw [record]
  split
  · next h => simpa [h] using hchange
  · next q h =>
    rw [h] at hchange
    have hsaved (q' : Run) : Modifies [.roles, .metadata, .writers, .routes, .files] q' (q'.savedWith s 0).2 :=
      (q'.modifies_savedWith s 0).mono (by decide)
    dsimp only
    split
    · exact (hchange.trans ((q.modifies_updateMetadata _).mono (by decide))).trans (hsaved _)
    · exact hchange.trans (hsaved q)

lemma modifies_writeSample (r : Run) (frame : UInt8) (timestamp : Scalar) (values : List Scalar)
    (name : String) : Modifies [.writers, .files] r (r.writeSample frame timestamp values name) := by
  rw [writeSample]
  split
  · exact .refl _ r
  · intro f hf
    cases f <;> first | rfl | simp at hf

lemma modifies_sample (r : Run) (role sensor : String) (timestamp : UInt64) (values : List Single) :
    Modifies [.writers, .files] r (r.sample role sensor timestamp values) := by
  rw [sample]
  split
  · exact .refl _ r
  · split
    · exact .refl _ r
    · exact .foldl (fun q name => q.modifies_writeSample _ _ _ name) _ r

lemma modifies_logInfo (r : Run) (s : Setup) (message : String) :
    Modifies [.log, .files] r (r.logInfo s message).2 := by
  rw [logInfo]
  dsimp only
  split <;>
  · intro f hf
    cases f <;> first | rfl | simp at hf

lemma modifies_releaseFiles (r : Run) : Modifies [.writers, .log, .files] r r.releaseFiles := by
  intro f hf
  cases f <;> first | rfl | simp at hf

/-! ## Sensors -/

/-- The fields that driving the sensors of a phone can change. -/
def sensorFields : List RunField := [.listening, .recording, .calls, .notices]

lemma modifies_forEachSensor {fs : List RunField}
    {step : Run → RoleBinding → String → Option Outcome × Run}
    (hstep : ∀ r b sensor, Modifies fs r (step r b sensor).2) (pairs : List (RoleBinding × String))
    (r : Run) : Modifies fs r (forEachSensor step pairs r).2 := by
  induction pairs generalizing r with
  | nil => exact .refl _ r
  | cons pair rest ih =>
    obtain ⟨b, sensor⟩ := pair
    have h := hstep r b sensor
    rw [forEachSensor]
    split
    · next q hq =>
      rw [hq] at h
      exact h.trans (ih q)
    · next o q hq => simpa [hq] using h

lemma modifies_startMotion (s : Setup) (r : Run) (b : RoleBinding) (sensor : String) :
    Modifies sensorFields r (startMotion s r b sensor).2 := by
  rw [startMotion]
  split
  · exact .refl _ r
  · dsimp only
    split <;>
    · next q hask =>
      have h : Modifies sensorFields r q := by
        have h := r.modifies_ask s
          (.startListening b sensor (reportInterval s (b.sensorConfig sensor)) (b.sensorConfig sensor))
        rw [hask] at h
        exact h.mono (by decide)
      refine h.trans ?_
      intro f hf
      cases f <;> first | rfl | simp [sensorFields] at hf

lemma modifies_startMic (s : Setup) (r : Run) (b : RoleBinding) :
    Modifies sensorFields r (startMic s r b).2 := by
  rw [startMic]
  split
  · exact .refl _ r
  · split
    · exact .refl _ r
    · dsimp only
      have hask := r.modifies_ask s
        (.startRecording b (recordingFile b) s.config.micSampleRate s.config.micChannels)
      split
      · next q hq =>
        rw [hq] at hask
        exact hask.mono (by decide)
      · next q hq =>
        rw [hq] at hask
        have hset : Modifies sensorFields q { q with recording := b.role :: q.recording } := by
          intro f hf
          cases f <;> first | rfl | simp [sensorFields] at hf
        exact ((hask.mono (by decide)).trans hset).trans ((modifies_emit _ _).mono (by decide))

lemma modifies_stopMotion (s : Setup) (r : Run) (b : RoleBinding) (sensor : String) :
    Modifies sensorFields r (stopMotion s r b sensor).2 := by
  rw [stopMotion]
  split
  · exact .refl _ r
  · have hask := r.modifies_ask s (.stopListening b sensor)
    split <;>
    · next q hq =>
      rw [hq] at hask
      refine Modifies.trans (hask.mono (by decide)) ?_
      intro f hf
      cases f <;> first | rfl | simp [sensorFields] at hf

lemma modifies_stopMic (s : Setup) (r : Run) (b : RoleBinding) :
    Modifies sensorFields r (stopMic s r b).2 := by
  rw [stopMic]
  split
  · exact .refl _ r
  · have hset : Modifies sensorFields r { r with recording := r.recording.filter (· != b.role) } := by
      intro f hf
      cases f <;> first | rfl | simp [sensorFields] at hf
    have hask := ({ r with recording := r.recording.filter (· != b.role) } : Run).modifies_ask s
      (.stopRecording b)
    dsimp only
    split
    · next q hq =>
      rw [hq] at hask
      exact hset.trans (hask.mono (by decide))
    · next q hq =>
      rw [hq] at hask
      exact (hset.trans (hask.mono (by decide))).trans ((modifies_emit _ _).mono (by decide))

lemma modifies_startSensors (r : Run) (s : Setup) (a : SensorArguments) :
    Modifies sensorFields r (r.startSensors s a).2 := by
  refine modifies_forEachSensor (fun q b sensor => ?_) _ r
  rw [startSensor]
  split
  · exact modifies_startMotion s q b sensor
  · split
    · exact modifies_startMic s q b
    · exact .refl _ q

lemma modifies_stopSensors (r : Run) (s : Setup) (a : SensorArguments) :
    Modifies sensorFields r (r.stopSensors s a).2 := by
  refine modifies_forEachSensor (fun q b sensor => ?_) _ r
  rw [stopSensor]
  split
  · exact modifies_stopMotion s q b sensor
  · split
    · exact modifies_stopMic s q b
    · exact .refl _ q

/-- The calls that stop what still runs, in the order in which they are made. -/
def releaseCalls (r : Run) (s : Setup) : List BackendCall :=
  (r.drainedListeners s).map (fun (b, sensor) => .stopListening b sensor) ++ (r.drainedMics s).map .stopRecording

/-- The release of the sensors makes its calls, tells of each microphone and does nothing else. -/
lemma releaseSensors_eq (r : Run) (s : Setup) :
    r.releaseSensors s =
      { r with
        listening := [], recording := []
        calls := r.calls ++ r.releaseCalls s
        notices := r.notices ++ List.replicate (r.drainedMics s).length (.micRecording false) } := by
  have hlisteners (targets : List (RoleBinding × String)) (q : Run) :
      targets.foldl (fun q (b, sensor) => (q.ask s (.stopListening b sensor)).2) q =
        { q with calls := q.calls ++ targets.map fun (b, sensor) => .stopListening b sensor } := by
    induction targets generalizing q with
    | nil => simp
    | cons target rest ih =>
      rw [List.foldl_cons, ih]
      simp [ask]
  have hmics (mics : List RoleBinding) (q : Run) :
      mics.foldl (fun q b => (q.ask s (.stopRecording b)).2.emit (.micRecording false)) q =
        { q with
          calls := q.calls ++ mics.map .stopRecording
          notices := q.notices ++ List.replicate mics.length (.micRecording false) } := by
    induction mics generalizing q with
    | nil => simp
    | cons b rest ih =>
      rw [List.foldl_cons, ih]
      simp [ask, emit, List.replicate_succ]
  rw [releaseSensors, hlisteners, hmics]
  simp only [releaseCalls, List.append_assoc]

lemma modifies_releaseSensors (r : Run) (s : Setup) : Modifies sensorFields r (r.releaseSensors s) := by
  rw [releaseSensors_eq]
  intro f hf
  cases f <;> first | rfl | simp [sensorFields] at hf

/-! ## Messages, events and counters -/

lemma modifies_promptThen (r : Run) (notice : Nat → Notice) (resumption : Resumption) :
    Modifies [.prompts, .notices] r (r.promptThen notice resumption).2 :=
  r.modifies_prompt notice

lemma modifies_showStages (r : Run) (stages : List DisplayStage) :
    Modifies [.prompts, .notices] r (r.showStages stages).2 := by
  induction stages with
  | nil => exact .refl _ r
  | cons stage rest ih =>
    cases stage with
    | sleep seconds =>
      rw [showStages]
      split
      · exact .refl _ r
      · exact ih
    | countdown seconds => exact r.modifies_promptThen _ _
    | next => exact r.modifies_promptThen _ _

lemma sleep_run (r : Run) (seconds : Double) (code : Int) : (r.sleep seconds code).2 = r := by
  rw [sleep]
  split <;> rfl

lemma modifies_display (r : Run) (s : Setup) (v : Visit) (primitive : PrimitiveName)
    (a : DisplayArguments) : Modifies [.prompts, .notices] r (r.display s v primitive a).2 :=
  Modifies.trans ((r.modifies_emit _).mono (by decide)) (modifies_showStages _ _)

/-- The fields that events are kept in. -/
def eventFields : List RunField := [.events, .signals, .agenda]

lemma modifies_createEvent (r : Run) (name : String) : Modifies eventFields r (r.createEvent name) := by
  rw [createEvent]
  split
  · exact .refl _ r
  · intro f hf
    cases f <;> first | rfl | simp [eventFields] at hf

lemma modifies_resetEvent (r : Run) (name : String) : Modifies eventFields r (r.resetEvent name) := by
  rw [resetEvent]
  split
  · intro f hf
    cases f <;> first | rfl | simp [eventFields] at hf
  · exact .refl _ r

lemma modifies_setEvent (r : Run) (name : String) : Modifies eventFields r (r.setEvent name) := by
  rw [setEvent]
  split
  · exact (r.modifies_resolve _ 0).mono (by decide)
  · exact .refl _ r

lemma waitEvents_run (r : Run) (all : Bool) (a : EventArguments) : (r.waitEvents all a).2 = r := by
  simp only [waitEvents]
  split
  · rfl
  · split
    · rfl
    · split
      · rfl
      · split
        · exact sleep_run r _ 1
        · rfl

lemma modifies_event (r : Run) (op : EventOp) (a : EventArguments) :
    Modifies eventFields r (r.event op a).2 := by
  cases op with
  | create => exact .foldl modifies_createEvent a.names r
  | reset => exact .foldl modifies_resetEvent a.names r
  | set => exact .foldl modifies_setEvent a.names r
  | wait => exact .of_eq (r.waitEvents_run false a)
  | waitAll => exact .of_eq (r.waitEvents_run true a)

lemma modifies_counter (r : Run) (op : CounterOp) (a : CounterArguments) :
    Modifies [.counters] r (r.counter op a).2 := by
  cases op <;>
  · intro f hf
    cases f <;> first | rfl | simp at hf

lemma join_run (r : Run) (v : Visit) (a : JoinArguments) : (r.join v a).2 = r := by
  rw [join]
  split <;> rfl

/-! ## Actions -/

/-- The fields that an action can change unless it is a fork, an abort or one on events. -/
def quietFields : List RunField :=
  [.counters, .metadata, .roles, .prompts, .writers, .routes, .log, .listening, .recording, .files,
    .notices, .calls]

/-- The fields that actions other than forks and aborts can change. -/
def actionFields : List RunField := quietFields ++ eventFields

/-- Most actions leave signals, tasks and turns as they are. -/
lemma modifies_execute_quiet (r : Run) (s : Setup) (v : Visit) {a : Action}
    (hfork : ∀ branch, a ≠ .fork branch) (habort : ∀ info, a ≠ .abort info)
    (hevent : ∀ op b, a ≠ .event op b) : Modifies quietFields r (r.execute s v a).2 := by
  have hsaved {q : Run} (h : Modifies quietFields r q) (code : Int) :
      Modifies quietFields r (q.savedWith s code).2 :=
    h.trans ((q.modifies_savedWith s code).mono (by decide))
  cases a with
  | nop => exact .refl _ r
  | fork branch => exact absurd rfl (hfork branch)
  | join a => exact .of_eq (r.join_run v a)
  | abort info => exact absurd rfl (habort info)
  | waitDelay seconds => exact .of_eq (r.sleep_run seconds 0)
  | waitNext => exact (r.modifies_promptThen _ _).mono (by decide)
  | waitOption a => exact (r.modifies_promptThen _ _).mono (by decide)
  | screenSleep enable => exact (r.modifies_promptThen _ _).mono (by decide)
  | display primitive a => exact (r.modifies_display s v primitive a).mono (by decide)
  | progress a => exact (r.modifies_emit _).mono (by decide)
  | event op a => exact absurd rfl (hevent op a)
  | counter op a => exact (r.modifies_counter op a).mono (by decide)
  | metadataSet key value => exact hsaved ((r.modifies_updateMetadata _).mono (by decide)) 0
  | logInfo message => exact (r.modifies_logInfo s message).mono (by decide)
  | record op a => exact (r.modifies_record s op a).mono (by decide)
  | select a => exact (r.modifies_select s a).mono (by decide)
  | setConfig roles pairs => exact hsaved ((r.modifies_mergeRoles _ _).mono (by decide)) 0
  | dumpConfig roles keys => exact hsaved ((r.modifies_updateMetadata _).mono (by decide)) 0
  | pauseSensor paused roles => exact hsaved ((r.modifies_mergeRoles _ _).mono (by decide)) 0
  | startSensor a => exact (r.modifies_startSensors s a).mono (by decide)
  | stopSensor a => exact (r.modifies_stopSensors s a).mono (by decide)
  | deviceRecord primitive => exact .refl _ r

/-- Any action but a fork and an abort leaves the state, the tokens and the tasks as they are. -/
lemma modifies_execute (r : Run) (s : Setup) (v : Visit) {a : Action} (hfork : ∀ branch, a ≠ .fork branch)
    (habort : ∀ info, a ≠ .abort info) : Modifies actionFields r (r.execute s v a).2 := by
  by_cases hevent : ∃ op b, a = .event op b
  · obtain ⟨op, b, rfl⟩ := hevent
    exact (r.modifies_event op b).mono (by decide)
  · exact (r.modifies_execute_quiet s v hfork habort fun op b h => hevent ⟨op, b, h⟩).mono (by decide)

lemma modifies_endWait (r : Run) (a : Await) : Modifies [.prompts] r (r.endWait a) := by
  intro f hf
  cases a <;> cases f <;> first | rfl | simp at hf

/-- Going on after a wait leaves signals, tasks and turns as they are. -/
lemma modifies_proceed (r : Run) (s : Setup) (result : Except ScenarioError Int)
    (resumption : Resumption) : Modifies quietFields r (r.proceed s result resumption).2 := by
  cases result with
  | error e => exact .refl _ r
  | ok value =>
    cases resumption with
    | code code => exact .refl _ r
    | answer => exact .refl _ r
    | display rest => exact (r.modifies_showStages rest).mono (by decide)
    | bind candidates role => exact (r.modifies_bindChosen s candidates role value).mono (by decide)

/-! ## Pausing, resuming and stopping -/

/-- The fields that the end of a run can change before anything is closed. -/
def haltFields : List RunField := [.state, .cancelled, .agenda, .prompts, .routes, .metadata]

lemma modifies_halt (r : Run) : Modifies haltFields r r.halt := by
  have hset : Modifies haltFields r { r with state := .stopped } := by
    intro f hf
    cases f <;> first | rfl | simp [haltFields] at hf
  have hcancel : Modifies haltFields _ ({ r with state := .stopped } : Run).cancel :=
    (modifies_cancel _).mono (by decide)
  have hclear : Modifies haltFields _ ({ r with state := .stopped } : Run).cancel.clearPrompts :=
    (modifies_clearPrompts _).mono (by decide)
  have h := (hset.trans hcancel).trans hclear
  rw [halt]
  generalize ({ r with state := .stopped } : Run).cancel.clearPrompts = q at h
  refine h.trans ?_
  intro f hf
  cases f <;> first | rfl | simp [haltFields] at hf

/-- The run with everything closed that it had opened, which is what is left to do after its epoch has ended. -/
def released (r : Run) (s : Setup) : Run := ((r.releaseFiles.releaseSensors s).saveMetadata s).2

/-- The fields that are changed when everything is closed that a run has opened. -/
def releaseFields : List RunField := [.writers, .log, .files] ++ sensorFields

lemma modifies_released (r : Run) (s : Setup) : Modifies releaseFields r (r.released s) := by
  have hfiles : Modifies releaseFields r r.releaseFiles := r.modifies_releaseFiles.mono (by decide)
  have hsensors : Modifies releaseFields _ (r.releaseFiles.releaseSensors s) :=
    (modifies_releaseSensors _ s).mono (by decide)
  exact (hfiles.trans hsensors).trans ((modifies_saveMetadata _ s).mono (by decide))

/-- The last that is done to a run. -/
def reported (r : Run) (error : Option ScenarioError) : Run :=
  { (r.emit (.state .stopped)).emit (.finished (finishedError? (StopReason.ofError error)) r.metadata.abort) with
    finished := some (StopReason.ofError error) }

lemma modifies_reported (r : Run) (error : Option ScenarioError) :
    Modifies [.notices, .finished] r (r.reported error) := by
  intro f hf
  cases f <;> first | rfl | simp at hf

lemma stop_eq (r : Run) (s : Setup) (error : Option ScenarioError) (hstate : r.state ≠ .stopped) :
    r.stop s error = (r.halt.released s).reported error := by
  rw [stop, if_neg hstate]
  rfl

/-- The fields that stopping can change. -/
def stopFields : List RunField := haltFields ++ releaseFields ++ [.finished]

lemma modifies_stop (r : Run) (s : Setup) (error : Option ScenarioError) :
    Modifies stopFields r (r.stop s error) := by
  by_cases hstate : r.state = .stopped
  · rw [stop, if_pos hstate]
    exact .refl _ r
  · have hhalt : Modifies stopFields r r.halt := r.modifies_halt.mono (by decide)
    have hreleased : Modifies stopFields _ (r.halt.released s) := (modifies_released _ s).mono (by decide)
    rw [r.stop_eq s error hstate]
    exact (hhalt.trans hreleased).trans ((modifies_reported _ error).mono (by decide))

/-- The fields that pausing can change. -/
def pauseFields : List RunField := [.state, .cancelled, .agenda, .files, .notices]

lemma modifies_pause (r : Run) (s : Setup) : Modifies pauseFields r (r.pause s) := by
  rw [pause]
  split
  · exact .refl _ r
  · have hset : Modifies pauseFields r { r with state := .paused } := by
      intro f hf
      cases f <;> first | rfl | simp [pauseFields] at hf
    have hcancel : Modifies pauseFields _ ({ r with state := .paused } : Run).cancel :=
      (modifies_cancel _).mono (by decide)
    have hsaved : Modifies pauseFields _ (({ r with state := .paused } : Run).cancel.saveMetadata s).2 :=
      (modifies_saveMetadata _ s).mono (by decide)
    exact ((hset.trans hcancel).trans hsaved).trans ((modifies_emit _ _).mono (by decide))

/-- The fields that resuming changes. -/
def resumeFields : List RunField :=
  [.state, .token, .tokens, .notices, .signals, .branches, .tasks, .agenda]

lemma modifies_resume (r : Run) (s : Setup) : Modifies resumeFields r (r.resume s) := by
  rw [resume]
  split
  · exact .refl _ r
  · have hset : Modifies resumeFields r (({ r with state := .running } : Run).renew.emit (.state .running)) := by
      intro f hf
      cases f <;> first | rfl | simp [resumeFields] at hf
    have hsignal (q : Run) : Modifies resumeFields q (q.branchSignal mainBranch).2 := by
      rw [branchSignal]
      split
      · split
        · exact (q.modifies_registerBranch mainBranch).mono (by decide)
        · exact .refl _ q
      · exact (q.modifies_registerBranch mainBranch).mono (by decide)
    have hspawn (q : Run) (done token : Nat) (p : Point) :
        Modifies resumeFields q (q.spawn mainBranch done token p) := by
      have htasks : Modifies resumeFields q
          { q with tasks := q.tasks ++ [⟨mainBranch, done, token, .entering p⟩] } := by
        intro f hf
        cases f <;> first | rfl | simp [resumeFields] at hf
      exact htasks.trans ((modifies_enqueue _ _).mono (by decide))
    exact (hset.trans (hsignal _)).trans (hspawn _ _ _ _)

end Run

end FieldStudy
