import Mathlib.Tactic.Common
import FieldStudy.Proofs.Run.Rig

/-!
# What runs do to their rigs

A move does up to three things to the rig of a run, in this order (`Run.Serviced`): the bindings change, the action
deals with the backend, and where the run ends everything is switched off.  Only sensor actions make calls, and none of
them changes a binding.  So what holds of the sensors of a run is shown for the few changes of a rig and not for each
action.
-/

namespace FieldStudy

namespace Run

variable {r r' q : Run} {s : Setup} {es fs : List Exchange}

def rig (r : Run) : Rig := ⟨r.roles, r.listening, r.recording, r.calls, r.notices.filterMap Notice.mic?⟩

@[simp] lemma rig_emit_micRecording (r : Run) (recording : Bool) :
    (r.emit (.micRecording recording)).rig = r.rig.tell recording := by
  simp [rig, emit, Rig.tell, Notice.mic?]

/-! ## Sensor actions -/

/-- The calls of a sensor action. -/
structure Drives (s : Setup) (r : Run) (es : List Exchange) (r' : Run) : Prop where
  trades : Trades s r es r'
  deals : r.rig.Deals es r'.rig

lemma Drives.refl (s : Setup) (r : Run) : Drives s r [] r := ⟨.of_eq rfl, .refl r.rig⟩

lemma Drives.trans (h : Drives s r es q) (h' : Drives s q fs r') : Drives s r (es ++ fs) r' :=
  ⟨h.trades.trans h'.trades, h.deals.trans h'.deals⟩

lemma Drives.single {call : BackendCall} (horder : r.rig.InOrder call) {reply : Except ScenarioError Bool}
    (hreply : s.backend.reply r.calls call = reply) (h : r.rig.Change ⟨call, reply⟩ r'.rig) :
    Drives s r [⟨call, reply⟩] r' :=
  ⟨.replied r s hreply h.calls, .single horder h⟩

lemma drives_startMotion (s : Setup) {r : Run} {b : RoleBinding} (hb : r.roles.get? b.role = some b)
    (sensor : String) : ∃ es, Drives s r es (startMotion s r b sensor).2 := by
  rw [startMotion]
  split
  · exact ⟨[], .refl s r⟩
  · next hnot =>
    have hsilent : (b.role, sensor) ∉ r.listening := by simpa using hnot
    dsimp only
    generalize hinterval : reportInterval s (b.sensorConfig sensor) = interval
    have horder : r.rig.InOrder (.startListening b sensor interval (b.sensorConfig sensor)) :=
      .of_start hb hsilent
    rw [ask]
    cases hreply : s.backend.reply r.calls (.startListening b sensor interval (b.sensorConfig sensor)) with
    | error e => exact ⟨_, .single horder hreply (.refused rfl rfl)⟩
    | ok done =>
      cases done with
      | false => exact ⟨_, .single horder hreply (.refused rfl rfl)⟩
      | true => exact ⟨_, .single horder hreply .listens⟩

lemma drives_stopMotion (s : Setup) {r : Run} {b : RoleBinding} (hb : r.roles.get? b.role = some b)
    (sensor : String) : ∃ es, Drives s r es (stopMotion s r b sensor).2 := by
  rw [stopMotion]
  split
  · exact ⟨[], .refl s r⟩
  · next hnot =>
    have hlistens : (b.role, sensor) ∈ r.listening := by simpa using hnot
    have horder : r.rig.InOrder (.stopListening b sensor) := .of_stop hb hlistens
    rw [ask]
    cases hreply : s.backend.reply r.calls (.stopListening b sensor) with
    | error e => exact ⟨_, .single horder hreply (.refused rfl rfl)⟩
    | ok done =>
      cases done with
      | false => exact ⟨_, .single horder hreply (.refused rfl rfl)⟩
      | true => exact ⟨_, .single horder hreply .unlistens⟩

lemma drives_startMic (s : Setup) {r : Run} {b : RoleBinding} (hb : r.roles.get? b.role = some b) :
    ∃ es, Drives s r es (startMic s r b).2 := by
  rw [startMic]
  split
  · exact ⟨[], .refl s r⟩
  · split
    · exact ⟨[], .refl s r⟩
    · next hnot =>
      have hsilent : b.role ∉ r.recording := by simpa using hnot
      have horder : r.rig.InOrder
          (.startRecording b (recordingFile b) s.config.micSampleRate s.config.micChannels) := .of_neither hb rfl rfl
      dsimp only
      rw [ask]
      cases hreply : s.backend.reply r.calls
          (.startRecording b (recordingFile b) s.config.micSampleRate s.config.micChannels) with
      | error e => exact ⟨_, .single horder hreply (.refused rfl rfl)⟩
      | ok done =>
        refine ⟨_, .single horder hreply ?_⟩
        dsimp only
        rw [rig_emit_micRecording]
        exact .records hsilent

lemma drives_stopMic (s : Setup) {r : Run} {b : RoleBinding} (hb : r.roles.get? b.role = some b) :
    ∃ es, Drives s r es (stopMic s r b).2 := by
  rw [stopMic]
  split
  · exact ⟨[], .refl s r⟩
  · next hnot =>
    have hrecords : b.role ∈ r.recording := by simpa using hnot
    have horder : r.rig.InOrder (.stopRecording b) := .of_neither hb rfl rfl
    dsimp only
    rw [ask]
    cases hreply : s.backend.reply r.calls (.stopRecording b) with
    | error e =>
      refine ⟨_, .single horder hreply ?_⟩
      have hchange : r.rig.Change ⟨.stopRecording b, .error e⟩ _ := .unrecords hrecords
      rwa [show (Except.error e : Except ScenarioError Bool).isOk = false from rfl, if_neg Bool.false_ne_true,
        List.append_nil] at hchange
    | ok done =>
      refine ⟨_, .single horder hreply ?_⟩
      dsimp only
      rw [rig_emit_micRecording]
      exact .unrecords hrecords

/-- Wherever the work through the pairs ends, the calls until then are dealings. -/
lemma drives_forEachSensor {step : Run → RoleBinding → String → Option Outcome × Run}
    (hstep : ∀ {q : Run} {b : RoleBinding}, q.roles.get? b.role = some b → ∀ sensor,
      ∃ es, Drives s q es (step q b sensor).2)
    {pairs : List (RoleBinding × String)} (hpairs : ∀ pair ∈ pairs, r.roles.get? pair.1.role = some pair.1) :
    ∃ es, Drives s r es (forEachSensor step pairs r).2 := by
  induction pairs generalizing r with
  | nil => exact ⟨[], .refl s r⟩
  | cons pair rest ih =>
    obtain ⟨b, sensor⟩ := pair
    obtain ⟨hfirst, hrest⟩ := List.forall_mem_cons.mp hpairs
    obtain ⟨es, hes⟩ := hstep hfirst sensor
    rw [forEachSensor]
    split
    · next q hq =>
      rw [hq] at hes
      have hroles : q.roles = r.roles := hes.deals.roles
      obtain ⟨fs, hfs⟩ := ih (r := q) (by rw [hroles]; exact hrest)
      exact ⟨es ++ fs, hes.trans hfs⟩
    · next o q hq =>
      rw [hq] at hes
      exact ⟨es, hes⟩

lemma mem_sensorTargets (hnamed : ∀ role b, (role, b) ∈ r.roles → b.role = role) {a : SensorArguments}
    {pair : RoleBinding × String} (h : pair ∈ r.sensorTargets a) : (pair.1.role, pair.1) ∈ r.roles := by
  obtain ⟨b, hb, hpair⟩ := List.mem_flatMap.mp h
  obtain ⟨sensor, -, rfl⟩ := List.mem_map.mp hpair
  have hvalue : b ∈ r.roles.values := List.mem_of_mem_filter (List.mem_of_mem_filter hb)
  obtain ⟨⟨role, b'⟩, hmem, rfl⟩ := List.mem_map.mp hvalue
  exact (hnamed role b' hmem).symm ▸ hmem

/-- A sensor action is for bindings as they stand. -/
lemma bound_sensorTargets (h : r.rig.Sound) (a : SensorArguments) :
    ∀ pair ∈ r.sensorTargets a, r.roles.get? pair.1.role = some pair.1 :=
  fun _ hpair => h.sorted.get?_of_mem (mem_sensorTargets h.named hpair)

lemma drives_startSensors (h : r.rig.Sound) (s : Setup) (a : SensorArguments) :
    ∃ es, Drives s r es (r.startSensors s a).2 := by
  refine drives_forEachSensor (fun hb sensor => ?_) (bound_sensorTargets h a)
  rw [startSensor]
  split
  · exact drives_startMotion s hb sensor
  · split
    · exact drives_startMic s hb
    · exact ⟨[], .refl s _⟩

lemma drives_stopSensors (h : r.rig.Sound) (s : Setup) (a : SensorArguments) :
    ∃ es, Drives s r es (r.stopSensors s a).2 := by
  refine drives_forEachSensor (fun hb sensor => ?_) (bound_sensorTargets h a)
  rw [stopSensor]
  split
  · exact drives_stopMotion s hb sensor
  · split
    · exact drives_stopMic s hb
    · exact ⟨[], .refl s _⟩

/-! ### The point makes no difference -/

lemma startMotion_point (s : Setup) (r : Run) (x : Option Point) (b : RoleBinding) (sensor : String) :
    startMotion s { r with point := x } b sensor =
      ((startMotion s r b sensor).1, { (startMotion s r b sensor).2 with point := x }) := by
  simp only [startMotion, ask]
  split
  · rfl
  · cases s.backend.reply r.calls _ with
    | error e => rfl
    | ok done => cases done <;> rfl

lemma stopMotion_point (s : Setup) (r : Run) (x : Option Point) (b : RoleBinding) (sensor : String) :
    stopMotion s { r with point := x } b sensor =
      ((stopMotion s r b sensor).1, { (stopMotion s r b sensor).2 with point := x }) := by
  simp only [stopMotion, ask]
  split
  · rfl
  · cases s.backend.reply r.calls _ with
    | error e => rfl
    | ok done => cases done <;> rfl

lemma startMic_point (s : Setup) (r : Run) (x : Option Point) (b : RoleBinding) :
    startMic s { r with point := x } b = ((startMic s r b).1, { (startMic s r b).2 with point := x }) := by
  simp only [startMic, ask]
  split
  · rfl
  · split
    · rfl
    · cases s.backend.reply r.calls _ <;> rfl

lemma stopMic_point (s : Setup) (r : Run) (x : Option Point) (b : RoleBinding) :
    stopMic s { r with point := x } b = ((stopMic s r b).1, { (stopMic s r b).2 with point := x }) := by
  simp only [stopMic, ask]
  split
  · rfl
  · cases s.backend.reply r.calls _ <;> rfl

lemma forEachSensor_point {step : Run → RoleBinding → String → Option Outcome × Run} {x : Option Point}
    (hstep : ∀ r b sensor, step { r with point := x } b sensor =
      ((step r b sensor).1, { (step r b sensor).2 with point := x }))
    (pairs : List (RoleBinding × String)) (r : Run) : forEachSensor step pairs { r with point := x } =
      ((forEachSensor step pairs r).1, { (forEachSensor step pairs r).2 with point := x }) := by
  induction pairs generalizing r with
  | nil => rfl
  | cons pair rest ih =>
    obtain ⟨b, sensor⟩ := pair
    rw [forEachSensor, forEachSensor, hstep]
    obtain ⟨o, q⟩ := step r b sensor
    cases o with
    | none => exact ih q
    | some o => rfl

lemma startSensors_point (s : Setup) (r : Run) (x : Option Point) (a : SensorArguments) :
    ({ r with point := x }.startSensors s a).2 = { (r.startSensors s a).2 with point := x } := by
  refine congrArg Prod.snd (forEachSensor_point (fun q b sensor => ?_) (r.sensorTargets a) r)
  simp only [startSensor, startMotion_point, startMic_point]
  split
  · rfl
  · split <;> rfl

lemma stopSensors_point (s : Setup) (r : Run) (x : Option Point) (a : SensorArguments) :
    ({ r with point := x }.stopSensors s a).2 = { (r.stopSensors s a).2 with point := x } := by
  refine congrArg Prod.snd (forEachSensor_point (fun q b sensor => ?_) (r.sensorTargets a) r)
  simp only [stopSensor, stopMotion_point, stopMic_point]
  split
  · rfl
  · split <;> rfl

/-! ## Other actions -/

def rigFields : List RunField := [.roles, .listening, .recording, .calls, .notices]

lemma Modifies.rig {fs : List RunField} (h : Modifies fs r r') (hfs : ∀ f ∈ rigFields, f ∉ fs) : r'.rig = r.rig := by
  have hroles : r'.roles = r.roles := h .roles (hfs _ (by decide))
  have hlistening : r'.listening = r.listening := h .listening (hfs _ (by decide))
  have hrecording : r'.recording = r.recording := h .recording (hfs _ (by decide))
  have hcalls : r'.calls = r.calls := h .calls (hfs _ (by decide))
  have hnotices : r'.notices = r.notices := h .notices (hfs _ (by decide))
  rw [Run.rig, Run.rig, hroles, hlistening, hrecording, hcalls, hnotices]

lemma rig_emit (r : Run) {n : Notice} (hn : n.mic? = none) : (r.emit n).rig = r.rig := by
  simp [rig, emit, hn]

lemma rig_promptThen (r : Run) {notice : Nat → Notice} (hnotice : ∀ id, (notice id).mic? = none)
    (resumption : Resumption) : (r.promptThen notice resumption).2.rig = r.rig :=
  rig_emit { r with prompts := r.prompts.issue } (hnotice _)

lemma rig_showStages (r : Run) (stages : List DisplayStage) : (r.showStages stages).2.rig = r.rig := by
  induction stages with
  | nil => rfl
  | cons stage rest ih =>
    cases stage with
    | sleep seconds =>
      rw [showStages]
      split
      · rfl
      · exact ih
    | countdown seconds => exact r.rig_promptThen (fun _ => rfl) _
    | next => exact r.rig_promptThen (fun _ => rfl) _

lemma rig_savedWith (r : Run) (s : Setup) (code : Int) : (r.savedWith s code).2.rig = r.rig :=
  (r.modifies_savedWith s code).rig (by decide)

lemma rebinds_mergeRoles (r : Run) (names : Option (List String)) (values : Dict Json) :
    r.rig.Rebinds (r.mergeRoles names values).rig := by
  refine .adjusts (fun b => if isTargeted names b.role then { b with config := mergeConfig b.config values } else b) ?_
  intro b
  split
  · exact ⟨rfl, rfl⟩
  · exact ⟨rfl, rfl⟩

lemma rebinds_bind (r : Run) (s : Setup) (d : Device) (role : String) : r.rig.Rebinds (r.bind s d role).2.rig := by
  rw [bind]
  split
  · exact .keeps
  · rw [rig_savedWith]
    exact .binds role d

lemma rebinds_bindChosen (r : Run) (s : Setup) (candidates : List Device) (role : String) (index : Int) :
    r.rig.Rebinds (r.bindChosen s candidates role index).2.rig := by
  rw [bindChosen]
  split
  · exact r.rebinds_bind s _ role
  · exact .keeps

lemma rebinds_select (r : Run) (s : Setup) (a : SelectArguments) : r.rig.Rebinds (r.select s a).2.rig := by
  rw [select]
  dsimp only
  split
  · exact .keeps
  · exact r.rebinds_bind s _ _
  · exact .of_eq (rig_emit { r with prompts := r.prompts.issue } rfl)

lemma rebinds_createRecord (r : Run) (s : Setup) (a : RecordArguments) :
    r.rig.Rebinds (r.createRecord s a).2.rig := by
  rw [createRecord]
  split
  · exact .keeps
  · next first others _ =>
    split
    · exact r.rebinds_mergeRoles a.roles _
    · have hopened := (r.modifies_openRecord s a (first :: others)).rig (by decide)
      split
      · next q hopen =>
        rw [hopen] at hopened
        exact .of_eq hopened
      · exact .of_eq hopened

lemma rebinds_record (r : Run) (s : Setup) (op : RecordOp) (a : RecordArguments) :
    r.rig.Rebinds (r.record s op a).2.rig := by
  have hchange : r.rig.Rebinds (r.changeRecord s op a).2.rig := by
    cases op with
    | create => exact r.rebinds_createRecord s a
    | close => exact .of_eq ((r.modifies_closeRecord a.name).rig (by decide))
    | pause | unpause | annotate => exact .keeps
  rw [record]
  split
  · next h => simpa [h] using hchange
  · next q h =>
    rw [h] at hchange
    rw [rig_savedWith]
    split
    · exact hchange
    · exact hchange

/-- Actions that are neither an abort nor one on sensors make no calls and tell nothing of microphones. -/
lemma rebinds_execute (r : Run) (s : Setup) (v : Visit) {a : Action} (habort : ∀ info, a ≠ .abort info)
    (hstart : ∀ b, a ≠ .startSensor b) (hstop : ∀ b, a ≠ .stopSensor b) : r.rig.Rebinds (r.execute s v a).2.rig := by
  have hsaved {q : Run} (h : r.rig.Rebinds q.rig) : r.rig.Rebinds (q.savedWith s 0).2.rig := by rwa [rig_savedWith]
  cases a with
  | nop => exact .keeps
  | fork branch =>
    show r.rig.Rebinds (r.fork v branch).2.rig
    rw [fork]
    split
    · exact .keeps
    · exact .keeps
  | join a => exact .of_eq (congrArg rig (r.join_run v a))
  | abort info => exact absurd rfl (habort info)
  | waitDelay seconds => exact .of_eq (congrArg rig (r.sleep_run seconds 0))
  | waitNext => exact .of_eq (r.rig_promptThen (fun _ => rfl) _)
  | waitOption a => exact .of_eq (r.rig_promptThen (fun _ => rfl) _)
  | screenSleep enable => exact .of_eq (r.rig_promptThen (fun _ => rfl) _)
  | display primitive a => exact .of_eq ((rig_showStages _ _).trans (r.rig_emit rfl))
  | progress a => exact .of_eq (r.rig_emit rfl)
  | event op a => exact .of_eq ((r.modifies_event op a).rig (by decide))
  | counter op a => exact .of_eq ((r.modifies_counter op a).rig (by decide))
  | metadataSet key value => exact hsaved .keeps
  | logInfo message => exact .of_eq ((r.modifies_logInfo s message).rig (by decide))
  | record op a => exact r.rebinds_record s op a
  | select a => exact r.rebinds_select s a
  | setConfig roles pairs => exact hsaved (r.rebinds_mergeRoles roles _)
  | dumpConfig roles keys => exact hsaved .keeps
  | pauseSensor paused roles => exact hsaved (r.rebinds_mergeRoles roles _)
  | startSensor a => exact absurd rfl (hstart a)
  | stopSensor a => exact absurd rfl (hstop a)
  | deviceRecord _ => exact .keeps

lemma rebinds_proceed (r : Run) (s : Setup) (result : Except ScenarioError Int) (resumption : Resumption) :
    r.rig.Rebinds (r.proceed s result resumption).2.rig := by
  cases result with
  | error e => exact .keeps
  | ok value =>
    cases resumption with
    | code code => exact .keeps
    | answer => exact .keeps
    | display rest => exact .of_eq (r.rig_showStages rest)
    | bind candidates role => exact r.rebinds_bindChosen s candidates role value

/-! ## The end of a run -/

lemma drainedMics_perm (r : Run) (s : Setup) : (r.drainedMics s).Perm r.rig.mics :=
  ((s.drains.mics r.token).perm r.recording).filterMap r.roles.get?

/-- Whatever the order, it is what runs that is stopped. -/
lemma releaseCalls_perm (r : Run) (s : Setup) : (r.releaseCalls s).Perm r.rig.releases := by
  have hlisteners : (r.drainedListeners s).Perm _ := ((s.drains.listeners r.token).perm r.listening).filterMap _
  exact (hlisteners.map _).append ((r.drainedMics_perm s).map _)

lemma rig_releaseSensors (r : Run) (s : Setup) : (r.releaseSensors s).rig = r.rig.off (r.releaseCalls s) := by
  have hlength : (r.drainedMics s).length = r.rig.mics.length := (r.drainedMics_perm s).length_eq
  have htold (n : Nat) :
      (List.replicate n (Notice.micRecording false)).filterMap Notice.mic? = List.replicate n false :=
    List.filterMap_replicate_of_some rfl
  rw [releaseSensors_eq, Rig.off, ← hlength, ← htold]
  simp only [rig, List.filterMap_append]

/-- The run goes on with its rig as it is, or it ends and everything is switched off. -/
def Quits (r r' : Run) : Prop :=
  (r'.rig = r.rig ∧ (r'.state = .stopped ↔ r.state = .stopped)) ∨
    (r.state ≠ .stopped ∧ r'.state = .stopped ∧
      ∃ stops : List BackendCall, stops.Perm r.rig.releases ∧ r'.rig = r.rig.off stops)

lemma Quits.of_modifies {fs : List RunField} (h : Modifies fs r r') (hfs : ∀ f ∈ RunField.state :: rigFields, f ∉ fs) :
    r.Quits r' := by
  have hstate : r'.state = r.state := h .state (hfs _ List.mem_cons_self)
  exact .inl ⟨h.rig fun f hf => hfs f (List.mem_cons_of_mem _ hf), by rw [hstate]⟩

lemma rig_reported (r : Run) (error : Option ScenarioError) : (r.reported error).rig = r.rig :=
  (rig_emit (r.emit (.state .stopped)) rfl).trans (r.rig_emit rfl)

lemma rig_stop (s : Setup) (error : Option ScenarioError) (hstate : r.state ≠ .stopped) :
    ∃ stops : List BackendCall, stops.Perm r.rig.releases ∧ (r.stop s error).rig = r.rig.off stops := by
  have hsaved := ((r.halt.releaseFiles.releaseSensors s).modifies_saveMetadata s).rig (by decide)
  have hkept : r.halt.releaseFiles.rig = r.rig := by
    rw [r.halt.modifies_releaseFiles.rig (by decide), r.modifies_halt.rig (by decide)]
  refine ⟨r.halt.releaseFiles.releaseCalls s, hkept ▸ releaseCalls_perm _ s, ?_⟩
  rw [r.stop_eq s error hstate]
  calc ((r.halt.released s).reported error).rig = (r.halt.released s).rig := rig_reported _ error
    _ = (r.halt.releaseFiles.releaseSensors s).rig := hsaved
    _ = r.halt.releaseFiles.rig.off (r.halt.releaseFiles.releaseCalls s) := rig_releaseSensors _ s
    _ = r.rig.off (r.halt.releaseFiles.releaseCalls s) := by rw [hkept]

lemma quits_stop (r : Run) (s : Setup) (error : Option ScenarioError) : r.Quits (r.stop s error) := by
  by_cases hstate : r.state = .stopped
  · rw [stop, if_pos hstate]
    exact .of_modifies (.refl [] r) (by decide)
  · exact .inr ⟨hstate, r.state_stop s error, rig_stop s error hstate⟩

lemma quits_close (r : Run) (s : Setup) (i : Nat) (t : Task) (p : Point) (turn : Turn) :
    r.Quits (r.close s i t p turn) := by
  obtain hmodifies | ⟨error, q, -, hq, hclose⟩ := r.close_cases s i t p turn
  · exact .of_modifies hmodifies (by decide)
  · have hrig : q.rig = r.rig := hq.rig (by decide)
    have hstate : q.state = r.state := hq .state (by decide)
    have hstop := q.quits_stop s error
    rw [Quits, hrig, hstate] at hstop
    rw [hclose]
    exact hstop

lemma rig_pause (r : Run) (s : Setup) : (r.pause s).rig = r.rig := by
  rw [pause]
  split
  · rfl
  · rw [rig_emit _ rfl, ((({ r with state := .paused } : Run).cancel).modifies_saveMetadata s).rig (by decide),
      ({ r with state := .paused } : Run).modifies_cancel.rig (by decide)]
    rfl

lemma rig_resume (r : Run) (s : Setup) : (r.resume s).rig = r.rig := by
  have hsignal (q : Run) : (q.branchSignal mainBranch).2.rig = q.rig := by
    rw [branchSignal]
    split
    · split
      · rfl
      · rfl
    · rfl
  rw [resume]
  split
  · rfl
  · exact (hsignal _).trans (rig_emit _ rfl)

/-! ## Moves -/

lemma stopped_pause (r : Run) (s : Setup) : (r.pause s).state = .stopped ↔ r.state = .stopped := by
  by_cases hrunning : r.state = .running
  · have hpaused : (r.pause s).state = .paused := congrArg Prod.fst (verdict_pause s hrunning)
    simp [hpaused, hrunning]
  · rw [pause, if_pos hrunning]

lemma stopped_resume (r : Run) (s : Setup) : (r.resume s).state = .stopped ↔ r.state = .stopped := by
  by_cases hpaused : r.state = .paused
  · have hrunning : (r.resume s).state = .running := congrArg Prod.fst (verdict_resume s hpaused)
    simp [hpaused, hrunning]
  · rw [resume, if_pos hpaused]

/-- What a move does to the rig: the bindings may change, the action deals with the backend, and the end of the run
switches everything off. -/
inductive Serviced (s : Setup) (r : Run) (m : Move) : Prop
  | goesOn {g : Rig} (hrebinds : r.rig.Rebinds g) (hdeals : g.Deals (r.actionTrades s m) (r.after s m).rig)
      (hstate : (r.after s m).state = .stopped ↔ r.state = .stopped) (htrades : r.trades s m = r.actionTrades s m)
  | ends {g g' : Rig} {stops : List Exchange} (hrebinds : r.rig.Rebinds g) (hdeals : g.Deals (r.actionTrades s m) g')
      (hgoes : r.state ≠ .stopped) (hstopped : (r.after s m).state = .stopped)
      (hoff : (r.after s m).rig = g'.off (stops.map Exchange.call))
      (htrades : r.trades s m = r.actionTrades s m ++ stops) (hstops : (stops.map Exchange.call).Perm g'.releases)

/-- The work on an action and then what follows from it. -/
lemma Serviced.of_work {m : Move} {g : Rig} (hothers : ∀ shared, m ≠ .others shared) (hrebinds : r.rig.Rebinds g)
    (hdeals : g.Deals (r.actionTrades s m) q.rig) (hstate : q.state = r.state) (hquits : q.Quits (r.after s m)) :
    Serviced s r m := by
  have hcalls : q.rig.calls = r.calls ++ (r.actionTrades s m).map Exchange.call := by
    rw [hdeals.calls, hrebinds.calls]
    rfl
  obtain ⟨hrig, hsame⟩ | ⟨hgoes, hstopped, calls, hperm, hoff⟩ := hquits
  · have hafter : (r.after s m).calls = r.calls ++ ((r.actionTrades s m).map Exchange.call ++ []) := by
      rw [List.append_nil, ← hcalls, ← hrig]
      rfl
    obtain ⟨stops, htrades, hnone⟩ := trades_eq hothers hafter
    rw [List.map_eq_nil_iff.mp hnone, List.append_nil] at htrades
    exact .goesOn hrebinds (hrig ▸ hdeals) (hstate ▸ hsame) htrades
  · have hafter : (r.after s m).calls = r.calls ++ ((r.actionTrades s m).map Exchange.call ++ calls) := by
      rw [← List.append_assoc, ← hcalls, show (r.after s m).calls = (r.after s m).rig.calls from rfl, hoff]
      rfl
    obtain ⟨stops, htrades, rfl⟩ := trades_eq hothers hafter
    exact .ends hrebinds hdeals (hstate ▸ hgoes) hstopped hoff htrades hperm

lemma Drives.actionDeals (h : Drives s r es q) {m : Move} (htrades : r.actionTrades s m = r.exchanged s q) :
    r.rig.Deals (r.actionTrades s m) q.rig := by
  rw [htrades, h.trades.exchanged]
  exact h.deals

/-- The work on the action of a step. -/
lemma deals_execute (hsound : r.rig.Sound) {m : Move} {a : Action} (htaken : r.taken? s m = some a)
    (habort : ∀ info, a ≠ .abort info) (x : Option Point) (v : Visit) :
    ∃ g, r.rig.Rebinds g ∧ g.Deals (r.actionTrades s m) (({ r with point := x } : Run).execute s v a).2.rig := by
  by_cases hstart : ∃ b, a = .startSensor b
  · obtain ⟨b, rfl⟩ := hstart
    obtain ⟨es, hes⟩ := drives_startSensors hsound s b
    refine ⟨r.rig, .keeps, ?_⟩
    rw [show (({ r with point := x } : Run).execute s v (.startSensor b)).2 = _ from startSensors_point s r x b]
    exact hes.actionDeals (by rw [actionTrades, htaken])
  · by_cases hstop : ∃ b, a = .stopSensor b
    · obtain ⟨b, rfl⟩ := hstop
      obtain ⟨es, hes⟩ := drives_stopSensors hsound s b
      refine ⟨r.rig, .keeps, ?_⟩
      rw [show (({ r with point := x } : Run).execute s v (.stopSensor b)).2 = _ from stopSensors_point s r x b]
      exact hes.actionDeals (by rw [actionTrades, htaken])
    · have hnostart : ∀ b, a ≠ .startSensor b := fun b heq => hstart ⟨b, heq⟩
      have hnostop : ∀ b, a ≠ .stopSensor b := fun b heq => hstop ⟨b, heq⟩
      have htrades : r.actionTrades s m = [] := by
        rw [actionTrades, htaken]
        cases a <;> first | rfl | exact absurd rfl (hnostart _) | exact absurd rfl (hnostop _)
      rw [htrades]
      exact ⟨_, rebinds_execute { r with point := x } s v habort hnostart hnostop, .refl _⟩

lemma serviced_step {i : Nat} (hsound : r.state = .running → r.rig.Sound) (h : r.step? s i = some r') :
    Serviced s r (.step i) := by
  obtain ⟨t, p, turn, q, ht, -, hworked, hclose⟩ := step_cases h
  have hothers : ∀ shared, Move.step i ≠ .others shared := fun shared heq => by cases heq
  have hafter : r.after s (.step i) = q.close s i t p turn := by rw [after, h, Option.getD_some, hclose]
  have hquits : q.Quits (r.after s (.step i)) := hafter ▸ q.quits_close s i t p turn
  cases hworked with
  | enters hstatus hnone =>
    have htaken : r.taken? s (.step i) = none := by simp [taken?, ht, hstatus, hnone]
    refine .of_work hothers .keeps ?_ rfl hquits
    rw [actionTrades_of_taken? htaken]
    exact .refl _
  | @goesOn a resumption result hstatus hresult =>
    have htaken : r.taken? s (.step i) = none := by simp [taken?, ht, hstatus]
    have hawake := r.modifies_awake i a
    have hstate := (tells_proceed (r.awake i a) s result resumption).state.trans (hawake .state (by decide))
    have hrebinds := rebinds_proceed (r.awake i a) s result resumption
    rw [hawake.rig (by decide)] at hrebinds
    refine .of_work hothers hrebinds ?_ hstate hquits
    rw [actionTrades_of_taken? htaken]
    exact .refl _
  | @takes node a hstatus hnode haction =>
    have htaken : r.taken? s (.step i) = some a := taken?_step_iff.mpr ⟨t, p, ht, hstatus, haction⟩
    have hrunning := (of_isLive (live_of_action? haction)).1
    by_cases habort : ∃ info, a = .abort info
    · -- The run has stopped before the step comes to its end.
      obtain ⟨info, rfl⟩ := habort
      have htrades : r.actionTrades s (.step i) = [] := by rw [actionTrades, htaken]
      have hgoes : r.state ≠ .stopped := by simp [hrunning]
      let noted : Run := ({ r with point := some p } : Run).updateMetadata fun m => { m with abort := some info }
      have hstopped : (noted.stop s (some (.aborted info))).state = .stopped := noted.state_stop s _
      have hrest := modifies_close_of_stopped hstopped s i t p
        (.acted node (({ r with point := some p } : Run).execute s ⟨t.branch, p.node, node, t.token⟩ (.abort info)).1)
      obtain ⟨stops, hperm, hoff⟩ := rig_stop (r := noted) s (some (.aborted info)) hgoes
      refine .of_work (q := r) hothers .keeps (htrades ▸ .refl _) rfl (.inr ⟨hgoes, ?_, stops, hperm, ?_⟩)
      · rw [hafter]
        exact (hrest .state (by decide)).trans hstopped
      · rw [hafter]
        exact (hrest.rig (by decide)).trans hoff
    · have hnot : ∀ info, a ≠ .abort info := fun info heq => habort ⟨info, heq⟩
      obtain ⟨g, hrebinds, hdeals⟩ := deals_execute (hsound hrunning) htaken hnot (some p)
        ⟨t.branch, p.node, node, t.token⟩
      have hstate := (tells_execute { r with point := some p } s ⟨t.branch, p.node, node, t.token⟩ hnot).state
      exact .of_work hothers hrebinds hdeals hstate hquits

lemma serviced_after (hsound : r.state = .running → r.rig.Sound) {m : Move}
    (hstart : ¬ (m = .start ∧ r.state = .stopped)) (hothers : ∀ shared, m ≠ .others shared) : Serviced s r m := by
  have hquiet (hnone : r.taken? s m = none) (hquits : r.Quits (r.after s m)) : Serviced s r m := by
    refine .of_work hothers .keeps ?_ rfl hquits
    rw [actionTrades_of_taken? hnone]
    exact .refl _
  cases m with
  | start =>
    have hstate : r.state ≠ .stopped := fun hstopped => hstart ⟨rfl, hstopped⟩
    refine hquiet rfl ?_
    rw [after, start, if_pos hstate]
    exact .of_modifies (.refl [] r) (by decide)
  | pause => exact hquiet rfl (.inl ⟨r.rig_pause s, r.stopped_pause s⟩)
  | resume => exact hquiet rfl (.inl ⟨r.rig_resume s, r.stopped_resume s⟩)
  | stop error => exact hquiet rfl (r.quits_stop s error)
  | answer id a => exact hquiet rfl (.of_modifies (r.modifies_answer id a) (by decide))
  | sample role sensor timestamp values =>
    exact hquiet rfl (.of_modifies (r.modifies_sample role sensor timestamp values) (by decide))
  | step i =>
    cases hstep : r.step? s i with
    | some r' => exact serviced_step hsound hstep
    | none =>
      have hturn : r.turn? s i = none := by
        have hsame := r.turn?_isSome s i
        rwa [hstep, Option.isSome_none, Option.isSome_eq_false_iff, Option.isNone_iff_eq_none] at hsame
      refine hquiet (taken?_of_turn? hturn) ?_
      rw [after, hstep, Option.getD_none]
      exact .of_modifies (.refl [] r) (by decide)
  | others shared => exact absurd rfl (hothers shared)

/-- The calls of the action come first in a move. -/
lemma exists_stops (hsound : r.state = .running → r.rig.Sound) (m : Move) :
    ∃ stops, r.trades s m = r.actionTrades s m ++ stops := by
  cases htaken : r.taken? s m with
  | none => exact ⟨r.trades s m, by rw [actionTrades_of_taken? htaken, List.nil_append]⟩
  | some a =>
    obtain ⟨i, rfl⟩ := step_of_taken? htaken
    cases serviced_after (s := s) (m := .step i) hsound (by simp) (by simp) with
    | goesOn hrebinds hdeals hstate htrades => exact ⟨[], by rw [htrades, List.append_nil]⟩
    | ends hrebinds hdeals hgoes hstopped hoff htrades hstops => exact ⟨_, htrades⟩

/-! ## Whole runs -/

/-- The rig is sound, and nothing runs any more once the run has stopped. -/
structure Rigged (r : Run) : Prop where
  sound : r.rig.Sound
  silent : r.state = .stopped → r.listening = [] ∧ r.recording = []

lemma Rigged.after (h : r.Rigged) {m : Move} (hstart : ¬ (m = .start ∧ r.state = .stopped)) :
    (r.after s m).Rigged := by
  obtain ⟨shared, rfl⟩ | hown := m.others_or_own
  · exact ⟨h.sound.congr rfl rfl rfl, h.silent⟩
  · cases serviced_after (s := s) (fun _ => h.sound) hstart hown with
    | goesOn hrebinds hdeals hstate htrades =>
      refine ⟨(h.sound.rebinds hrebinds).deals hdeals, fun hstopped => ?_⟩
      obtain ⟨hlistening, hrecording⟩ := h.silent (hstate.mp hstopped)
      rw [actionTrades_of_stopped (hstate.mp hstopped)] at hdeals
      have hrig := hdeals.eq_of_nil
      have hlistening' : (r.after s m).listening = r.listening := (congrArg Rig.listening hrig).trans hrebinds.listening
      have hrecording' : (r.after s m).recording = r.recording := (congrArg Rig.recording hrig).trans hrebinds.recording
      exact ⟨hlistening'.trans hlistening, hrecording'.trans hrecording⟩
    | ends hrebinds hdeals hgoes hstopped hoff htrades hstops =>
      refine ⟨hoff ▸ ((h.sound.rebinds hrebinds).deals hdeals).off _, fun _ => ?_⟩
      exact ⟨congrArg Rig.listening hoff, congrArg Rig.recording hoff⟩

lemma Rigged.afterAll (h : r.Rigged) {moves : List Move} (honce : r.StartsOnce s moves) :
    (r.afterAll s moves).Rigged := by
  induction moves generalizing r with
  | nil => exact h
  | cons m rest ih =>
    obtain ⟨hfirst, hlater⟩ := not_or.mp honce
    exact ih (h.after hfirst) hlater

lemma named_setup (s : Setup) {role : String} {b : RoleBinding} (hb : (role, b) ∈ s.roles) : b.role = role := by
  obtain ⟨d, -, heq⟩ := List.mem_map.mp (Dict.mem_ofList hb)
  obtain ⟨rfl, rfl⟩ := Prod.mk.inj heq
  rfl

/-- Configurations are empty in the beginning. -/
lemma config_setup (s : Setup) {role : String} {b : RoleBinding} (hb : (role, b) ∈ s.roles) : b.config = [] := by
  obtain ⟨d, -, heq⟩ := List.mem_map.mp (Dict.mem_ofList hb)
  obtain ⟨-, rfl⟩ := Prod.mk.inj heq
  rfl

/-- A run begins with the devices of its setup, and nothing runs on them. -/
lemma rigged_start (h : r.begins s .start = true) : (r.after s .start).Rigged := by
  have hmodifies := modifies_start h
  have hroles : (r.after s .start).rig.roles = s.roles := hmodifies .roles (by decide)
  have hlistening : (r.after s .start).rig.listening = [] := hmodifies .listening (by decide)
  have hrecording : (r.after s .start).rig.recording = [] := hmodifies .recording (by decide)
  refine ⟨⟨?_, ?_, ?_, ?_, ?_⟩, fun _ => ⟨hlistening, hrecording⟩⟩
  · rw [hroles]
    exact Dict.sorted_ofList _
  · rw [hroles]
    exact fun role b hb => named_setup s hb
  · rw [hlistening]
    exact List.forall_mem_nil _
  · rw [hrecording]
    exact List.forall_mem_nil _
  · rw [hrecording]
    exact List.nodup_nil

end Run

end FieldStudy
