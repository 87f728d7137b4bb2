import Mathlib.Data.List.Induction
import Mathlib.Tactic.Common
import FieldStudy.Proofs.Run.Epochs
import FieldStudy.Proofs.Run.Turns

/-!
# What a run reports

The notices that a run sends are the reports of its starts, one after another.  A report follows the states of the run,
with notices of nodes only while it is running, and it is closed by the end of the run exactly once (`FullReport`),
whoever stops the run and however often (`Run.notices_are_reports`).
-/

namespace FieldStudy

/-- Whether a notice comes from a node and does not tell of the run itself. -/
def Notice.isOfNode : Notice → Bool
  | .state _ | .finished _ _ => false
  | _ => true

/-- Whether a notice tells of a microphone. -/
def Notice.isOfMic : Notice → Bool
  | .micRecording _ => true
  | _ => false

lemma Notice.ofNode_of_ofMic (n : Notice) (h : n.isOfMic = true) : n.isOfNode = true := by
  cases n <;> first | rfl | cases h

/-- The notices of a run under way that is in this state. -/
inductive Report : RunState → List Notice → Prop
  | starts : Report .running [.state .running]
  | node {ns : List Notice} {n : Notice} (h : Report .running ns) (hn : n.isOfNode = true) : Report .running (ns ++ [n])
  | pauses {ns : List Notice} (h : Report .running ns) : Report .paused (ns ++ [.state .paused])
  | resumes {ns : List Notice} (h : Report .paused ns) : Report .running (ns ++ [.state .running])

/-- The notices at the end of a run: the microphones that are switched off, the state, and how it ended. -/
def closing (mics : Nat) (error : Option String) (abort : Option AbortInfo) : List Notice :=
  List.replicate mics (.micRecording false) ++ [.state .stopped, .finished error abort]

/-- The notices of a run that has ended. -/
def FullReport (ns : List Notice) : Prop :=
  ∃ state told mics error abort, Report state told ∧ ns = told ++ closing mics error abort

/-- The reports of so many runs: all of them have ended if the state is stopped, and otherwise the last one is under
way. -/
def Reported (state : RunState) (starts : Nat) (ns : List Notice) : Prop :=
  ∃ (done : List (List Notice)) (current : List Notice), ns = done.flatten ++ current ∧ (∀ d ∈ done, FullReport d) ∧
    ((state = .stopped ∧ current = [] ∧ done.length = starts) ∨ (Report state current ∧ done.length + 1 = starts))

/-- What a move other than a start tells, from a state to a state. -/
inductive Told : RunState → List Notice → RunState → Prop
  | quiet (state : RunState) : Told state [] state
  | node {ns : List Notice} (hns : ∀ n ∈ ns, n.isOfNode = true) : Told .running ns .running
  | pauses : Told .running [.state .paused] .paused
  | resumes : Told .paused [.state .running] .running
  | stops {state : RunState} {ns : List Notice} (hstate : state ≠ .stopped) (hns : ∀ n ∈ ns, n.isOfNode = true)
      (hrunning : state = .running ∨ ns = []) (mics : Nat) (error : Option String) (abort : Option AbortInfo) :
      Told state (ns ++ closing mics error abort) .stopped

/-! ## Reports one after another -/

lemma Report.append {ns more : List Notice} (h : Report .running ns) (hmore : ∀ n ∈ more, n.isOfNode = true) :
    Report .running (ns ++ more) := by
  induction more using List.reverseRecOn with
  | nil => rwa [List.append_nil]
  | append_singleton more n ih =>
    rw [← List.append_assoc]
    refine .node (ih fun n' hn' => hmore n' (List.mem_append_left _ hn')) (hmore n ?_)
    exact List.mem_append_right _ (List.mem_singleton.mpr rfl)

lemma not_report_stopped {ns : List Notice} : ¬ Report .stopped ns := by
  intro h
  cases h

namespace Reported

variable {state state' : RunState} {starts : Nat} {ns more : List Notice}

lemma start (h : Reported .stopped starts ns) : Reported .running (starts + 1) (ns ++ [.state .running]) := by
  obtain ⟨done, current, rfl, hdone, ⟨-, rfl, rfl⟩ | ⟨hreport, -⟩⟩ := h
  · exact ⟨done, [.state .running], by rw [List.append_nil], hdone, .inr ⟨.starts, rfl⟩⟩
  · exact absurd hreport not_report_stopped

/-- The report of a run under way is continued. -/
lemma under_way (h : Reported state starts ns) (hstate : state ≠ .stopped)
    (hmore : ∀ current, Report state current → Report state' (current ++ more)) :
    Reported state' starts (ns ++ more) := by
  obtain ⟨done, current, rfl, hdone, ⟨hstopped, -⟩ | ⟨hreport, hlength⟩⟩ := h
  · exact absurd hstopped hstate
  · exact ⟨done, current ++ more, List.append_assoc .., hdone, .inr ⟨hmore current hreport, hlength⟩⟩

lemma told (h : Reported state starts ns) (htold : Told state more state') : Reported state' starts (ns ++ more) := by
  cases htold with
  | quiet => rwa [List.append_nil]
  | node hns =>
    refine h.under_way (by simp) ?_
    intro current hreport
    exact hreport.append hns
  | pauses =>
    refine h.under_way (by simp) ?_
    intro current hreport
    exact .pauses hreport
  | resumes =>
    refine h.under_way (by simp) ?_
    intro current hreport
    exact .resumes hreport
  | @stops _ ns' hstate hns hrunning mics error abort =>
    obtain ⟨done, current, rfl, hdone, ⟨hstopped, -⟩ | ⟨hreport, hlength⟩⟩ := h
    · exact absurd hstopped hstate
    · have hlast : Report state (current ++ ns') := by
        obtain rfl | rfl := hrunning
        · exact hreport.append hns
        · rwa [List.append_nil]
      refine ⟨done ++ [current ++ ns' ++ closing mics error abort], [], by simp, ?_,
        .inl ⟨rfl, rfl, by simpa using hlength⟩⟩
      intro d hd
      obtain hd | hd := List.mem_append.mp hd
      · exact hdone d hd
      · rw [List.mem_singleton.mp hd]
        exact ⟨state, _, mics, error, abort, hlast, rfl⟩

end Reported

namespace Run

variable {r r' q : Run} {s : Setup} {i : Nat} {t : Task}

/-! ## Quiet operations -/

/-- Nothing is told, and the state stays as it is. -/
structure Quiet (r r' : Run) : Prop where
  notices : r'.notices = r.notices
  state : r'.state = r.state

lemma Quiet.refl (r : Run) : Quiet r r := ⟨rfl, rfl⟩

lemma Quiet.trans {r₁ r₂ : Run} (h : Quiet r r₁) (h' : Quiet r₁ r₂) : Quiet r r₂ :=
  ⟨h'.notices.trans h.notices, h'.state.trans h.state⟩

lemma Modifies.quiet {fs : List RunField} (h : Modifies fs r r') (hnotices : .notices ∉ fs) (hstate : .state ∉ fs) :
    Quiet r r' :=
  ⟨h .notices hnotices, h .state hstate⟩

/-- Only notices of one kind are sent. -/
structure Sends (kind : Notice → Bool) (r r' : Run) : Prop where
  notices : ∃ ns, (∀ n ∈ ns, kind n = true) ∧ r'.notices = r.notices ++ ns
  state : r'.state = r.state

/-- Only notices of nodes are sent. -/
abbrev NodeTells : Run → Run → Prop := Sends Notice.isOfNode

variable {kind : Notice → Bool}

lemma Quiet.tells (h : Quiet r r') : Sends kind r r' :=
  ⟨⟨[], fun _ hn => absurd hn List.not_mem_nil, by rw [List.append_nil, h.notices]⟩, h.state⟩

lemma Sends.mono {other : Notice → Bool} (h : Sends kind r r') (hkind : ∀ n, kind n = true → other n = true) :
    Sends other r r' := by
  obtain ⟨ns, hns, hnotices⟩ := h.notices
  exact ⟨⟨ns, fun n hn => hkind n (hns n hn), hnotices⟩, h.state⟩

lemma Sends.trans {r₁ r₂ : Run} (h : Sends kind r r₁) (h' : Sends kind r₁ r₂) : Sends kind r r₂ := by
  obtain ⟨ns, hns, hnotices⟩ := h.notices
  obtain ⟨ns', hns', hnotices'⟩ := h'.notices
  refine ⟨⟨ns ++ ns', ?_, by rw [hnotices', hnotices, List.append_assoc]⟩, h'.state.trans h.state⟩
  intro n hn
  exact (List.mem_append.mp hn).elim (hns n) (hns' n)

lemma tells_emit (r : Run) {n : Notice} (hn : kind n = true) : Sends kind r (r.emit n) := by
  refine ⟨⟨[n], ?_, rfl⟩, rfl⟩
  intro n' hn'
  exact List.mem_singleton.mp hn' ▸ hn

/-! ## Notices of nodes -/

lemma tells_prompt (r : Run) {notice : Nat → Notice} (hnotice : ∀ id, (notice id).isOfNode = true) :
    NodeTells r (r.prompt notice).2 := by
  have hset : Quiet r { r with prompts := r.prompts.issue } := ⟨rfl, rfl⟩
  exact hset.tells.trans (tells_emit _ (hnotice _))

lemma tells_promptThen (r : Run) {notice : Nat → Notice} (hnotice : ∀ id, (notice id).isOfNode = true)
    (resumption : Resumption) : NodeTells r (r.promptThen notice resumption).2 :=
  r.tells_prompt hnotice

lemma tells_showStages (r : Run) (stages : List DisplayStage) : NodeTells r (r.showStages stages).2 := by
  induction stages with
  | nil => exact (Quiet.refl r).tells
  | cons stage rest ih =>
    cases stage with
    | sleep seconds =>
      rw [showStages]
      split
      · exact (Quiet.refl r).tells
      · exact ih
    | countdown seconds => exact r.tells_promptThen (fun _ => rfl) _
    | next => exact r.tells_promptThen (fun _ => rfl) _

lemma tells_forEachSensor {step : Run → RoleBinding → String → Option Outcome × Run}
    (hstep : ∀ r b sensor, Sends kind r (step r b sensor).2) (pairs : List (RoleBinding × String)) (r : Run) :
    Sends kind r (forEachSensor step pairs r).2 := by
  induction pairs generalizing r with
  | nil => exact (Quiet.refl r).tells
  | cons pair rest ih =>
    obtain ⟨b, sensor⟩ := pair
    have h := hstep r b sensor
    rw [forEachSensor]
    split
    · next q hq =>
      rw [hq] at h
      exact h.trans (ih q)
    · next o q hq => simpa [hq] using h

lemma quiet_ask (r : Run) (s : Setup) (call : BackendCall) : Quiet r (r.ask s call).2 := ⟨rfl, rfl⟩

lemma tells_startMotion (s : Setup) (r : Run) (b : RoleBinding) (sensor : String) :
    Sends Notice.isOfMic r (startMotion s r b sensor).2 := by
  rw [startMotion]
  split
  · exact (Quiet.refl r).tells
  · have hask := r.quiet_ask s
      (.startListening b sensor (reportInterval s (b.sensorConfig sensor)) (b.sensorConfig sensor))
    dsimp only
    split <;>
    · next q hq =>
      rw [hq] at hask
      refine Quiet.tells (hask.trans ?_)
      exact ⟨rfl, rfl⟩

lemma tells_startMic (s : Setup) (r : Run) (b : RoleBinding) : Sends Notice.isOfMic r (startMic s r b).2 := by
  rw [startMic]
  split
  · exact (Quiet.refl r).tells
  · split
    · exact (Quiet.refl r).tells
    · have hask := r.quiet_ask s (.startRecording b (recordingFile b) s.config.micSampleRate s.config.micChannels)
      dsimp only
      split
      · next q hq =>
        rw [hq] at hask
        exact hask.tells
      · next q hq =>
        rw [hq] at hask
        have hset : Quiet q { q with recording := b.role :: q.recording } := ⟨rfl, rfl⟩
        exact (hask.trans hset).tells.trans (tells_emit _ rfl)

lemma tells_stopMotion (s : Setup) (r : Run) (b : RoleBinding) (sensor : String) :
    Sends Notice.isOfMic r (stopMotion s r b sensor).2 := by
  rw [stopMotion]
  split
  · exact (Quiet.refl r).tells
  · have hask := r.quiet_ask s (.stopListening b sensor)
    split <;>
    · next q hq =>
      rw [hq] at hask
      refine Quiet.tells (hask.trans ?_)
      exact ⟨rfl, rfl⟩

lemma tells_stopMic (s : Setup) (r : Run) (b : RoleBinding) : Sends Notice.isOfMic r (stopMic s r b).2 := by
  rw [stopMic]
  split
  · exact (Quiet.refl r).tells
  · have hset : Quiet r { r with recording := r.recording.filter (· != b.role) } := ⟨rfl, rfl⟩
    have hask := ({ r with recording := r.recording.filter (· != b.role) } : Run).quiet_ask s (.stopRecording b)
    dsimp only
    split
    · next q hq =>
      rw [hq] at hask
      exact (hset.trans hask).tells
    · next q hq =>
      rw [hq] at hask
      exact (hset.trans hask).tells.trans (tells_emit q rfl)

lemma tells_startSensors (r : Run) (s : Setup) (a : SensorArguments) :
    Sends Notice.isOfMic r (r.startSensors s a).2 := by
  refine tells_forEachSensor ?_ _ r
  intro q b sensor
  rw [startSensor]
  split
  · exact tells_startMotion s q b sensor
  · split
    · exact tells_startMic s q b
    · exact (Quiet.refl q).tells

lemma tells_stopSensors (r : Run) (s : Setup) (a : SensorArguments) : Sends Notice.isOfMic r (r.stopSensors s a).2 := by
  refine tells_forEachSensor ?_ _ r
  intro q b sensor
  rw [stopSensor]
  split
  · exact tells_stopMotion s q b sensor
  · split
    · exact tells_stopMic s q b
    · exact (Quiet.refl q).tells

lemma tells_select (r : Run) (s : Setup) (a : SelectArguments) : NodeTells r (r.select s a).2 := by
  rw [select]
  dsimp only
  split
  · exact (Quiet.refl r).tells
  · exact ((r.modifies_bind s _ _).quiet (by decide) (by decide)).tells
  · dsimp only
    exact r.tells_prompt fun _ => rfl

/-- An action other than an abort sends no notices but those of nodes. -/
lemma tells_execute (r : Run) (s : Setup) (v : Visit) {a : Action} (habort : ∀ info, a ≠ .abort info) :
    NodeTells r (r.execute s v a).2 := by
  have hsaved {q : Run} (h : Quiet r q) (code : Int) : NodeTells r (q.savedWith s code).2 :=
    (h.trans ((q.modifies_savedWith s code).quiet (by decide) (by decide))).tells
  cases a with
  | nop => exact (Quiet.refl r).tells
  | fork branch =>
    show NodeTells r (r.fork v branch).2
    rw [fork]
    split
    · exact (Quiet.refl r).tells
    · exact Quiet.tells ⟨rfl, rfl⟩
  | join a =>
    show NodeTells r (r.join v a).2
    rw [join_run]
    exact (Quiet.refl r).tells
  | abort info => exact absurd rfl (habort info)
  | waitDelay seconds =>
    show NodeTells r (r.sleep seconds 0).2
    rw [sleep_run]
    exact (Quiet.refl r).tells
  | waitNext => exact r.tells_promptThen (fun _ => rfl) _
  | waitOption a => exact r.tells_promptThen (fun _ => rfl) _
  | screenSleep enable => exact r.tells_promptThen (fun _ => rfl) _
  | display primitive a => exact (r.tells_emit rfl).trans (tells_showStages _ _)
  | progress a => exact r.tells_emit rfl
  | event op a => exact ((r.modifies_event op a).quiet (by decide) (by decide)).tells
  | counter op a => exact ((r.modifies_counter op a).quiet (by decide) (by decide)).tells
  | metadataSet key value => exact hsaved ((r.modifies_updateMetadata _).quiet (by decide) (by decide)) 0
  | logInfo message => exact ((r.modifies_logInfo s message).quiet (by decide) (by decide)).tells
  | record op a => exact ((r.modifies_record s op a).quiet (by decide) (by decide)).tells
  | select a => exact r.tells_select s a
  | setConfig roles pairs => exact hsaved ((r.modifies_mergeRoles _ _).quiet (by decide) (by decide)) 0
  | dumpConfig roles keys => exact hsaved ((r.modifies_updateMetadata _).quiet (by decide) (by decide)) 0
  | pauseSensor paused roles => exact hsaved ((r.modifies_mergeRoles _ _).quiet (by decide) (by decide)) 0
  | startSensor a => exact (r.tells_startSensors s a).mono Notice.ofNode_of_ofMic
  | stopSensor a => exact (r.tells_stopSensors s a).mono Notice.ofNode_of_ofMic
  | deviceRecord primitive => exact (Quiet.refl r).tells

lemma tells_proceed (r : Run) (s : Setup) (result : Except ScenarioError Int) (resumption : Resumption) :
    NodeTells r (r.proceed s result resumption).2 := by
  cases result with
  | error e => exact (Quiet.refl r).tells
  | ok value =>
    cases resumption with
    | code code => exact (Quiet.refl r).tells
    | answer => exact (Quiet.refl r).tells
    | display rest => exact r.tells_showStages rest
    | bind candidates role =>
      exact ((r.modifies_bindChosen s candidates role value).quiet (by decide) (by decide)).tells

/-! ## The end of a run -/

/-- The run is stopped, and its end is told. -/
structure Closes (r r' : Run) : Prop where
  begun : r.state ≠ .stopped
  state : r'.state = .stopped
  notices : ∃ mics error abort, r'.notices = r.notices ++ closing mics error abort

lemma Closes.after_quiet (h : Quiet r q) (h' : Closes q r') : Closes r r' := by
  obtain ⟨mics, error, abort, hnotices⟩ := h'.notices
  exact ⟨h.state ▸ h'.begun, h'.state, mics, error, abort, h.notices ▸ hnotices⟩

lemma Closes.then_quiet (h : Closes r q) (h' : Quiet q r') : Closes r r' := by
  obtain ⟨mics, error, abort, hnotices⟩ := h.notices
  exact ⟨h.begun, h'.state.trans h.state, mics, error, abort, h'.notices.trans hnotices⟩

/-- Each microphone that is switched off is told of. -/
lemma notices_releaseSensors (r : Run) (s : Setup) :
    ∃ mics, (r.releaseSensors s).notices = r.notices ++ List.replicate mics (.micRecording false) := by
  rw [releaseSensors_eq]
  exact ⟨_, rfl⟩

lemma notices_released (r : Run) (s : Setup) :
    ∃ mics, (r.released s).notices = r.notices ++ List.replicate mics (.micRecording false) := by
  obtain ⟨mics, hmics⟩ := r.releaseFiles.notices_releaseSensors s
  have hfiles := r.modifies_releaseFiles.quiet (by decide) (by decide)
  have hsaved := ((r.releaseFiles.releaseSensors s).modifies_saveMetadata s).quiet (by decide) (by decide)
  exact ⟨mics, hsaved.notices.trans (hfiles.notices ▸ hmics)⟩

lemma halt_quiet (r : Run) : r.halt.notices = r.notices ∧ r.halt.state = .stopped := by
  have hcancel := ({ r with state := .stopped } : Run).modifies_cancel.quiet (by decide) (by decide)
  have hclear := ({ r with state := .stopped } : Run).cancel.modifies_clearPrompts.quiet (by decide) (by decide)
  refine ⟨r.modifies_halt .notices (by decide), ?_⟩
  exact (hcancel.trans hclear).state

/-- Stopping tells the end of a run, or does nothing. -/
lemma stop_told (r : Run) (s : Setup) (error : Option ScenarioError) :
    Quiet r (r.stop s error) ∨ Closes r (r.stop s error) := by
  by_cases hstate : r.state = .stopped
  · left
    rw [stop, if_pos hstate]
    exact .refl r
  · right
    obtain ⟨hnotices, hstopped⟩ := r.halt_quiet
    obtain ⟨mics, hmics⟩ := r.halt.notices_released s
    have hdown : (r.halt.released s).state = .stopped :=
      (r.halt.modifies_released s .state (by decide)).trans hstopped
    rw [r.stop_eq s error hstate]
    generalize r.halt.released s = q at hmics hdown
    refine ⟨hstate, hdown, mics, finishedError? (StopReason.ofError error), q.metadata.abort, ?_⟩
    show q.notices ++ [.state .stopped] ++ [.finished _ _] = _
    rw [hmics, hnotices, closing, List.append_assoc, List.append_assoc]
    rfl

lemma quiet_resolve (r : Run) (signal : Nat) (value : Int) : Quiet r (r.resolve signal value) :=
  (r.modifies_resolve signal value).quiet (by decide) (by decide)

lemma finishBranch_told (r : Run) (s : Setup) (t : Task) :
    Quiet r (r.finishBranch s t) ∨ Closes r (r.finishBranch s t) := by
  have hresolve := r.quiet_resolve t.done 0
  rw [finishBranch]
  split
  · exact (stop_told _ s none).imp hresolve.trans (.after_quiet hresolve)
  · exact .inl hresolve

lemma failBranch_told (r : Run) (s : Setup) (t : Task) (e : ScenarioError) :
    Quiet r (r.failBranch s t e) ∨ Closes r (r.failBranch s t e) := by
  have hresolve := r.quiet_resolve t.done 0
  cases e with
  | cancelled => exact .inl (.refl r)
  | _ => exact (stop_told _ s _).imp hresolve.trans (.after_quiet hresolve)

/-! ## Steps -/

/-- What follows from a turn tells the end of the run, or nothing. -/
lemma close_told (r : Run) (s : Setup) (i : Nat) (t : Task) (p : Point) (turn : Turn) :
    Quiet r (r.close s i t p turn) ∨ Closes r (r.close s i t p turn) := by
  have hset (q : Run) : Quiet q (q.setStatus i .ended) := ⟨rfl, rfl⟩
  have hended {q : Run} (h : Quiet r q ∨ Closes r q) :
      Quiet r (q.setStatus i .ended) ∨ Closes r (q.setStatus i .ended) :=
    h.imp (·.trans (hset q)) (·.then_quiet (hset q))
  cases turn with
  | dropped => exact .inl (hset r)
  | lost => exact hended (r.finishBranch_told s t)
  | ownJoin => exact hended (.inl (r.quiet_resolve t.done 0))
  | acted node outcome =>
    cases outcome with
    | done code =>
      rw [close, follow]
      split
      · exact .inl ⟨rfl, rfl⟩
      · exact hended (r.finishBranch_told s t)
    | fails e => exact hended (r.failBranch_told s t e)
    | waits a resumption =>
      left
      rw [close, follow, suspend]
      split
      · exact ⟨rfl, rfl⟩
      · exact ⟨rfl, rfl⟩

/-- The work on an action sends notices of nodes, unless it is an abort. -/
lemma worked_told {p : Point} {turn : Turn} (h : r.Worked s i t p turn q) : NodeTells r q ∨ Closes r q := by
  have hpoint (p : Point) : Quiet r { r with point := some p } := ⟨rfl, rfl⟩
  cases h with
  | enters => exact .inl (hpoint p).tells
  | @takes node a hstatus hnode haction =>
    by_cases habort : ∃ info, a = .abort info
    · obtain ⟨info, rfl⟩ := habort
      have hset : Quiet r (({ r with point := some p } : Run).updateMetadata fun m => { m with abort := some info }) :=
        ⟨rfl, rfl⟩
      obtain hquiet | hcloses := stop_told
        (({ r with point := some p } : Run).updateMetadata fun m => { m with abort := some info }) s
        (some (.aborted info))
      · exact .inl (hset.trans hquiet).tells
      · exact .inr (.after_quiet hset hcloses)
    · left
      refine (hpoint p).tells.trans (tells_execute _ s _ ?_)
      intro info heq
      exact habort ⟨info, heq⟩
  | @goesOn a resumption result hstatus hresult =>
    have hdrop : Quiet r { r with agenda := r.agenda.dropTimers (r.taskId i) } := ⟨rfl, rfl⟩
    have hend := (modifies_endWait { r with agenda := r.agenda.dropTimers (r.taskId i) } a).quiet
      (by decide) (by decide)
    exact .inl ((hdrop.trans hend).tells.trans (tells_proceed _ s result resumption))

/-- The move adds these notices, which are what may be told by it. -/
def Tells (r r' : Run) : Prop := ∃ ns, r'.notices = r.notices ++ ns ∧ Told r.state ns r'.state

lemma Quiet.told (h : Quiet r r') : Tells r r' :=
  ⟨[], by rw [List.append_nil, h.notices], h.state ▸ .quiet _⟩

lemma Closes.told (h : Closes r r') : Tells r r' := by
  obtain ⟨mics, error, abort, hnotices⟩ := h.notices
  refine ⟨closing mics error abort, hnotices, ?_⟩
  rw [h.state]
  exact .stops h.begun (fun _ hn => absurd hn List.not_mem_nil) (.inr rfl) mics error abort

lemma told_step (hsound : r.course.Sound) (h : r.step? s i = some r') : Tells r r' := by
  obtain ⟨t, p, turn, q, ht, -, hworked, hclose⟩ := step_cases h
  by_cases hrunning : r.state = .running
  · have hrest : Quiet q r' ∨ Closes q r' := hclose ▸ q.close_told s i t p turn
    obtain htells | hcloses := worked_told hworked
    · obtain ⟨ns, hns, hnotices⟩ := htells.notices
      obtain hquiet | hcloses := hrest
      · refine ⟨ns, hquiet.notices.trans hnotices, ?_⟩
        rw [hquiet.state, htells.state, hrunning]
        exact .node hns
      · obtain ⟨mics, error, abort, hend⟩ := hcloses.notices
        refine ⟨ns ++ closing mics error abort, by rw [hend, hnotices, List.append_assoc], ?_⟩
        rw [hcloses.state, hrunning]
        exact .stops (by simp) hns (.inl rfl) mics error abort
    · -- The action has stopped the run, and nothing is left to be told.
      obtain hquiet | hagain := hrest
      · exact (hcloses.then_quiet hquiet).told
      · exact absurd hcloses.state hagain.begun
  · have hcancelled : r.isCancelled t.token = true := by
      by_contra hlive
      exact hrunning (current_of_live hsound (List.mem_of_getElem? ht) (by simpa using hlive)).1
    exact ((frozen_step ht hcancelled h).rest.quiet (by decide) (by decide)).told

lemma told_pause (r : Run) (s : Setup) : Tells r (r.pause s) := by
  by_cases hrunning : r.state = .running
  · have hcancel := ({ r with state := .paused } : Run).modifies_cancel.quiet (by decide) (by decide)
    have hsaved := (({ r with state := .paused } : Run).cancel.modifies_saveMetadata s).quiet (by decide) (by decide)
    have h := hcancel.trans hsaved
    rw [pause, if_neg (not_not_intro hrunning)]
    generalize (({ r with state := .paused } : Run).cancel.saveMetadata s).2 = q at h
    refine ⟨[.state .paused], congrArg (· ++ [Notice.state .paused]) h.notices, ?_⟩
    rw [hrunning, show (q.emit (.state .paused)).state = .paused from h.state]
    exact .pauses
  · rw [pause, if_pos hrunning]
    exact (Quiet.refl r).told

lemma quiet_branchSignal (r : Run) (branch : String) : Quiet r (r.branchSignal branch).2 := by
  rw [branchSignal]
  split
  · split
    · exact ⟨rfl, rfl⟩
    · exact .refl r
  · exact ⟨rfl, rfl⟩

lemma told_resume (r : Run) (s : Setup) : Tells r (r.resume s) := by
  by_cases hpaused : r.state = .paused
  · have hsignal := (({ r with state := .running } : Run).renew.emit (.state .running)).quiet_branchSignal mainBranch
    rw [resume, if_neg (not_not_intro hpaused)]
    dsimp only
    generalize (({ r with state := .running } : Run).renew.emit (.state .running)).branchSignal mainBranch = q
      at hsignal
    refine ⟨[.state .running], hsignal.notices, ?_⟩
    rw [hpaused, show (q.2.spawn mainBranch q.1 q.2.token (q.2.point.getD ⟨s.entry, none⟩)).state = .running from
      hsignal.state]
    exact .resumes
  · rw [resume, if_pos hpaused]
    exact (Quiet.refl r).told

/-- A move other than a start tells what its state allows. -/
lemma told_after (hsound : r.course.Sound) {m : Move} (hstart : m ≠ .start) (hothers : ∀ shared, m ≠ .others shared) :
    Tells r (r.after s m) := by
  cases m with
  | start => exact absurd rfl hstart
  | pause => exact r.told_pause s
  | resume => exact r.told_resume s
  | stop error => exact (r.stop_told s error).elim Quiet.told Closes.told
  | answer id a => exact ((r.modifies_answer id a).quiet (by decide) (by decide)).told
  | sample role sensor timestamp values =>
    exact ((r.modifies_sample role sensor timestamp values).quiet (by decide) (by decide)).told
  | step i =>
    rw [after]
    cases h : r.step? s i with
    | none => exact (Quiet.refl r).told
    | some r' => exact told_step hsound h
  | others shared => exact absurd rfl (hothers shared)

/-- A start tells that the run is running, or it fails and tells nothing. -/
lemma told_start (r : Run) (s : Setup) (hstate : r.state = .stopped) :
    ((r.start s).1.isOk = true ∧ (r.start s).2.state = .running ∧
      (r.start s).2.notices = r.notices ++ [.state .running]) ∨
    ((r.start s).1.isOk = false ∧ Quiet r (r.start s).2) := by
  have hclear := r.modifies_clearPrompts.quiet (by decide) (by decide)
  have hfiles := r.clearPrompts.modifies_releaseFiles.quiet (by decide) (by decide)
  have hreset : (r.reset s).notices = r.notices := hfiles.notices.trans hclear.notices
  obtain ⟨q, hq, hstart⟩ := start_of_stopped s hstate
  have hfolder := hq.quiet (by decide) (by decide)
  have hnotices : q.notices = r.notices := hfolder.notices.trans hreset
  obtain ⟨e, hstart⟩ | hstart := hstart
  · have hcancel := q.modifies_cancel.quiet (by decide) (by decide)
    rw [hstart]
    exact .inr ⟨rfl, hcancel.notices.trans hnotices, hstate.symm⟩
  · have hspawn (q : Run) : Quiet q (q.spawnBranch mainBranch q.token ⟨s.entry, none⟩) := ⟨rfl, rfl⟩
    rw [hstart]
    exact .inl ⟨rfl, (hspawn _).state.trans hfolder.state,
      (hspawn _).notices.trans (congrArg (· ++ [Notice.state .running]) hnotices)⟩

/-! ## Histories of notices -/

/-- The notices that a move sends.  What other runs send is not counted. -/
def sent (s : Setup) (r : Run) : Move → List Notice
  | .others _ => []
  | m => (r.after s m).notices.drop r.notices.length

/-- The notices that some moves send. -/
def allSent (s : Setup) : Run → List Move → List Notice
  | _, [] => []
  | r, m :: rest => r.sent s m ++ allSent s (r.after s m) rest

/-- Whether a move starts the run, and does so with success. -/
def begins (s : Setup) (r : Run) : Move → Bool
  | .start => r.state = .stopped && (r.start s).1.isOk
  | _ => false

/-- A run that begins has made its folder and is about to enter the entry node. -/
lemma begins_cases (h : r.begins s .start = true) :
    r.state = .stopped ∧ ∃ q, (r.reset s).createFolder s = (.ok (), q) ∧
      r.start s = (.ok (), (({ q with finished := none } : Run).emit (.state .running)).spawnBranch mainBranch
        q.token ⟨s.entry, none⟩) := by
  obtain ⟨hstate, hok⟩ := Bool.and_eq_true_iff.mp h
  have hstopped : r.state = .stopped := of_decide_eq_true hstate
  rw [start, if_neg (not_not_intro hstopped)] at hok ⊢
  cases hfolder : (r.reset s).createFolder s with
  | mk result q =>
    cases result with
    | error e =>
      rw [hfolder] at hok
      cases hok
    | ok done => exact ⟨hstopped, q, rfl, rfl⟩

lemma modifies_start (h : r.begins s .start = true) :
    Modifies [.files, .finished, .notices, .signals, .branches, .tasks, .agenda] (r.reset s) (r.after s .start) := by
  obtain ⟨-, q, hfolder, hstart⟩ := begins_cases h
  have hmodifies := (r.reset s).modifies_createFolder s
  rw [hfolder] at hmodifies
  rw [after, hstart]
  refine (hmodifies.mono (by decide)).trans fun f hf => ?_
  cases f <;> first | rfl | simp at hf

/-- How many of some moves start the run. -/
def starts (s : Setup) : Run → List Move → Nat
  | _, [] => 0
  | r, m :: rest => (if r.begins s m then 1 else 0) + starts s (r.after s m) rest

lemma sent_eq {m : Move} (ns : List Notice) (hothers : ∀ shared, m ≠ .others shared)
    (h : (r.after s m).notices = r.notices ++ ns) : r.sent s m = ns := by
  have hdrop : (r.after s m).notices.drop r.notices.length = ns := by rw [h, List.drop_left]
  cases m with
  | others shared => exact absurd rfl (hothers shared)
  | _ => exact hdrop

lemma allSent_snoc (moves : List Move) (m : Move) :
    r.allSent s (moves ++ [m]) = r.allSent s moves ++ (r.afterAll s moves).sent s m := by
  induction moves generalizing r with
  | nil => simp [allSent]
  | cons m' rest ih => rw [List.cons_append, allSent, allSent, ih, afterAll_cons, List.append_assoc]

lemma starts_snoc (moves : List Move) (m : Move) :
    r.starts s (moves ++ [m]) = r.starts s moves + if (r.afterAll s moves).begins s m then 1 else 0 := by
  induction moves generalizing r with
  | nil => rw [List.nil_append, starts, starts, starts, afterAll_nil, Nat.add_zero, Nat.zero_add]
  | cons m' rest ih => rw [List.cons_append, starts, starts, ih, afterAll_cons, Nat.add_assoc]

/-- A move adds to the notices and never takes one back. -/
lemma notices_after (hsound : r.course.Sound) {m : Move} (hothers : ∀ shared, m ≠ .others shared) :
    (r.after s m).notices = r.notices ++ r.sent s m := by
  have hadds : ∃ ns, (r.after s m).notices = r.notices ++ ns := by
    by_cases hstart : m = .start
    · subst hstart
      by_cases hstate : r.state = .stopped
      · obtain ⟨-, -, hnotices⟩ | ⟨-, hquiet⟩ := r.told_start s hstate
        · exact ⟨_, hnotices⟩
        · exact ⟨[], by rw [List.append_nil]; exact hquiet.notices⟩
      · exact ⟨[], by rw [List.append_nil, after, start, if_pos hstate]⟩
    · obtain ⟨ns, hnotices, -⟩ := told_after (s := s) hsound hstart hothers
      exact ⟨ns, hnotices⟩
  obtain ⟨ns, hnotices⟩ := hadds
  rw [hnotices, sent_eq _ hothers hnotices]

/-- One move more. -/
lemma reported_after (hsound : r.course.Sound) {starts : Nat} {ns : List Notice} (h : Reported r.state starts ns)
    (m : Move) : Reported (r.after s m).state (starts + if r.begins s m then 1 else 0) (ns ++ r.sent s m) := by
  obtain ⟨shared, rfl⟩ | hown := m.others_or_own
  · rw [sent, List.append_nil]
    exact h
  · by_cases hstart : m = .start
    · subst hstart
      by_cases hstate : r.state = .stopped
      · obtain ⟨hok, hrunning, hnotices⟩ | ⟨hfails, hquiet⟩ := r.told_start s hstate
        · rw [sent_eq _ hown hnotices, begins, hstate, hok, show (r.after s .start).state = .running from hrunning]
          exact (hstate ▸ h).start
        · rw [sent_eq [] hown (by rw [List.append_nil]; exact hquiet.notices), begins, hfails, Bool.and_false,
            List.append_nil, show (r.after s .start).state = r.state from hquiet.state]
          exact h
      · have hsame : r.after s .start = r := by rw [after, start, if_pos hstate]
        rw [sent_eq [] hown (by rw [hsame, List.append_nil]), hsame, begins, decide_eq_false hstate,
          Bool.false_and, List.append_nil]
        exact h
    · obtain ⟨told, hnotices, htold⟩ := told_after (s := s) hsound hstart hown
      have hnot : r.begins s m = false := by
        cases m with
        | start => exact absurd rfl hstart
        | _ => rfl
      rw [sent_eq _ hown hnotices, hnot]
      exact h.told htold

/-- The notices that a run sends are the reports of its successful starts, one after another and each closed once, of
which the last one is under way as long as the run is not stopped.  To start a run that is not stopped, to pause one
that is not running, to resume one that is not paused and to stop one that is stopped changes nothing at all. -/
theorem notices_are_reports (x : Ensemble) (s : Setup) (moves : List Move) :
    let r := (x.newRun s).afterAll s moves
    Reported r.state ((x.newRun s).starts s moves) ((x.newRun s).allSent s moves) ∧
    (∀ m, (∀ shared, m ≠ .others shared) → (r.after s m).notices = r.notices ++ r.sent s m) ∧
    (r.state ≠ .stopped → r.start s = (.ok (), r)) ∧ (r.state ≠ .running → r.pause s = r) ∧
    (r.state ≠ .paused → r.resume s = r) ∧ (r.state = .stopped → ∀ error, r.stop s error = r) := by
  intro r
  refine ⟨?_, ?_, ?_, ?_, ?_, ?_⟩
  · induction moves using List.reverseRecOn with
    | nil => exact ⟨[], [], rfl, fun d hd => absurd hd List.not_mem_nil, .inl ⟨rfl, rfl, rfl⟩⟩
    | append_singleton moves m ih =>
      rw [show r = ((x.newRun s).afterAll s moves).after s m from afterAll_snoc .., allSent_snoc, starts_snoc]
      exact reported_after (sound_afterAll x s moves) ih m
  · intro m hothers
    exact notices_after (sound_afterAll x s moves) hothers
  · intro hstate
    rw [start, if_pos hstate]
  · intro hstate
    rw [pause, if_pos hstate]
  · intro hstate
    rw [resume, if_pos hstate]
  · intro hstate error
    rw [stop, if_pos hstate]

/-- A run that is paused and resumed, stopped twice, and started again. -/
theorem notices_are_reports_startedAgain :
    let nodes : Dict Node := [("a", Node.ofPrimitive .waitNext)]
    let s : Setup := { definition := { scenarioId := 1, content := { entry := "a", nodes } }, folder := [] }
    let x : Ensemble := { files := {} }
    let moves : List Move := [.start, .step 0, .pause, .resume, .stop none]
    let ended := (x.newRun s).afterAll s moves
    let again := (x.newRun s).afterAll s (moves ++ [.start])
    (Reported .stopped 1
      [.state .running, .waitNext 1, .state .paused, .state .running, .state .stopped, .finished none none] ∧
      (ended.after s .start).notices = ended.notices ++ [.state .running] ∧
      ended.pause s = ended ∧ ended.resume s = ended ∧ ended.stop s none = ended) ∧
    again.start s = (.ok (), again) ∧ again.resume s = again := by
  intro nodes s x moves ended again
  have hstopped : ended.state = .stopped := by decide +kernel
  have hrunning : again.state = .running := by decide +kernel
  have hstarts : (x.newRun s).starts s moves = 1 := by decide +kernel
  have hsent : (x.newRun s).allSent s moves =
      [.state .running, .waitNext 1, .state .paused, .state .running, .state .stopped, .finished none none] := by
    decide +kernel
  have hnext : ended.sent s .start = [.state .running] := by decide +kernel
  obtain ⟨hreported, hnotices, -, hpause, hresume, hstop⟩ := notices_are_reports x s moves
  obtain ⟨-, -, hstart, -, hresume', -⟩ := notices_are_reports x s (moves ++ [.start])
  rw [show ((x.newRun s).afterAll s moves).state = .stopped from hstopped, hstarts, hsent] at hreported
  have hmore := hnotices .start (by simp)
  rw [show ((x.newRun s).afterAll s moves).sent s .start = [.state .running] from hnext] at hmore
  refine ⟨⟨hreported, hmore, hpause ?_, hresume ?_, hstop hstopped none⟩, hstart ?_, hresume' ?_⟩
  · exact ne_of_eq_of_ne hstopped (by decide)
  · exact ne_of_eq_of_ne hstopped (by decide)
  · exact ne_of_eq_of_ne hrunning (by decide)
  · exact ne_of_eq_of_ne hrunning (by decide)

end Run

end FieldStudy
