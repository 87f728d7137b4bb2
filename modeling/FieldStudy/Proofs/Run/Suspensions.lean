import Mathlib.Data.List.Basic
import Mathlib.Tactic.Common
import FieldStudy.Proofs.Run.Lasting
import FieldStudy.Proofs.Run.Waits

/-!
# Actions that wait

An action has its effects when it ends.  As long as it waits it has done no more than tell the host and ask it
(`Run.Comes`), and never does it end as if it were cancelled: only the end of its epoch does that to a wait.
-/

namespace FieldStudy

/-- An end of an action that its epoch has no part in. -/
def Outcome.IsEnd : Outcome → Prop
  | .done _ => True
  | .fails e => e ≠ .cancelled
  | .waits _ _ => False

/-- What a host says to a prompt, as the result of the wait for it. -/
def Answer.result : Answer → Except ScenarioError Int
  | .value v => .ok v
  | .rejected reason => .error (.prompt reason)

namespace Run

variable {r r' q : Run} {s : Setup}

/-- What comes of an action, up to its end or its next wait. -/
inductive Comes (r : Run) : Outcome × Run → Prop
  | ends {o : Outcome} {q : Run} (ho : o.IsEnd) (hprompts : q.prompts = r.prompts) : Comes r (o, q)
  | waits {a : Await} (resumption : Resumption) {q : Run} (ha : a.isPrompt = false) (hq : Modifies [.notices] r q) :
      Comes r (.waits a resumption, q)
  | asks (resumption : Resumption) {q : Run} (hprompts : q.prompts = r.prompts.issue)
      (hq : Modifies [.prompts, .notices] r q) : Comes r (.waits (.prompt (r.prompts.issued + 1)) resumption, q)

/-- Until it ends an action has no effect that lasts. -/
lemma Comes.bare {a : Await} {resumption : Resumption} (h : Comes r (.waits a resumption, q)) : q.bare = r.bare := by
  cases h with
  | ends ho => exact ho.elim
  | waits _ _ hq => exact hq.bare (by decide)
  | asks _ _ hq => exact hq.bare (by decide)

/-- The host has been told something before. -/
lemma Comes.told {x : Outcome × Run} (h : Comes r' x) (hnotices : Modifies [.notices] r r') : Comes r x := by
  have hprompts : r'.prompts = r.prompts := hnotices .prompts (by decide)
  cases h with
  | ends ho h => exact .ends ho (h.trans hprompts)
  | waits resumption ha hq => exact .waits resumption ha (hnotices.trans hq)
  | asks resumption h hq =>
    rw [hprompts] at h ⊢
    exact .asks resumption h ((hnotices.mono (by decide)).trans hq)

lemma comes_of_isEnd {x : Outcome × Run} (ho : x.1.IsEnd) (hprompts : x.2.prompts = r.prompts) : Comes r x :=
  .ends ho hprompts

lemma comes_of_modifies {fs : List RunField} {o : Outcome} (ho : o.IsEnd) (h : Modifies fs r q) (hfs : .prompts ∉ fs) :
    Comes r (o, q) :=
  .ends ho (h .prompts hfs)

/-! ## Waits -/

lemma comes_promptThen (r : Run) (notice : Nat → Notice) (resumption : Resumption) :
    Comes r (r.promptThen notice resumption) :=
  .asks resumption rfl (r.modifies_prompt notice)

lemma comes_sleep (r : Run) (seconds : Double) (code : Int) : Comes r (r.sleep seconds code) := by
  rw [sleep]
  split
  · exact .waits _ rfl (.refl _ r)
  · exact .ends trivial rfl

lemma comes_showStages (r : Run) (stages : List DisplayStage) : Comes r (r.showStages stages) := by
  induction stages with
  | nil => exact .ends trivial rfl
  | cons stage rest ih =>
    cases stage with
    | sleep seconds =>
      rw [showStages]
      split
      · exact .waits _ rfl (.refl _ r)
      · exact ih
    | countdown seconds => exact r.comes_promptThen _ _
    | next => exact r.comes_promptThen _ _

lemma comes_waitEvents (r : Run) (all : Bool) (a : EventArguments) : Comes r (r.waitEvents all a) := by
  rw [waitEvents]
  dsimp only
  split
  · exact .ends trivial rfl
  · split
    · exact .waits _ rfl (.refl _ r)
    · split
      · exact .ends trivial rfl
      · split
        · exact r.comes_sleep _ 1
        · exact .ends trivial rfl

lemma comes_event (r : Run) (op : EventOp) (a : EventArguments) : Comes r (r.event op a) := by
  cases op with
  | create => exact comes_of_modifies trivial (r.modifies_event .create a) (by decide)
  | reset => exact comes_of_modifies trivial (r.modifies_event .reset a) (by decide)
  | set => exact comes_of_modifies trivial (r.modifies_event .set a) (by decide)
  | wait => exact r.comes_waitEvents false a
  | waitAll => exact r.comes_waitEvents true a

/-! ## Ends -/

lemma isEnd_savedWith (q : Run) (s : Setup) (code : Int) : (q.savedWith s code).1.IsEnd := by
  unfold savedWith saveMetadata
  cases q.metadata.save s.folder q.files with
  | error e => exact ScenarioError.noConfusion
  | ok files => trivial

lemma comes_savedWith (s : Setup) {fs : List RunField} (h : Modifies fs r q) (hfs : .prompts ∉ fs) (code : Int) :
    Comes r (q.savedWith s code) :=
  comes_of_isEnd (q.isEnd_savedWith s code) ((q.modifies_savedWith s code .prompts (by decide)).trans (h .prompts hfs))

lemma comes_bind (hbackend : s.backend.Plain) (r : Run) (d : Device) (role : String) : Comes r (r.bind s d role) := by
  refine comes_of_isEnd ?_ (r.modifies_bind s d role .prompts (by decide))
  rw [bind]
  cases hinfo : s.backend.deviceInfo r.calls d with
  | error e => exact fun he => hbackend.deviceInfo_ne r.calls d (he ▸ hinfo)
  | ok info => exact isEnd_savedWith _ s 0

lemma comes_select (hbackend : s.backend.Plain) (r : Run) (a : SelectArguments) : Comes r (r.select s a) := by
  rw [select]
  dsimp only
  split
  · exact .ends trivial rfl
  · exact comes_bind hbackend r _ _
  · exact r.comes_promptThen
      (fun id => .choice id ⟨none, a.prompt.map s.format, (a.filter.select s.available).map (·.type.text)⟩) _

lemma comes_bindChosen (hbackend : s.backend.Plain) (r : Run) (candidates : List Device) (role : String) (index : Int) :
    Comes r (r.bindChosen s candidates role index) := by
  rw [bindChosen]
  split
  · exact comes_bind hbackend r _ role
  · exact .ends trivial rfl

lemma comes_logInfo (r : Run) (s : Setup) (message : String) : Comes r (r.logInfo s message) := by
  refine comes_of_isEnd ?_ (r.modifies_logInfo s message .prompts (by decide))
  unfold logInfo
  dsimp only
  split
  · trivial
  · exact ScenarioError.noConfusion

lemma openRecord_ne (r : Run) (s : Setup) (a : RecordArguments) (sensors : List String) :
    (r.openRecord s a sensors).1 ≠ .error .cancelled := by
  rw [openRecord]
  split
  · simp
  · dsimp only
    generalize RecordWriter.create (FileLogger.new s.folder a.name recordExtension s.config.loggerBufferCount)
      recordDescriptor r.files = x
    obtain ⟨_ | _, w, files⟩ := x
    · simp
    · simp

lemma changeRecord_ne (r : Run) (s : Setup) (op : RecordOp) (a : RecordArguments) :
    (r.changeRecord s op a).1 ≠ .error .cancelled := by
  cases op with
  | create =>
    rw [changeRecord, createRecord]
    split
    · simp
    · next first others _ =>
      have hopen := r.openRecord_ne s a (first :: others)
      split
      · simp
      · generalize r.openRecord s a (first :: others) = x at hopen
        obtain ⟨_ | _, q⟩ := x
        · exact hopen
        · simp
  | close =>
    rw [changeRecord, (r.closeRecord_bare a.name).1]
    simp
  | pause => simp [changeRecord]
  | unpause => simp [changeRecord]
  | annotate => simp [changeRecord]

lemma comes_record (r : Run) (s : Setup) (op : RecordOp) (a : RecordArguments) : Comes r (r.record s op a) := by
  have hchange := r.changeRecord_ne s op a
  refine comes_of_isEnd ?_ (r.modifies_record s op a .prompts (by decide))
  unfold record
  generalize r.changeRecord s op a = x at hchange
  obtain ⟨e | _, q⟩ := x
  · exact fun he => hchange (congrArg Except.error he)
  · exact isEnd_savedWith _ s 0

/-! ## Sensors -/

/-- A step for a sensor that ends the action gives it an end, and the prompts stay as they are. -/
structure Passes (r : Run) (x : Option Outcome × Run) : Prop where
  outcome : ∀ o, x.1 = some o → o.IsEnd
  prompts : x.2.prompts = r.prompts

lemma comes_forEachSensor {step : Run → RoleBinding → String → Option Outcome × Run}
    (hstep : ∀ r b sensor, Passes r (step r b sensor)) (pairs : List (RoleBinding × String)) (r : Run) :
    Comes r (forEachSensor step pairs r) := by
  suffices h : (forEachSensor step pairs r).1.IsEnd ∧ (forEachSensor step pairs r).2.prompts = r.prompts from
    comes_of_isEnd h.1 h.2
  induction pairs generalizing r with
  | nil => exact ⟨trivial, rfl⟩
  | cons pair rest ih =>
    obtain ⟨b, sensor⟩ := pair
    have hpasses := hstep r b sensor
    rw [forEachSensor]
    generalize step r b sensor = x at hpasses
    obtain ⟨outcome, q⟩ := x
    cases outcome with
    | none => exact ⟨(ih q).1, (ih q).2.trans hpasses.prompts⟩
    | some o => exact ⟨hpasses.outcome o rfl, hpasses.prompts⟩

lemma passes_next {r q : Run} (h : q.prompts = r.prompts) : Passes r (none, q) := ⟨by simp, h⟩

lemma passes_end {r q : Run} {o : Outcome} (ho : o.IsEnd) (h : q.prompts = r.prompts) : Passes r (some o, q) :=
  ⟨by rintro _ ⟨⟩; exact ho, h⟩

/-- The backend has been asked, and has not replied that the run was paused or stopped. -/
lemma ask_plain (hbackend : s.backend.Plain) (r : Run) (call : BackendCall) :
    (r.ask s call).1 ≠ .error .cancelled ∧ (r.ask s call).2.prompts = r.prompts :=
  ⟨hbackend.reply_ne r.calls call, rfl⟩

lemma passes_startMotion (hbackend : s.backend.Plain) (r : Run) (b : RoleBinding) (sensor : String) :
    Passes r (startMotion s r b sensor) := by
  rw [startMotion]
  split
  · exact passes_next rfl
  · obtain ⟨hreply, hprompts⟩ := ask_plain hbackend r
      (.startListening b sensor (reportInterval s (b.sensorConfig sensor)) (b.sensorConfig sensor))
    dsimp only
    generalize r.ask s _ = x at hreply hprompts
    obtain ⟨e | started, q⟩ := x
    · exact passes_end (fun he => hreply (congrArg Except.error he)) hprompts
    · cases started with
      | false => exact passes_end trivial hprompts
      | true => exact passes_next hprompts

lemma passes_startMic (hbackend : s.backend.Plain) (r : Run) (b : RoleBinding) : Passes r (startMic s r b) := by
  rw [startMic]
  split
  · exact passes_end trivial rfl
  · split
    · exact passes_end ScenarioError.noConfusion rfl
    · obtain ⟨hreply, hprompts⟩ := ask_plain hbackend r
        (.startRecording b (recordingFile b) s.config.micSampleRate s.config.micChannels)
      dsimp only
      generalize r.ask s _ = x at hreply hprompts
      obtain ⟨e | _, q⟩ := x
      · exact passes_end (fun he => hreply (congrArg Except.error he)) hprompts
      · exact passes_next hprompts

lemma passes_stopMotion (hbackend : s.backend.Plain) (r : Run) (b : RoleBinding) (sensor : String) :
    Passes r (stopMotion s r b sensor) := by
  rw [stopMotion]
  split
  · exact passes_next rfl
  · obtain ⟨hreply, hprompts⟩ := ask_plain hbackend r (.stopListening b sensor)
    generalize r.ask s _ = x at hreply hprompts
    obtain ⟨e | stopped, q⟩ := x
    · exact passes_end (fun he => hreply (congrArg Except.error he)) hprompts
    · cases stopped with
      | false => exact passes_end trivial hprompts
      | true => exact passes_next hprompts

lemma passes_stopMic (hbackend : s.backend.Plain) (r : Run) (b : RoleBinding) : Passes r (stopMic s r b) := by
  rw [stopMic]
  split
  · exact passes_next rfl
  · obtain ⟨hreply, hprompts⟩ := ask_plain hbackend { r with recording := r.recording.filter (· != b.role) }
      (.stopRecording b)
    dsimp only
    generalize Run.ask _ s _ = x at hreply hprompts
    obtain ⟨e | _, q⟩ := x
    · exact passes_end (fun he => hreply (congrArg Except.error he)) hprompts
    · exact passes_next hprompts

lemma comes_startSensors (hbackend : s.backend.Plain) (r : Run) (a : SensorArguments) :
    Comes r (r.startSensors s a) := by
  refine comes_forEachSensor (fun r b sensor => ?_) _ r
  rw [startSensor]
  split
  · exact passes_startMotion hbackend r b sensor
  · split
    · exact passes_startMic hbackend r b
    · exact passes_next rfl

lemma comes_stopSensors (hbackend : s.backend.Plain) (r : Run) (a : SensorArguments) : Comes r (r.stopSensors s a) := by
  refine comes_forEachSensor (fun r b sensor => ?_) _ r
  rw [stopSensor]
  split
  · exact passes_stopMotion hbackend r b sensor
  · split
    · exact passes_stopMic hbackend r b
    · exact passes_next rfl

/-! ## All actions -/

/-- Whatever an action is, but for forks and aborts: it comes to an end, or it waits and has done nothing that lasts. -/
theorem comes_execute (hbackend : s.backend.Plain) (r : Run) (v : Visit) {a : Action}
    (hfork : ∀ branch, a ≠ .fork branch) (habort : ∀ info, a ≠ .abort info) : Comes r (r.execute s v a) := by
  cases a with
  | nop => exact .ends trivial rfl
  | fork branch => exact absurd rfl (hfork branch)
  | join a =>
    show Comes r (r.join v a)
    rw [join]
    split
    · exact .waits _ rfl (.refl _ r)
    · exact .ends trivial rfl
  | abort info => exact absurd rfl (habort info)
  | waitDelay seconds => exact r.comes_sleep seconds 0
  | waitNext => exact r.comes_promptThen .waitNext _
  | waitOption a =>
    rw [execute, choose]
    exact r.comes_promptThen _ _
  | screenSleep enable => exact r.comes_promptThen (.screenSleep · enable) _
  | display primitive a =>
    rw [execute, display]
    exact (comes_showStages _ _).told (r.modifies_emit _)
  | progress a => exact comes_of_modifies trivial (r.modifies_emit _) (by decide)
  | event op a => exact r.comes_event op a
  | counter op a =>
    refine comes_of_isEnd ?_ (r.modifies_counter op a .prompts (by decide))
    cases op <;> trivial
  | metadataSet key value => exact comes_savedWith s (r.modifies_updateMetadata _) (by decide) 0
  | logInfo message => exact r.comes_logInfo s message
  | record op a => exact r.comes_record s op a
  | select a => exact comes_select hbackend r a
  | setConfig roles pairs => exact comes_savedWith s (r.modifies_mergeRoles _ _) (by decide) 0
  | dumpConfig roles keys => exact comes_savedWith s (r.modifies_updateMetadata _) (by decide) 0
  | pauseSensor paused roles => exact comes_savedWith s (r.modifies_mergeRoles _ _) (by decide) 0
  | startSensor a => exact comes_startSensors hbackend r a
  | stopSensor a => exact comes_stopSensors hbackend r a
  | deviceRecord primitive => exact .ends trivial rfl

/-- So does an action that goes on after a wait, unless the wait was cancelled. -/
theorem comes_proceed (hbackend : s.backend.Plain) (r : Run) {result : Except ScenarioError Int}
    (hresult : result ≠ .error .cancelled) (resumption : Resumption) : Comes r (r.proceed s result resumption) := by
  cases result with
  | error e => exact .ends (fun he => hresult (congrArg Except.error he)) rfl
  | ok value =>
    cases resumption with
    | code code => exact .ends trivial rfl
    | answer => exact .ends trivial rfl
    | display rest => exact r.comes_showStages rest
    | bind candidates role => exact comes_bindChosen hbackend r candidates role value

end Run

end FieldStudy
