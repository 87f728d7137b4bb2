import FieldStudy.Proofs.Run.Servicing
import FieldStudy.Proofs.Run.Twins

/-!
# Actions of twins

Twins that take the same action come to the same outcome and are twins again, unless a file has failed on one side
(`Run.Twin.execute`), and the same holds of an action that goes on after a wait (`Run.Twin.proceed`).  The failure of a
file shows in the outcome; where the program passes over it nothing is lost.
-/

namespace FieldStudy

/-! ## Failures of files -/

/-- The error comes from a file. -/
def ScenarioError.isOfFile : ScenarioError → Bool
  | .io _ | .recording _ => true
  | _ => false

/-- The action has failed by a file. -/
def Outcome.isOfFile : Outcome → Bool
  | .fails e => e.isOfFile
  | _ => false

namespace Run

variable {p : Past} {r₀ q₀ r q : Run} {s s' : Setup}

lemma savedWith_done {code : Int} (h : (r.savedWith s code).1.isOfFile = false) :
    (r.savedWith s code).1 = .done code := by
  rw [savedWith, saveMetadata] at h ⊢
  cases hsave : r.metadata.save s.folder r.files with
  | error e =>
    rw [hsave] at h
    cases h
  | ok files => rfl

lemma isOfFile_openRecord {a : RecordArguments} {sensors : List String} {e : ScenarioError}
    (h : (r.openRecord s a sensors).1 = .error e) : e.isOfFile = true := by
  rw [openRecord] at h
  split at h
  · cases h
  · dsimp only at h
    split at h
    · cases h
      rfl
    · cases h

lemma isOfFile_createRecord {a : RecordArguments} {e : ScenarioError} (h : (r.createRecord s a).1 = .error e) :
    e.isOfFile = true := by
  rw [createRecord] at h
  split at h
  · cases h
  · next first others _ =>
    split at h
    · cases h
    · have hopen := @isOfFile_openRecord r s a (first :: others) e
      generalize r.openRecord s a (first :: others) = x at h hopen
      obtain ⟨result, r₁⟩ := x
      cases result with
      | error e' => exact hopen h
      | ok done => cases h

lemma isOfFile_closeRecord {name : String} {e : ScenarioError} (h : (r.closeRecord name).1 = .error e) :
    e.isOfFile = true := by
  rw [(r.closeRecord_bare name).1] at h
  cases h

/-- An operation on a record fails by a file or not at all. -/
lemma isOfFile_changeRecord {op : RecordOp} {a : RecordArguments} {e : ScenarioError}
    (h : (r.changeRecord s op a).1 = .error e) : e.isOfFile = true := by
  cases op with
  | create => exact isOfFile_createRecord h
  | close => exact isOfFile_closeRecord h
  | _ => cases h

lemma changeRecord_done {op : RecordOp} {a : RecordArguments} (h : (r.record s op a).1.isOfFile = false) :
    (r.changeRecord s op a).1 = .ok () := by
  have herror := @isOfFile_changeRecord r s op a
  rw [record] at h
  generalize r.changeRecord s op a = x at h herror ⊢
  obtain ⟨result, r₁⟩ := x
  cases result with
  | error e =>
    have hfile : e.isOfFile = false := h
    rw [herror rfl] at hfile
    cases hfile
  | ok done => rfl

lemma logInfo_done {message : String} (h : (r.logInfo s message).1.isOfFile = false) :
    (r.logInfo s message).1 = .done 0 := by
  rw [logInfo] at h ⊢
  dsimp only at h ⊢
  split
  · rfl
  · next e he =>
    rw [he] at h
    cases h

/-! ## Actions -/

/-- The results of one operation on twins: outcomes that match, and twins. -/
structure Both (p : Past) (r₀ q₀ : Run) (x y : Outcome × Run) : Prop where
  outcome : x.1.Matches p y.1
  run : Twin p r₀ q₀ x.2 y.2

namespace Twin

lemma savedWith (h : Twin p r₀ q₀ r q) (code : Int) (hr : (r.savedWith s code).1.isOfFile = false)
    (hq : (q.savedWith s' code).1.isOfFile = false) : Both p r₀ q₀ (r.savedWith s code) (q.savedWith s' code) where
  outcome := by
    rw [savedWith_done hr, savedWith_done hq]
    exact .done code
  run := h.of_modifies ((r.modifies_savedWith s code).mono (by decide)) ((q.modifies_savedWith s' code).mono (by decide))

/-! ### Roles -/

lemma targets (h : Twin p r₀ q₀ r q) (names : Option (List String)) : r.targets names = q.targets names := by
  rw [Run.targets, Run.targets, h.roles]

lemma mergeRoles (h : Twin p r₀ q₀ r q) (names : Option (List String)) (values : Dict Json) :
    Twin p r₀ q₀ (r.mergeRoles names values) (q.mergeRoles names values) := by
  refine { h with metadata := ?_, roles := ?_ }
  · simp only [Run.mergeRoles, h.targets]
    exact timeless_foldl_mergeRoleConfig (fun _ => values) _ h.metadata
  · simp only [Run.mergeRoles, h.roles]

lemma dumpConfig (h : Twin p r₀ q₀ r q) (names : Option (List String)) (keys : List String) :
    Twin p r₀ q₀ (r.dumpConfig names keys) (q.dumpConfig names keys) := by
  refine h.updateMetadata ?_
  rw [h.targets]
  exact timeless_foldl_mergeRoleConfig (fun b => pickConfig b.config keys) _ h.metadata

lemma prompt (h : Twin p r₀ q₀ r q) {notice : Nat → Notice}
    (hnotice : ∀ id, notice (p.prompt id) = (notice id).renumber p.prompt) :
    (r.prompt notice).1 = p.prompt (q.prompt notice).1 ∧ 0 < (q.prompt notice).1 ∧
      Twin p r₀ q₀ (r.prompt notice).2 (q.prompt notice).2 := by
  have hissued := h.prompts.issue.issued
  have hset : Twin p r₀ q₀ { r with prompts := r.prompts.issue } { q with prompts := q.prompts.issue } :=
    { h with prompts := h.prompts.issue }
  refine ⟨hissued, Nat.succ_pos _, ?_⟩
  have hemit := hset.emit (notice q.prompts.issue.issued)
  rwa [← hnotice, ← hissued] at hemit

lemma promptThen (h : Twin p r₀ q₀ r q) (notice : Nat → Notice)
    (hnotice : ∀ id, notice (p.prompt id) = (notice id).renumber p.prompt) (resumption : Resumption) :
    Both p r₀ q₀ (r.promptThen notice resumption) (q.promptThen notice resumption) := by
  obtain ⟨hid, hpos, hrun⟩ := h.prompt hnotice
  refine ⟨?_, hrun⟩
  show Outcome.Matches p (.waits (.prompt (r.prompt notice).1) resumption) _
  rw [hid]
  exact .waits (.prompt hpos) resumption

section Devices

variable (hb : s.backend.Alike r₀.calls s'.backend q₀.calls) (h : Twin p r₀ q₀ r q) (hgoes : q.state ≠ .stopped)
include hb h hgoes

lemma bind (d : Device) (role : String) (hr : (r.bind s d role).1.isOfFile = false)
    (hq : (q.bind s' d role).1.isOfFile = false) : Both p r₀ q₀ (r.bind s d role) (q.bind s' d role) := by
  rw [Run.bind, h.deviceInfo hb hgoes] at hr ⊢
  rw [Run.bind] at hq ⊢
  cases hinfo : s'.backend.deviceInfo q.calls d with
  | error e => exact ⟨.fails e, h⟩
  | ok info =>
    rw [hinfo] at hr hq
    have hbound : Twin p r₀ q₀
        { r with
          roles := r.roles.insert role ⟨role, d, []⟩
          metadata := { r.metadata with deviceInfo := r.metadata.deviceInfo.insert role info } }
        { q with
          roles := q.roles.insert role ⟨role, d, []⟩
          metadata := { q.metadata with deviceInfo := q.metadata.deviceInfo.insert role info } } :=
      { h with
        roles := by rw [h.roles]
        metadata := congrArg (fun m : Metadata => { m with deviceInfo := m.deviceInfo.insert role info }) h.metadata }
    exact hbound.savedWith 0 hr hq

lemma select (hs : s.Agrees s') (a : SelectArguments) (hr : (r.select s a).1.isOfFile = false)
    (hq : (q.select s' a).1.isOfFile = false) : Both p r₀ q₀ (r.select s a) (q.select s' a) := by
  rw [Run.select] at hr hq ⊢
  rw [Run.select]
  rw [hs.available] at hq ⊢
  dsimp only at hr hq ⊢
  split
  · exact ⟨.done 1, h⟩
  · next d hd =>
    rw [hd] at hr hq
    exact h.bind hb hgoes d _ hr hq
  · rw [hs.format]
    exact h.promptThen (.choice · ⟨none, a.prompt.map s.format, (a.filter.select s.available).map (·.type.text)⟩)
      (fun _ => rfl) (.bind (a.filter.select s.available) (a.role.getD defaultRole))

lemma bindChosen (candidates : List Device) (role : String) (index : Int)
    (hr : (r.bindChosen s candidates role index).1.isOfFile = false)
    (hq : (q.bindChosen s' candidates role index).1.isOfFile = false) :
    Both p r₀ q₀ (r.bindChosen s candidates role index) (q.bindChosen s' candidates role index) := by
  rw [Run.bindChosen] at hr hq ⊢
  rw [Run.bindChosen]
  split
  · next d hd =>
    rw [hd] at hr hq
    exact h.bind hb hgoes d role hr hq
  · exact ⟨.done 1, h⟩

end Devices

/-! ### Records -/

lemma addRecordInfo (h : Twin p r₀ q₀ r q) (name file : String) :
    Twin p r₀ q₀ (r.addRecordInfo name file) (q.addRecordInfo name file) := by
  refine h.updateMetadata ?_
  rw [Metadata.timeless_record, Metadata.timeless_record, h.metadata]

lemma addRecordEvent (h : Twin p r₀ q₀ r q) (event name : String) :
    Twin p r₀ q₀ (r.addRecordEvent event name) (q.addRecordEvent event name) := by
  refine h.updateMetadata ?_
  rw [Metadata.timeless_addRecordEvent, Metadata.timeless_addRecordEvent, h.metadata]

lemma annotate (h : Twin p r₀ q₀ r q) (name : String) (label : Option String) :
    Twin p r₀ q₀ (r.annotate name label) (q.annotate name label) := by
  refine h.updateMetadata ?_
  rw [Metadata.timeless_annotate, Metadata.timeless_annotate, h.metadata]

/-- Of a record that is created only the metadata and the file of a microphone are kept among what twins share. -/
lemma createRecord (h : Twin p r₀ q₀ r q) (a : RecordArguments) (hr : (r.createRecord s a).1 = .ok ())
    (hq : (q.createRecord s' a).1 = .ok ()) : Twin p r₀ q₀ (r.createRecord s a).2 (q.createRecord s' a).2 := by
  rw [Run.createRecord] at hr hq ⊢
  rw [Run.createRecord]
  split
  · exact h
  · next first others heq =>
    rw [heq] at hr hq
    dsimp only at hr hq ⊢
    split
    · exact (h.mergeRoles _ _).addRecordInfo _ _
    · next hmic =>
      rw [if_neg hmic] at hr hq
      have hopened : Twin p r₀ q₀ (r.openRecord s a (first :: others)).2 (q.openRecord s' a (first :: others)).2 :=
        h.of_modifies ((r.modifies_openRecord s a _).mono (by decide)) ((q.modifies_openRecord s' a _).mono (by decide))
      generalize r.openRecord s a (first :: others) = x at hr hopened ⊢
      generalize q.openRecord s' a (first :: others) = y at hq hopened ⊢
      obtain ⟨result, r₁⟩ := x
      obtain ⟨result', q₁⟩ := y
      cases result with
      | error e => cases hr
      | ok done =>
        cases result' with
        | error e => cases hq
        | ok done => exact hopened.addRecordInfo _ _

lemma changeRecord (h : Twin p r₀ q₀ r q) (op : RecordOp) (a : RecordArguments)
    (hr : (r.changeRecord s op a).1 = .ok ()) (hq : (q.changeRecord s' op a).1 = .ok ()) :
    Twin p r₀ q₀ (r.changeRecord s op a).2 (q.changeRecord s' op a).2 := by
  cases op with
  | create => exact h.createRecord a hr hq
  | close =>
    exact h.of_modifies ((r.modifies_closeRecord a.name).mono (by decide))
      ((q.modifies_closeRecord a.name).mono (by decide))
  | pause =>
    exact h.of_modifies ((r.modifies_pauseRecord a.name true).mono (by decide))
      ((q.modifies_pauseRecord a.name true).mono (by decide))
  | unpause =>
    exact h.of_modifies ((r.modifies_pauseRecord a.name false).mono (by decide))
      ((q.modifies_pauseRecord a.name false).mono (by decide))
  | annotate => exact h.annotate a.name a.label

lemma record (h : Twin p r₀ q₀ r q) (op : RecordOp) (a : RecordArguments)
    (hr : (r.record s op a).1.isOfFile = false) (hq : (q.record s' op a).1.isOfFile = false) :
    Both p r₀ q₀ (r.record s op a) (q.record s' op a) := by
  have hrdone := changeRecord_done hr
  have hqdone := changeRecord_done hq
  have hchanged := h.changeRecord op a hrdone hqdone
  rw [Run.record] at hr hq ⊢
  rw [Run.record]
  generalize r.changeRecord s op a = x at hr hrdone hchanged ⊢
  generalize q.changeRecord s' op a = y at hq hqdone hchanged ⊢
  obtain ⟨result, r₁⟩ := x
  obtain ⟨result', q₁⟩ := y
  obtain rfl : result = .ok () := hrdone
  obtain rfl : result' = .ok () := hqdone
  refine savedWith ?_ 0 hr hq
  cases recordEvent? op with
  | none => exact hchanged
  | some event => exact hchanged.addRecordEvent event a.name

lemma logInfo (h : Twin p r₀ q₀ r q) (message : String) (hr : (r.logInfo s message).1.isOfFile = false)
    (hq : (q.logInfo s' message).1.isOfFile = false) :
    Both p r₀ q₀ (r.logInfo s message) (q.logInfo s' message) where
  outcome := by
    rw [logInfo_done hr, logInfo_done hq]
    exact .done 0
  run := h.of_modifies ((r.modifies_logInfo s message).mono (by decide))
    ((q.modifies_logInfo s' message).mono (by decide))

/-! ### Sensors -/

/-- Twins that go on drive their sensors alike. -/
lemma steers (hs : s.Agrees s') (hb : s.backend.Alike r₀.calls s'.backend q₀.calls) :
    Steers s s' (fun r q => Twin p r₀ q₀ r q ∧ q.state ≠ .stopped) (Outcome.Matches p) where
  done := .done
  fails := .fails
  config := hs.config
  roles h := h.1.roles
  listening h := h.1.listening
  recording h := h.1.recording
  canRecord h := h.1.canRecord hb h.2
  ask h call := ⟨(h.1.ask hb h.2 call).1, (h.1.ask hb h.2 call).2, h.2⟩
  tell h _ := ⟨h.1.tell rfl, h.2⟩
  drive h f g := ⟨{ h.1 with listening := congrArg f h.1.listening, recording := congrArg g h.1.recording }, h.2⟩

/-! ### Messages, events and counters -/

lemma sleep (h : Twin p r₀ q₀ r q) (seconds : Double) (code : Int) :
    Both p r₀ q₀ (r.sleep seconds code) (q.sleep seconds code) := by
  rw [Run.sleep, Run.sleep]
  split
  · exact ⟨.waits (.time _ _) _, h⟩
  · exact ⟨.done code, h⟩

lemma showStages (h : Twin p r₀ q₀ r q) (stages : List DisplayStage) :
    Both p r₀ q₀ (r.showStages stages) (q.showStages stages) := by
  induction stages with
  | nil => exact ⟨.done 0, h⟩
  | cons stage rest ih =>
    cases stage with
    | sleep seconds =>
      rw [Run.showStages, Run.showStages]
      split
      · exact ⟨.waits (.time _ _) _, h⟩
      · exact ih
    | countdown seconds => exact h.promptThen (.countdown · seconds) (fun _ => rfl) (.display rest)
    | next => exact h.promptThen .waitNext (fun _ => rfl) (.display rest)

lemma contains_events (h : Twin p r₀ q₀ r q) (name : String) : r.events.contains name = q.events.contains name := by
  rw [h.events, Dict.contains_mapValues]

/-- A new signal for an event. -/
lemma newEvent (h : Twin p r₀ q₀ r q) (name : String) :
    Twin p r₀ q₀ { r with signals := r.signals.create, events := r.events.insert name r.signals.next }
      { q with signals := q.signals.create, events := q.events.insert name q.signals.next } := by
  obtain ⟨hsignal, hrun⟩ := h.createSignal
  refine { hrun with events := ?_ }
  show r.events.insert name r.createSignal.1 = (q.events.insert name q.createSignal.1).mapValues p.signal
  rw [Dict.mapValues_insert, ← h.events, hsignal]

lemma createEvent (h : Twin p r₀ q₀ r q) (name : String) : Twin p r₀ q₀ (r.createEvent name) (q.createEvent name) := by
  rw [Run.createEvent, Run.createEvent, h.contains_events]
  split
  · exact h
  · exact h.newEvent name

lemma resetEvent (h : Twin p r₀ q₀ r q) (name : String) : Twin p r₀ q₀ (r.resetEvent name) (q.resetEvent name) := by
  rw [Run.resetEvent, Run.resetEvent, h.contains_events]
  split
  · exact h.newEvent name
  · exact h

lemma setEvent (h : Twin p r₀ q₀ r q) (name : String) : Twin p r₀ q₀ (r.setEvent name) (q.setEvent name) := by
  rw [Run.setEvent, Run.setEvent, h.events, Dict.get?_mapValues]
  cases q.events.get? name with
  | none => exact h
  | some signal => exact h.resolve signal 0

lemma foldl {f : Run → String → Run}
    (hf : ∀ r q, Twin p r₀ q₀ r q → ∀ name, Twin p r₀ q₀ (f r name) (f q name)) (names : List String)
    (h : Twin p r₀ q₀ r q) : Twin p r₀ q₀ (names.foldl f r) (names.foldl f q) := by
  induction names generalizing r q with
  | nil => exact h
  | cons name rest ih => exact ih (hf r q h name)

lemma waitEvents (h : Twin p r₀ q₀ r q) (all : Bool) (a : EventArguments) :
    Both p r₀ q₀ (r.waitEvents all a) (q.waitEvents all a) := by
  have hsignals : a.names.filterMap r.events.get? = (a.names.filterMap q.events.get?).map p.signal := by
    rw [List.map_filterMap, h.events]
    exact congrArg (a.names.filterMap ·) (funext fun name => Dict.get?_mapValues _ _ name)
  rw [Run.waitEvents, Run.waitEvents, hsignals, Signals.allResolved_behind h.signals, List.isEmpty_map]
  dsimp only
  split
  · exact ⟨.done _, h⟩
  · split
    · exact ⟨.waits (.signals all _ (by rw [Option.isSome_map, Option.isSome_map])) .answer, h⟩
    · split
      · exact ⟨.done 0, h⟩
      · split
        · exact h.sleep _ 1
        · exact ⟨.done 1, h⟩

lemma event (h : Twin p r₀ q₀ r q) (op : EventOp) (a : EventArguments) : Both p r₀ q₀ (r.event op a) (q.event op a) := by
  cases op with
  | create => exact ⟨.done 0, foldl (fun _ _ h name => h.createEvent name) a.names h⟩
  | reset => exact ⟨.done 0, foldl (fun _ _ h name => h.resetEvent name) a.names h⟩
  | set => exact ⟨.done 0, foldl (fun _ _ h name => h.setEvent name) a.names h⟩
  | wait => exact h.waitEvents false a
  | waitAll => exact h.waitEvents true a

lemma setCounter (h : Twin p r₀ q₀ r q) (name : String) (value : Int) :
    Twin p r₀ q₀ (r.setCounter name value) (q.setCounter name value) :=
  { h with counters := congrArg (Dict.insert · name value) h.counters }

lemma counter (h : Twin p r₀ q₀ r q) (op : CounterOp) (a : CounterArguments) :
    Both p r₀ q₀ (r.counter op a) (q.counter op a) := by
  have hadd (delta : Int) : Twin p r₀ q₀ (r.addToCounter a.name delta) (q.addToCounter a.name delta) := by
    rw [addToCounter, addToCounter, h.counters]
    exact h.setCounter a.name _
  cases op with
  | set => exact ⟨.done 0, h.setCounter a.name _⟩
  | inc => exact ⟨.done 0, hadd 1⟩
  | dec => exact ⟨.done 0, hadd (-1)⟩
  | equ =>
    rw [Run.counter, Run.counter, h.counters]
    exact ⟨.done _, h⟩
  | cmp =>
    rw [Run.counter, Run.counter, h.counters]
    exact ⟨.done _, h⟩

/-! ### Branches -/

lemma join (h : Twin p r₀ q₀ r q) (v v' : Visit) (hbranch : v.branch = v'.branch) (a : JoinArguments) :
    Both p r₀ q₀ (r.join v a) (q.join v' a) := by
  rw [Run.join, Run.join, hbranch, h.branches]
  cases a.target?.filter (· != v'.branch) with
  | none => exact ⟨.done 0, h⟩
  | some branch =>
    rw [Option.bind_some, Option.bind_some, Dict.get?_mapValues]
    cases q.branches.get? branch with
    | none => exact ⟨.done 0, h⟩
    | some done => exact ⟨.waits (.signals true [done] rfl) (.code 0), h⟩

/-! ### The end of a run -/

lemma halt (h : Twin p r₀ q₀ r q) : Twin p r₀ q₀ r.halt q.halt := by
  have hstopped : Twin p r₀ q₀ { r with state := .stopped } { q with state := .stopped } :=
    h.withState fun hgoes => absurd rfl hgoes
  have hcleared := hstopped.cancel.clearPrompts
  exact { hcleared with metadata := hcleared.metadata }

lemma reported (h : Twin p r₀ q₀ r q) (error : Option ScenarioError) :
    Twin p r₀ q₀ (r.reported error) (q.reported error) := by
  have habort : r.metadata.abort = q.metadata.abort := (congrArg Metadata.abort h.metadata :)
  have htold : Twin p r₀ q₀
      ((r.emit (.state .stopped)).emit (.finished (finishedError? (StopReason.ofError error)) q.metadata.abort))
      ((q.emit (.state .stopped)).emit (.finished (finishedError? (StopReason.ofError error)) q.metadata.abort)) :=
    (h.tell rfl).tell rfl
  rw [Run.reported, Run.reported, habort]
  exact { htold with finished := rfl }

/-- The same runs on the devices of twins, and it is stopped in whatever order. -/
lemma releaseSensors (h : Twin p r₀ q₀ r q) (hstopped : q.state = .stopped) :
    Twin p r₀ q₀ (r.releaseSensors s) (q.releaseSensors s') := by
  have hmics : r.rig.mics = q.rig.mics := by simp only [Rig.mics, rig, h.roles, h.recording]
  have hreleases : r.rig.releases = q.rig.releases := by
    simp only [Rig.releases, hmics]
    simp only [rig, h.roles, h.listening]
  have hstops : (r.releaseCalls s).Perm (q.releaseCalls s') :=
    (r.releaseCalls_perm s).trans (hreleases ▸ (q.releaseCalls_perm s').symm)
  have hlength : (r.drainedMics s).length = (q.drainedMics s').length := by
    rw [(r.drainedMics_perm s).length_eq, (q.drainedMics_perm s').length_eq, hmics]
  obtain ⟨cs, cs', hr, hq, hperm, -⟩ := h.calls
  obtain ⟨ns, hrnotices, hqnotices⟩ := h.notices
  rw [releaseSensors_eq, releaseSensors_eq]
  refine { h with
    listening := rfl
    recording := rfl
    notices := ⟨ns ++ List.replicate (q.drainedMics s').length (.micRecording false), ?_, ?_⟩
    calls := ⟨cs ++ r.releaseCalls s, cs' ++ q.releaseCalls s', ?_, ?_, hperm.append hstops,
      fun hgoes => absurd hstopped hgoes⟩ }
  · simp [hrnotices, hlength, Notice.renumber]
  · simp [hqnotices]
  · simp [hr]
  · simp [hq]

lemma released (h : Twin p r₀ q₀ r q) (hstopped : q.state = .stopped) :
    Twin p r₀ q₀ (r.released s) (q.released s') := by
  have hfiles : Twin p r₀ q₀ r.releaseFiles q.releaseFiles :=
    h.of_modifies (r.modifies_releaseFiles.mono (by decide)) (q.modifies_releaseFiles.mono (by decide))
  have hstate : q.releaseFiles.state = .stopped := (q.modifies_releaseFiles .state (by decide)).trans hstopped
  exact (hfiles.releaseSensors hstate).saveMetadata

lemma stop (h : Twin p r₀ q₀ r q) (error : Option ScenarioError) :
    Twin p r₀ q₀ (r.stop s error) (q.stop s' error) := by
  by_cases hstate : q.state = .stopped
  · rw [Run.stop, Run.stop, if_pos (h.state.trans hstate), if_pos hstate]
    exact h
  · rw [r.stop_eq s error (h.state ▸ hstate), q.stop_eq s' error hstate]
    exact (h.halt.released q.halt_quiet.2).reported error

/-! ### All actions -/

section Setups

variable (hs : s.Agrees s') (hb : q.state ≠ .stopped → s.backend.Alike r₀.calls s'.backend q₀.calls)
  (h : Twin p r₀ q₀ r q)
include hs hb h

/-- Twins that take the same action come to the same, unless a file fails. -/
theorem execute (hgoes : q.state ≠ .stopped) (v v' : Visit) (hbranch : v.branch = v'.branch)
    (hid : v.nodeId = v'.nodeId) (hnode : v.node = v'.node)
    (htoken : v.token = p.token v'.token) (hbegun : 0 < v'.token) (a : Action)
    (hr : (r.execute s v a).1.isOfFile = false) (hq : (q.execute s' v' a).1.isOfFile = false) :
    Both p r₀ q₀ (r.execute s v a) (q.execute s' v' a) := by
  cases a with
  | nop => exact ⟨.done 0, h⟩
  | fork branch =>
    show Both p r₀ q₀ (r.fork v branch) (q.fork v' branch)
    rw [fork, fork, hnode, hid]
    split
    · exact ⟨.fails _, h⟩
    · exact ⟨.done 0, h.spawnBranch branch htoken hbegun _⟩
  | join a => exact h.join v v' hbranch a
  | abort info =>
    have hnoted : Twin p r₀ q₀ (r.updateMetadata fun m => { m with abort := some info })
        (q.updateMetadata fun m => { m with abort := some info }) :=
      h.updateMetadata (congrArg (fun m : Metadata => { m with abort := some info }) h.metadata)
    exact ⟨.done 1, hnoted.stop _⟩
  | waitDelay seconds => exact h.sleep seconds 0
  | waitNext => exact h.promptThen .waitNext (fun _ => rfl) (.code 0)
  | waitOption a =>
    show Both p r₀ q₀ (r.choose s a) (q.choose s' a)
    rw [choose, choose, hs.format]
    exact h.promptThen (.choice · ⟨a.title.map s.format, a.msg.map s.format, a.options.map s.format⟩) (fun _ => rfl)
      .answer
  | screenSleep enable => exact h.promptThen (.screenSleep · enable) (fun _ => rfl) (.code 0)
  | display primitive a =>
    show Both p r₀ q₀ (r.display s v primitive a) (q.display s' v' primitive a)
    rw [display, display, hs.format, hnode]
    refine showStages ?_ _
    exact h.tell rfl
  | progress a =>
    show Both p r₀ q₀ (.done 0, r.showProgress s v a) (.done 0, q.showProgress s' v' a)
    rw [showProgress, showProgress, hs.format, hnode]
    exact ⟨.done 0, h.tell rfl⟩
  | event op a => exact h.event op a
  | counter op a => exact h.counter op a
  | metadataSet key value =>
    have hset : Twin p r₀ q₀ (r.updateMetadata fun m => { m with extra := m.extra.insert key value })
        (q.updateMetadata fun m => { m with extra := m.extra.insert key value }) :=
      h.updateMetadata (congrArg (fun m : Metadata => { m with extra := m.extra.insert key value }) h.metadata)
    exact hset.savedWith 0 hr hq
  | logInfo message => exact h.logInfo message hr hq
  | record op a => exact h.record op a hr hq
  | select a => exact h.select (hb hgoes) hgoes hs a hr hq
  | setConfig roles pairs => exact (h.mergeRoles _ _).savedWith 0 hr hq
  | dumpConfig roles keys => exact (h.dumpConfig _ _).savedWith 0 hr hq
  | pauseSensor paused roles => exact (h.mergeRoles _ _).savedWith 0 hr hq
  | startSensor a =>
    obtain ⟨houtcome, hrun, -⟩ := (steers hs (hb hgoes)).startSensors ⟨h, hgoes⟩ a
    exact ⟨houtcome, hrun⟩
  | stopSensor a =>
    obtain ⟨houtcome, hrun, -⟩ := (steers hs (hb hgoes)).stopSensors ⟨h, hgoes⟩ a
    exact ⟨houtcome, hrun⟩
  | deviceRecord primitive => exact ⟨.done 0, h⟩

omit hs in
/-- Twins go on in the same way after a wait. -/
theorem proceed {result : Except ScenarioError Int} (hgoes : ∀ value, result = .ok value → q.state ≠ .stopped)
    (resumption : Resumption) (hr : (r.proceed s result resumption).1.isOfFile = false)
    (hq : (q.proceed s' result resumption).1.isOfFile = false) :
    Both p r₀ q₀ (r.proceed s result resumption) (q.proceed s' result resumption) := by
  cases result with
  | error e => exact ⟨.fails e, h⟩
  | ok value =>
    cases resumption with
    | code code => exact ⟨.done code, h⟩
    | answer => exact ⟨.done value, h⟩
    | display rest => exact h.showStages rest
    | bind candidates role =>
      have hgoes := hgoes value rfl
      exact h.bindChosen (hb hgoes) hgoes candidates role value hr hq

end Setups

/-! ### Waits -/

lemma eq_of_isSome {α : Type} {c c' : Prop} [Decidable c] [Decidable c'] {v : α}
    (h : (if c then some v else none).isSome = (if c' then some v else none).isSome) :
    (if c then some v else none) = if c' then some v else none := by
  split at h <;> split at h <;> simp_all

/-- A wait is over on both sides or on neither, and comes to the same: only deadlines can tell twins apart. -/
lemma waitResult? (h : Twin p r₀ q₀ r q) {a a' : Await} (ha : a.Matches p a') {token : Nat} (htoken : 0 < token)
    (hover : a'.deadline?.isSome = true →
      (r.waitResult? (p.token token) a).isSome = (q.waitResult? token a').isSome) :
    r.waitResult? (p.token token) a = q.waitResult? token a' := by
  have hsame := h.cancelled token htoken
  cases hlive : q.isCancelled token with
  | true => rw [waitResult?_cancelled a (hsame.trans hlive), waitResult?_cancelled a' hlive]
  | false =>
    rw [hlive] at hsame
    cases ha with
    | time deadline deadline' =>
      simp only [Run.waitResult?, hsame, hlive, Bool.false_eq_true, if_false] at hover ⊢
      exact eq_of_isSome (hover rfl)
    | prompt hid =>
      rw [waitResult?_prompt, waitResult?_prompt, hsame, hlive, h.prompts.answers _ hid, h.prompts.isPending]
    | @signals all ids deadline deadline' hdeadlines =>
      simp only [Run.waitResult?, hsame, hlive, Bool.false_eq_true, if_false, Signals.allResolved_behind h.signals,
        Signals.firstResolved?_behind h.signals] at hover ⊢
      split
      · rfl
      · next hnone =>
        rw [hnone] at hover
        cases deadline' with
        | none =>
          obtain rfl : deadline = none := by simpa using hdeadlines
          rfl
        | some time => exact eq_of_isSome (hover rfl)

lemma awake (h : Twin p r₀ q₀ r q) {a a' : Await} (ha : a.Matches p a') (i j : Nat) :
    Twin p r₀ q₀ (r.awake i a) (q.awake j a') := by
  cases ha with
  | time deadline deadline' => exact { h with }
  | prompt hid => exact { h with prompts := h.prompts.discard _ }
  | signals all ids => exact { h with }

end Twin

end Run

end FieldStudy
