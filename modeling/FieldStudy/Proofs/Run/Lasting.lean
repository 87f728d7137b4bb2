import Mathlib.Data.List.Basic
import Mathlib.Tactic.Common
import FieldStudy.Proofs.Run.Modifies
import FieldStudy.Proofs.Run.Steering
import FieldStudy.Proofs.Storage.Names

/-!
# What lasts of a run

What an action leaves behind besides notices, calls, prompts and bytes in files.  `Run.bare` is a run without these and
without times, and two runs that are alike when they are bare take the same course: whatever action they take, and
however they go on after a wait, the outcomes have one shape and the runs are alike again (`Run.same_execute`,
`Run.same_proceed`).  `Run.lasting` is the part of this that can be observed.
-/

namespace FieldStudy

/-- The document without dates and timestamps. -/
def Metadata.timeless (m : Metadata) : Metadata :=
  { m with
    startDate := none, endDate := none, startTime := none, endTime := none
    records := m.records.mapValues fun i => { i with created := 0 }
    recordEvents := m.recordEvents.map fun e => { e with timestamp := 0 }
    annotations := m.annotations.map fun a => { a with timestamp := 0 } }

namespace Metadata

lemma timeless_record (m : Metadata) (name file : String) (time : Int) :
    ({ m with records := m.records.insert name ⟨file, time⟩ } : Metadata).timeless =
      { m.timeless with records := m.timeless.records.insert name ⟨file, 0⟩ } := by
  rw [timeless, Dict.mapValues_insert]
  rfl

lemma timeless_annotate (m : Metadata) (name label : String) (time : Int) :
    (m.annotate ⟨time, name, label⟩).timeless = m.timeless.annotate ⟨0, name, label⟩ := by
  simp [annotate, timeless]

lemma timeless_addRecordEvent (m : Metadata) (event name : String) (time : Int) :
    (m.addRecordEvent event name time).timeless = m.timeless.addRecordEvent event name 0 := by
  simp [addRecordEvent, timeless]

end Metadata

/-- What does not pass with the execution of a node. -/
structure Lasting where
  counters : Dict Int
  /-- The value of each event; nothing if there is none of the name. -/
  events : String → Option (Option Int)
  roles : Dict RoleBinding
  /-- The file of each open record, and whether it is paused. -/
  records : Dict (String × Bool)
  routes : Dict (List String)
  listening : List (String × String)
  recording : List String
  /-- The metadata, timestamps aside. -/
  metadata : Metadata

/-- What is left of it at the end of a run. -/
def Lasting.closed (l : Lasting) : Lasting := { l with records := [], routes := [], listening := [], recording := [] }

@[simp] lemma Lasting.closed_closed (l : Lasting) : l.closed.closed = l.closed := rfl

/-- A wait without the number of its prompt and without times. -/
def Await.shape : Await → Await
  | .time _ => .time 0
  | .prompt _ => .prompt 0
  | .signals all ids deadline => .signals all ids (deadline.map fun _ => 0)

def Outcome.shape : Outcome → Outcome
  | .done code => .done code
  | .fails e => .fails e
  | .waits a resumption => .waits a.shape resumption

/-- What a backend replies depends on the call only.  That the run was paused or stopped is not for it to say. -/
structure Backend.Plain (b : Backend) : Prop where
  reply : ∀ calls calls' call, b.reply calls call = b.reply calls' call
  canRecord : ∀ calls calls', b.canRecord calls = b.canRecord calls'
  deviceInfo : ∀ calls calls' d, b.deviceInfo calls d = b.deviceInfo calls' d
  reply_ne : ∀ calls call, b.reply calls call ≠ .error .cancelled
  deviceInfo_ne : ∀ calls d, b.deviceInfo calls d ≠ .error .cancelled

namespace Run

def lasting (r : Run) : Lasting where
  counters := r.counters
  events := r.eventValue?
  roles := r.roles
  records := r.writers.mapValues fun w => (w.sink.file, w.paused)
  routes := r.routes
  listening := r.listening
  recording := r.recording
  metadata := r.metadata.timeless

/-- The run without what does not last and what nothing that lasts depends on. -/
def bare (r : Run) : Run :=
  { r with
    state := .running, token := 0, tokens := 0, cancelled := [], point := none, prompts := {}, notices := []
    calls := [], finished := none, tasks := [], number := 0, agenda := {}
    metadata := r.metadata.timeless
    writers := r.writers.mapValues RecordWriter.bare
    log := r.log.map FileLogger.bare
    files := r.files.bare }

/-- The fields that are left. -/
def bareFields : List RunField :=
  [.counters, .signals, .events, .branches, .metadata, .roles, .writers, .routes, .log, .listening, .recording, .files]

variable {r r' q q' : Run} {s : Setup}

lemma Modifies.bare {fs : List RunField} (h : Modifies fs r r') (hfs : ∀ f ∈ bareFields, f ∉ fs) :
    r'.bare = r.bare := by
  have hcounters : r'.counters = r.counters := h .counters (hfs _ (by decide))
  have hsignals : r'.signals = r.signals := h .signals (hfs _ (by decide))
  have hevents : r'.events = r.events := h .events (hfs _ (by decide))
  have hbranches : r'.branches = r.branches := h .branches (hfs _ (by decide))
  have hmetadata : r'.metadata = r.metadata := h .metadata (hfs _ (by decide))
  have hroles : r'.roles = r.roles := h .roles (hfs _ (by decide))
  have hwriters : r'.writers = r.writers := h .writers (hfs _ (by decide))
  have hroutes : r'.routes = r.routes := h .routes (hfs _ (by decide))
  have hlog : r'.log = r.log := h .log (hfs _ (by decide))
  have hlistening : r'.listening = r.listening := h .listening (hfs _ (by decide))
  have hrecording : r'.recording = r.recording := h .recording (hfs _ (by decide))
  have hfiles : r'.files = r.files := h .files (hfs _ (by decide))
  rw [Run.bare, Run.bare, hcounters, hsignals, hevents, hbranches, hmetadata, hroles, hwriters, hroutes, hlog,
    hlistening, hrecording, hfiles]

/-- Who is alike when bare has the same that lasts. -/
lemma lasting_congr (h : r.bare = q.bare) : r.lasting = q.lasting := by
  have hcounters : r.counters = q.counters := (congrArg counters h :)
  have hsignals : r.signals = q.signals := (congrArg signals h :)
  have hevents : r.events = q.events := (congrArg events h :)
  have hroles : r.roles = q.roles := (congrArg roles h :)
  have hwriters : r.writers.mapValues RecordWriter.bare = q.writers.mapValues RecordWriter.bare :=
    (congrArg writers h :)
  have hroutes : r.routes = q.routes := (congrArg routes h :)
  have hlistening : r.listening = q.listening := (congrArg listening h :)
  have hrecording : r.recording = q.recording := (congrArg recording h :)
  have hmetadata : r.metadata.timeless = q.metadata.timeless := (congrArg metadata h :)
  have hvalues : r.eventValue? = q.eventValue? := by
    funext name
    rw [eventValue?, eventValue?, hsignals, hevents]
  have hrecords (d : Dict (RecordWriter FileLogger)) : d.mapValues (fun w => (w.sink.file, w.paused)) =
      (d.mapValues RecordWriter.bare).mapValues fun w => (w.sink.file, w.paused) := by
    simp [Dict.mapValues, RecordWriter.bare, FileLogger.bare]
  rw [lasting, lasting, hcounters, hvalues, hroles, hrecords r.writers, hrecords q.writers, hwriters, hroutes,
    hlistening, hrecording, hmetadata]

/-- The fields that can be observed of what lasts, apart from events. -/
def lastingFields : List RunField := [.counters, .metadata, .roles, .writers, .routes, .listening, .recording]

/-- Who keeps off these fields and keeps the values of events has the same that lasts. -/
lemma Modifies.lasting_of_events {fs : List RunField} (h : Modifies fs r r') (hfs : ∀ f ∈ lastingFields, f ∉ fs)
    (hevents : r'.eventValue? = r.eventValue?) : r'.lasting = r.lasting := by
  have hcounters : r'.counters = r.counters := h .counters (hfs _ (by decide))
  have hmetadata : r'.metadata = r.metadata := h .metadata (hfs _ (by decide))
  have hroles : r'.roles = r.roles := h .roles (hfs _ (by decide))
  have hwriters : r'.writers = r.writers := h .writers (hfs _ (by decide))
  have hroutes : r'.routes = r.routes := h .routes (hfs _ (by decide))
  have hlistening : r'.listening = r.listening := h .listening (hfs _ (by decide))
  have hrecording : r'.recording = r.recording := h .recording (hfs _ (by decide))
  rw [Run.lasting, Run.lasting, hcounters, hevents, hmetadata, hroles, hwriters, hroutes, hlistening, hrecording]

lemma Modifies.lasting {fs : List RunField} (h : Modifies fs r r')
    (hfs : ∀ f ∈ [.signals, .events] ++ lastingFields, f ∉ fs) : r'.lasting = r.lasting := by
  have hsignals : r'.signals = r.signals := h .signals (hfs _ (by decide))
  have hevents : r'.events = r.events := h .events (hfs _ (by decide))
  refine h.lasting_of_events (fun f hf => hfs f (List.mem_append_right _ hf)) ?_
  funext name
  rw [eventValue?, eventValue?, hsignals, hevents]

/-- The results of one operation on two runs: outcomes of one shape, and runs that are alike when bare. -/
structure Same (x y : Outcome × Run) : Prop where
  outcome : x.1.shape = y.1.shape
  run : x.2.bare = y.2.bare

/-! ## Metadata -/

lemma same_document (h : r.bare = q.bare) (roles : Dict RoleBinding) {m m' : Metadata} (hm : m.timeless = m'.timeless) :
    ({ r with roles, metadata := m } : Run).bare = ({ q with roles, metadata := m' } : Run).bare := by
  show ({ r.bare with roles, metadata := m.timeless } : Run) = { q.bare with roles, metadata := m'.timeless }
  rw [h, hm]

lemma bare_files {files : FileStore} (h : files.bare = r.files.bare) : ({ r with files } : Run).bare = r.bare := by
  show ({ r.bare with files := files.bare } : Run) = r.bare
  rw [h]
  rfl

/-- A change of the metadata that does not look at times. -/
lemma same_updateMetadata (h : r.bare = q.bare) {f g : Metadata → Metadata}
    (hfg : ∀ m m' : Metadata, m.timeless = m'.timeless → (f m).timeless = (g m').timeless) :
    (r.updateMetadata f).bare = (q.updateMetadata g).bare := by
  have hmetadata : (f r.metadata).timeless = (g q.metadata).timeless := hfg _ _ (congrArg metadata h :)
  show ({ r.bare with metadata := (f r.metadata).timeless } : Run) = { q.bare with metadata := (g q.metadata).timeless }
  rw [h, hmetadata]

lemma same_saveMetadata (h : r.bare = q.bare) :
    (r.saveMetadata s).1 = (q.saveMetadata s).1 ∧ (r.saveMetadata s).2.bare = (q.saveMetadata s).2.bare := by
  have hwrite := FileStore.write_congr ((congrArg files h :) : r.files.bare = q.files.bare) s.folder Metadata.file
    (Utf8.encode r.metadata.text.toList) (Utf8.encode q.metadata.text.toList)
  rw [saveMetadata, saveMetadata, Metadata.save, Metadata.save]
  generalize r.files.write s.folder Metadata.file (Utf8.encode r.metadata.text.toList) = x at hwrite
  generalize q.files.write s.folder Metadata.file (Utf8.encode q.metadata.text.toList) = y at hwrite
  cases x with
  | error e =>
    cases y with
    | error e' =>
      obtain rfl := Except.error.inj hwrite
      exact ⟨rfl, h⟩
    | ok t => cases hwrite
  | ok t =>
    cases y with
    | error e => cases hwrite
    | ok t' =>
      have hfiles : t.bare = t'.bare := Except.ok.inj hwrite
      refine ⟨rfl, ?_⟩
      show ({ r.bare with files := t.bare } : Run) = { q.bare with files := t'.bare }
      rw [h, hfiles]

lemma same_savedWith (h : r.bare = q.bare) (code : Int) : Same (r.savedWith s code) (q.savedWith s code) := by
  obtain ⟨hresult, hrun⟩ := same_saveMetadata (s := s) h
  rw [savedWith, savedWith]
  generalize r.saveMetadata s = x at hresult hrun
  generalize q.saveMetadata s = y at hresult hrun
  obtain ⟨result, r₁⟩ := x
  obtain ⟨result', q₁⟩ := y
  obtain rfl : result = result' := hresult
  cases result <;> exact ⟨rfl, hrun⟩

/-! ## Roles -/

lemma timeless_foldl_mergeRoleConfig (values : RoleBinding → Dict Json) (bs : List RoleBinding) {m m' : Metadata}
    (h : m.timeless = m'.timeless) :
    (bs.foldl (fun m b => m.mergeRoleConfig b.role (values b)) m).timeless =
      (bs.foldl (fun m b => m.mergeRoleConfig b.role (values b)) m').timeless := by
  induction bs generalizing m m' with
  | nil => exact h
  | cons b rest ih => exact ih (congrArg (fun m : Metadata => m.mergeRoleConfig b.role (values b)) h)

lemma same_mergeRoles (h : r.bare = q.bare) (names : Option (List String)) (values : Dict Json) :
    (r.mergeRoles names values).bare = (q.mergeRoles names values).bare := by
  have hroles : r.roles = q.roles := (congrArg roles h :)
  have htargets : r.targets names = q.targets names := by rw [targets, targets, hroles]
  have hmetadata := timeless_foldl_mergeRoleConfig (fun _ => values) (q.targets names)
    ((congrArg metadata h :) : r.metadata.timeless = q.metadata.timeless)
  rw [mergeRoles, mergeRoles, htargets, hroles]
  exact same_document h _ hmetadata

lemma same_dumpConfig (h : r.bare = q.bare) (names : Option (List String)) (keys : List String) :
    (r.dumpConfig names keys).bare = (q.dumpConfig names keys).bare := by
  have hroles : r.roles = q.roles := (congrArg roles h :)
  have htargets : r.targets names = q.targets names := by rw [targets, targets, hroles]
  refine same_updateMetadata h fun m m' hm => ?_
  rw [htargets]
  exact timeless_foldl_mergeRoleConfig (fun b => pickConfig b.config keys) _ hm

lemma same_bind (hbackend : s.backend.Plain) (h : r.bare = q.bare) (d : Device) (role : String) :
    Same (r.bind s d role) (q.bind s d role) := by
  have hroles : r.roles = q.roles := (congrArg roles h :)
  rw [bind, bind, hbackend.deviceInfo r.calls q.calls d]
  cases s.backend.deviceInfo q.calls d with
  | error e => exact ⟨rfl, h⟩
  | ok info =>
    have hinfo : ({ r.metadata with deviceInfo := r.metadata.deviceInfo.insert role info } : Metadata).timeless =
        ({ q.metadata with deviceInfo := q.metadata.deviceInfo.insert role info } : Metadata).timeless :=
      congrArg (fun m : Metadata => { m with deviceInfo := m.deviceInfo.insert role info })
        ((congrArg metadata h :) : r.metadata.timeless = q.metadata.timeless)
    rw [hroles]
    exact same_savedWith (same_document h _ hinfo) 0

lemma same_select (hbackend : s.backend.Plain) (h : r.bare = q.bare) (a : SelectArguments) :
    Same (r.select s a) (q.select s a) := by
  rw [select, select]
  dsimp only
  split
  · exact ⟨rfl, h⟩
  · exact same_bind hbackend h _ _
  · exact ⟨rfl, h⟩

lemma same_bindChosen (hbackend : s.backend.Plain) (h : r.bare = q.bare) (candidates : List Device) (role : String)
    (index : Int) : Same (r.bindChosen s candidates role index) (q.bindChosen s candidates role index) := by
  rw [bindChosen, bindChosen]
  split
  · exact same_bind hbackend h _ role
  · exact ⟨rfl, h⟩

/-! ## Records -/

lemma same_openRecord (h : r.bare = q.bare) (a : RecordArguments) (sensors : List String) :
    (r.openRecord s a sensors).1 = (q.openRecord s a sensors).1 ∧
      (r.openRecord s a sensors).2.bare = (q.openRecord s a sensors).2.bare := by
  have hwriters : r.writers.mapValues RecordWriter.bare = q.writers.mapValues RecordWriter.bare :=
    (congrArg writers h :)
  have hroutes : r.routes = q.routes := (congrArg routes h :)
  have hcontains : r.writers.contains a.name = q.writers.contains a.name := by
    rw [← Dict.contains_mapValues r.writers RecordWriter.bare, hwriters, Dict.contains_mapValues]
  rw [openRecord, openRecord, hcontains]
  split
  · exact ⟨rfl, h⟩
  · have hcreate := RecordWriter.create_congr ((congrArg files h :) : r.files.bare = q.files.bare)
      (FileLogger.new s.folder a.name recordExtension s.config.loggerBufferCount) recordDescriptor
    dsimp only
    generalize FileLogger.new s.folder a.name recordExtension s.config.loggerBufferCount = l at hcreate
    generalize RecordWriter.create l recordDescriptor r.files = x at hcreate
    generalize RecordWriter.create l recordDescriptor q.files = y at hcreate
    obtain ⟨result, w, t⟩ := x
    obtain ⟨result', w', t'⟩ := y
    obtain ⟨hresult, hrest⟩ := Prod.mk.inj hcreate
    obtain ⟨hw, ht⟩ := Prod.mk.inj hrest
    obtain rfl : result = result' := hresult
    cases result with
    | error e =>
      have hfiles : (w.sink.close t).2.2.bare = (w'.sink.close t').2.2.bare :=
        ((w.sink.close_bare t).2.trans ht).trans (w'.sink.close_bare t').2.symm
      refine ⟨rfl, ?_⟩
      show ({ r.bare with files := (w.sink.close t).2.2.bare } : Run) =
        { q.bare with files := (w'.sink.close t').2.2.bare }
      rw [h, hfiles]
    | ok done =>
      have hfiles : t.bare = t'.bare := ht
      have hpaused : (w.setPaused a.paused).bare = (w'.setPaused a.paused).bare :=
        congrArg (fun w : RecordWriter FileLogger => w.setPaused a.paused) hw
      have hinsert : (r.writers.insert a.name (w.setPaused a.paused)).mapValues RecordWriter.bare =
          (q.writers.insert a.name (w'.setPaused a.paused)).mapValues RecordWriter.bare := by
        rw [Dict.mapValues_insert, Dict.mapValues_insert, hwriters, hpaused]
      cases done
      refine ⟨rfl, ?_⟩
      show ({ r.bare with
          files := t.bare, routes := addRoutes r.routes sensors a.name
          writers := (r.writers.insert a.name (w.setPaused a.paused)).mapValues RecordWriter.bare } : Run) =
        { q.bare with
          files := t'.bare, routes := addRoutes q.routes sensors a.name
          writers := (q.writers.insert a.name (w'.setPaused a.paused)).mapValues RecordWriter.bare }
      rw [h, hfiles, hroutes, hinsert]

lemma same_addRecordInfo (h : r.bare = q.bare) (name file : String) :
    (r.addRecordInfo name file).bare = (q.addRecordInfo name file).bare := by
  refine same_updateMetadata h fun m m' hm => ?_
  rw [Metadata.timeless_record, Metadata.timeless_record, hm]

lemma same_createRecord (h : r.bare = q.bare) (a : RecordArguments) :
    (r.createRecord s a).1 = (q.createRecord s a).1 ∧ (r.createRecord s a).2.bare = (q.createRecord s a).2.bare := by
  rw [createRecord, createRecord]
  split
  · exact ⟨rfl, h⟩
  · next first others _ =>
    split
    · exact ⟨rfl, same_addRecordInfo (same_mergeRoles h _ _) _ _⟩
    · obtain ⟨hresult, hrun⟩ := same_openRecord (s := s) h a (first :: others)
      generalize r.openRecord s a (first :: others) = x at hresult hrun
      generalize q.openRecord s a (first :: others) = y at hresult hrun
      obtain ⟨result, r₁⟩ := x
      obtain ⟨result', q₁⟩ := y
      obtain rfl : result = result' := hresult
      cases result with
      | error e => exact ⟨rfl, hrun⟩
      | ok done => exact ⟨rfl, same_addRecordInfo hrun _ _⟩

lemma closeRecord_bare (r : Run) (name : String) : (r.closeRecord name).1 = .ok () ∧
    (r.closeRecord name).2.bare =
      { r.bare with routes := removeRoutes r.routes name, writers := r.bare.writers.erase name } := by
  have hset : ({ r with routes := removeRoutes r.routes name, writers := r.writers.erase name } : Run).bare =
      { r.bare with routes := removeRoutes r.routes name, writers := r.bare.writers.erase name } := by
    show ({ r.bare with routes := _, writers := (r.writers.erase name).mapValues RecordWriter.bare } : Run) = _
    rw [Dict.mapValues_erase]
    rfl
  rw [closeRecord]
  dsimp only
  cases r.writers.get? name with
  | none => exact ⟨rfl, hset⟩
  | some w =>
    obtain ⟨hresult, hfiles⟩ := w.close_bare r.files
    dsimp only
    refine ⟨by rw [hresult]; rfl, ?_⟩
    rw [← hset]
    exact bare_files (r := { r with routes := removeRoutes r.routes name, writers := r.writers.erase name }) hfiles

lemma same_pauseRecord (h : r.bare = q.bare) (name : String) (paused : Bool) :
    (r.pauseRecord name paused).bare = (q.pauseRecord name paused).bare := by
  have hadjust (r : Run) : (r.pauseRecord name paused).bare =
      { r.bare with writers := r.bare.writers.adjust name (·.setPaused paused) } := by
    show ({ r.bare with writers := (r.writers.adjust name (·.setPaused paused)).mapValues RecordWriter.bare } : Run) = _
    have hwriters : (r.writers.adjust name (·.setPaused paused)).mapValues RecordWriter.bare =
        r.bare.writers.adjust name (·.setPaused paused) :=
      Dict.mapValues_adjust r.writers (f := RecordWriter.bare) (g := (·.setPaused paused)) (fun _ => rfl) name
    rw [hwriters]
  rw [hadjust, hadjust, h]

lemma same_annotate (h : r.bare = q.bare) (name : String) (label : Option String) :
    (r.annotate name label).bare = (q.annotate name label).bare := by
  refine same_updateMetadata h fun m m' hm => ?_
  rw [Metadata.timeless_annotate, Metadata.timeless_annotate, hm]

lemma same_addRecordEvent (h : r.bare = q.bare) (event name : String) :
    (r.addRecordEvent event name).bare = (q.addRecordEvent event name).bare := by
  refine same_updateMetadata h fun m m' hm => ?_
  rw [Metadata.timeless_addRecordEvent, Metadata.timeless_addRecordEvent, hm]

lemma same_changeRecord (h : r.bare = q.bare) (op : RecordOp) (a : RecordArguments) :
    (r.changeRecord s op a).1 = (q.changeRecord s op a).1 ∧
      (r.changeRecord s op a).2.bare = (q.changeRecord s op a).2.bare := by
  cases op with
  | create => exact same_createRecord h a
  | close =>
    obtain ⟨hr, hrbare⟩ := r.closeRecord_bare a.name
    obtain ⟨hq, hqbare⟩ := q.closeRecord_bare a.name
    refine ⟨hr.trans hq.symm, ?_⟩
    have hroutes : r.routes = q.routes := (congrArg routes h :)
    show (r.closeRecord a.name).2.bare = (q.closeRecord a.name).2.bare
    rw [hrbare, hqbare, h, hroutes]
  | pause => exact ⟨rfl, same_pauseRecord h a.name true⟩
  | unpause => exact ⟨rfl, same_pauseRecord h a.name false⟩
  | annotate => exact ⟨rfl, same_annotate h a.name a.label⟩

lemma same_record (h : r.bare = q.bare) (op : RecordOp) (a : RecordArguments) :
    Same (r.record s op a) (q.record s op a) := by
  obtain ⟨hresult, hrun⟩ := same_changeRecord (s := s) h op a
  rw [record, record]
  generalize r.changeRecord s op a = x at hresult hrun
  generalize q.changeRecord s op a = y at hresult hrun
  obtain ⟨result, r₁⟩ := x
  obtain ⟨result', q₁⟩ := y
  obtain rfl : result = result' := hresult
  cases result with
  | error e => exact ⟨rfl, hrun⟩
  | ok done =>
    refine same_savedWith ?_ 0
    cases recordEvent? op with
    | none => exact hrun
    | some event => exact same_addRecordEvent hrun event a.name

lemma same_logInfo (h : r.bare = q.bare) (message : String) : Same (r.logInfo s message) (q.logInfo s message) := by
  have hlog : r.log.map FileLogger.bare = q.log.map FileLogger.bare := (congrArg log h :)
  have hlogger : (r.log.getD (FileLogger.new s.folder logName logExtension s.config.loggerBufferCount)).bare =
      (q.log.getD (FileLogger.new s.folder logName logExtension s.config.loggerBufferCount)).bare := by
    rw [← Option.getD_map FileLogger.bare, ← Option.getD_map FileLogger.bare, hlog]
  have hwrite := FileLogger.write_congr hlogger ((congrArg files h :) : r.files.bare = q.files.bare)
    (Utf8.encode (message.toList ++ ['\n'])) (Utf8.encode (message.toList ++ ['\n']))
  rw [logInfo, logInfo, FileLogger.writeLine, FileLogger.writeLine]
  dsimp only
  generalize FileLogger.write _ _ r.files = x at hwrite
  generalize FileLogger.write _ _ q.files = y at hwrite
  obtain ⟨result, l, t⟩ := x
  obtain ⟨result', l', t'⟩ := y
  obtain ⟨hresult, hrest⟩ := Prod.mk.inj hwrite
  obtain ⟨hl, ht⟩ := Prod.mk.inj hrest
  obtain rfl : result = result' := hresult
  have hrun : ({ r with files := t, log := some l } : Run).bare =
      ({ q with files := t', log := some l' } : Run).bare := by
    show ({ r.bare with files := t.bare, log := some l.bare } : Run) =
      { q.bare with files := t'.bare, log := some l'.bare }
    rw [h, show l.bare = l'.bare from hl, show t.bare = t'.bare from ht]
  cases result <;> exact ⟨rfl, hrun⟩

/-! ## Sensors -/

/-- Runs that are alike drive their sensors alike. -/
lemma steers_bare (hbackend : s.backend.Plain) :
    Steers s s (fun r q => r.bare = q.bare) (fun o o' => o.shape = o'.shape) where
  done _ := rfl
  fails _ := rfl
  config := rfl
  roles h := (congrArg roles h :)
  listening h := (congrArg listening h :)
  recording h := (congrArg recording h :)
  canRecord _ := hbackend.canRecord _ _
  ask h call := ⟨hbackend.reply _ _ call, h⟩
  tell h _ := h
  drive h f g := congrArg (fun r : Run => { r with listening := f r.listening, recording := g r.recording }) h

/-! ## Messages, events and counters -/

lemma same_sleep (h : r.bare = q.bare) (seconds : Double) (code : Int) :
    Same (r.sleep seconds code) (q.sleep seconds code) := by
  rw [sleep, sleep]
  split
  · exact ⟨rfl, h⟩
  · exact ⟨rfl, h⟩

lemma same_showStages (h : r.bare = q.bare) (stages : List DisplayStage) :
    Same (r.showStages stages) (q.showStages stages) := by
  induction stages with
  | nil => exact ⟨rfl, h⟩
  | cons stage rest ih =>
    cases stage with
    | sleep seconds =>
      rw [showStages, showStages]
      split
      · exact ⟨rfl, h⟩
      · exact ih
    | countdown seconds => exact ⟨rfl, h⟩
    | next => exact ⟨rfl, h⟩

lemma bare_wake (r : Run) (concerns : Task → Await → Bool) : (r.wake concerns).bare = r.bare :=
  (r.modifies_wake concerns).bare (by decide)

lemma bare_resolve (r : Run) (signal : Nat) (value : Int) :
    (r.resolve signal value).bare = { r.bare with signals := r.signals.resolve signal value } :=
  bare_wake _ _

lemma same_foldl {f : Run → String → Run} (hf : ∀ r q name, r.bare = q.bare → (f r name).bare = (f q name).bare)
    (names : List String) (h : r.bare = q.bare) : (names.foldl f r).bare = (names.foldl f q).bare := by
  induction names generalizing r q with
  | nil => exact h
  | cons name rest ih => exact ih (hf r q name h)

/-- A new signal for an event. -/
lemma same_renewed (h : r.bare = q.bare) (name : String) :
    ({ r with signals := r.signals.create, events := r.events.insert name r.signals.next } : Run).bare =
      ({ q with signals := q.signals.create, events := q.events.insert name q.signals.next } : Run).bare :=
  congrArg (fun r : Run => { r with signals := r.signals.create, events := r.events.insert name r.signals.next }) h

lemma same_createEvent (h : r.bare = q.bare) (name : String) :
    (r.createEvent name).bare = (q.createEvent name).bare := by
  have hevents : r.events = q.events := (congrArg events h :)
  rw [createEvent, createEvent, hevents]
  split
  · exact h
  · exact same_renewed h name

lemma same_resetEvent (h : r.bare = q.bare) (name : String) : (r.resetEvent name).bare = (q.resetEvent name).bare := by
  have hevents : r.events = q.events := (congrArg events h :)
  rw [resetEvent, resetEvent, hevents]
  split
  · exact same_renewed h name
  · exact h

lemma same_setEvent (h : r.bare = q.bare) (name : String) : (r.setEvent name).bare = (q.setEvent name).bare := by
  have hevents : r.events = q.events := (congrArg events h :)
  have hsignals : r.signals = q.signals := (congrArg signals h :)
  rw [setEvent, setEvent, hevents]
  split
  · rw [bare_resolve, bare_resolve, h, hsignals]
  · exact h

lemma same_waitEvents (h : r.bare = q.bare) (all : Bool) (a : EventArguments) :
    Same (r.waitEvents all a) (q.waitEvents all a) := by
  have hevents : r.events = q.events := (congrArg events h :)
  have hsignals : r.signals = q.signals := (congrArg signals h :)
  rw [waitEvents, waitEvents, hevents, hsignals]
  dsimp only
  split
  · exact ⟨rfl, h⟩
  · split
    · refine ⟨?_, h⟩
      simp [Outcome.shape, Await.shape, Function.comp_def]
    · split
      · exact ⟨rfl, h⟩
      · split
        · exact same_sleep h _ 1
        · exact ⟨rfl, h⟩

lemma same_event (h : r.bare = q.bare) (op : EventOp) (a : EventArguments) : Same (r.event op a) (q.event op a) := by
  cases op with
  | create => exact ⟨rfl, same_foldl (fun _ _ name h => same_createEvent h name) a.names h⟩
  | reset => exact ⟨rfl, same_foldl (fun _ _ name h => same_resetEvent h name) a.names h⟩
  | set => exact ⟨rfl, same_foldl (fun _ _ name h => same_setEvent h name) a.names h⟩
  | wait => exact same_waitEvents h false a
  | waitAll => exact same_waitEvents h true a

lemma same_counter (h : r.bare = q.bare) (op : CounterOp) (a : CounterArguments) :
    Same (r.counter op a) (q.counter op a) := by
  have hcounters : r.counters = q.counters := (congrArg counters h :)
  have hset (name : String) (value : Int) : (r.setCounter name value).bare = (q.setCounter name value).bare :=
    congrArg (fun r : Run => r.setCounter name value) h
  have hadd (name : String) (delta : Int) : (r.addToCounter name delta).bare = (q.addToCounter name delta).bare := by
    rw [addToCounter, addToCounter, hcounters]
    exact hset name _
  cases op with
  | set => exact ⟨rfl, hset a.name _⟩
  | inc => exact ⟨rfl, hadd a.name 1⟩
  | dec => exact ⟨rfl, hadd a.name (-1)⟩
  | equ => exact ⟨by rw [counter, counter, hcounters], h⟩
  | cmp => exact ⟨by rw [counter, counter, hcounters], h⟩

lemma same_join (h : r.bare = q.bare) (v v' : Visit) (hbranch : v.branch = v'.branch) (a : JoinArguments) :
    Same (r.join v a) (q.join v' a) := by
  have hbranches : r.branches = q.branches := (congrArg branches h :)
  rw [join, join, hbranch, hbranches]
  split
  · exact ⟨rfl, h⟩
  · exact ⟨rfl, h⟩

/-! ## The end of a run -/

lemma halt_bare (r : Run) : r.halt.bare = { r.bare with routes := [] } := by
  have hcancel := ({ r with state := .stopped } : Run).modifies_cancel.bare (by decide)
  have hclear := ({ r with state := .stopped } : Run).cancel.modifies_clearPrompts.bare (by decide)
  have hsame : ({ r with state := .stopped } : Run).cancel.clearPrompts.bare = r.bare := hclear.trans hcancel
  rw [halt, ← hsame]
  rfl

lemma releaseFiles_bare (r : Run) : r.releaseFiles.bare = { r.bare with writers := [], log := none } := by
  have hwriters (close : FileStore → String × RecordWriter FileLogger → FileStore)
      (hclose : ∀ t entry, (close t entry).bare = t.bare) (t : FileStore) :
      (r.writers.foldl close t).bare = t.bare := by
    induction r.writers generalizing t with
    | nil => rfl
    | cons entry rest ih => exact (ih _).trans (hclose t entry)
  have hfiles : r.releaseFiles.files.bare = r.files.bare := by
    rw [releaseFiles]
    dsimp only
    cases r.log with
    | none => exact hwriters _ (fun t entry => (entry.2.close_bare t).2) _
    | some logger => exact (logger.close_bare _).2.trans (hwriters _ (fun t entry => (entry.2.close_bare t).2) _)
  exact bare_files (r := { r with writers := [], log := none }) hfiles

lemma releaseSensors_bare (r : Run) (s : Setup) :
    (r.releaseSensors s).bare = { r.bare with listening := [], recording := [] } := by
  rw [releaseSensors_eq]
  rfl

/-- Runs that are alike are alike again once they are stopped. -/
lemma same_stop (h : r.bare = q.bare) (hr : r.state ≠ .stopped) (hq : q.state ≠ .stopped)
    (error error' : Option ScenarioError) : (r.stop s error).bare = (q.stop s error').bare := by
  have hreleased : (r.halt.releaseFiles.releaseSensors s).bare = (q.halt.releaseFiles.releaseSensors s).bare := by
    rw [releaseSensors_bare, releaseSensors_bare, releaseFiles_bare, releaseFiles_bare, halt_bare, halt_bare, h]
  have hsaved : (r.halt.released s).bare = (q.halt.released s).bare := (same_saveMetadata hreleased).2
  rw [r.stop_eq s error hr, q.stop_eq s error' hq, ((r.halt.released s).modifies_reported error).bare (by decide),
    ((q.halt.released s).modifies_reported error').bare (by decide), hsaved]

/-- What lasts of a run that is stopped. -/
lemma lasting_stop (s : Setup) (error : Option ScenarioError) (hstate : r.state ≠ .stopped) :
    (r.stop s error).lasting = r.lasting.closed := by
  have hreported := ((r.halt.released s).modifies_reported error).lasting (by decide)
  have hsaved := ((r.halt.releaseFiles.releaseSensors s).modifies_saveMetadata s).lasting (by decide)
  have hbare : (r.halt.releaseFiles.releaseSensors s).bare =
      { r.bare with writers := [], log := none, routes := [], listening := [], recording := [] } := by
    rw [releaseSensors_bare, releaseFiles_bare, halt_bare]
  have hclosed : (r.halt.releaseFiles.releaseSensors s).lasting =
      ({ r with writers := [], log := none, routes := [], listening := [], recording := [] } : Run).lasting :=
    lasting_congr hbare
  rw [r.stop_eq s error hstate]
  exact (hreported.trans hsaved).trans hclosed

/-! ## Actions -/

/-- Runs that are alike take the same course in every action but a fork. -/
theorem same_execute (hbackend : s.backend.Plain) (h : r.bare = q.bare) (hr : r.state = .running)
    (hq : q.state = .running) (v : Visit) (token : Nat) {a : Action} (hfork : ∀ branch, a ≠ .fork branch) :
    Same (r.execute s v a) (q.execute s { v with token } a) := by
  cases a with
  | nop => exact ⟨rfl, h⟩
  | fork branch => exact absurd rfl (hfork branch)
  | join a => exact same_join h v { v with token } rfl a
  | abort info =>
    have hnoted := same_updateMetadata h (f := fun m => { m with abort := some info })
      (g := fun m => { m with abort := some info })
      fun m m' hm => congrArg (fun m : Metadata => { m with abort := some info }) hm
    refine ⟨rfl, same_stop hnoted ?_ ?_ _ _⟩
    · simp [updateMetadata, hr]
    · simp [updateMetadata, hq]
  | waitDelay seconds => exact same_sleep h seconds 0
  | waitNext => exact ⟨rfl, h⟩
  | waitOption a => exact ⟨rfl, h⟩
  | screenSleep enable => exact ⟨rfl, h⟩
  | display primitive a => 
    rw [execute, execute, display, display]
    refine same_showStages ?_ (displayStages primitive a)
    exact h
  | progress a => exact ⟨rfl, h⟩
  | event op a => exact same_event h op a
  | counter op a => exact same_counter h op a
  | metadataSet key value =>
    exact same_savedWith (same_updateMetadata h fun m m' hm =>
      congrArg (fun m : Metadata => { m with extra := m.extra.insert key value }) hm) 0
  | logInfo message => exact same_logInfo h message
  | record op a => exact same_record h op a
  | select a => exact same_select hbackend h a
  | setConfig roles pairs => exact same_savedWith (same_mergeRoles h _ _) 0
  | dumpConfig roles keys => exact same_savedWith (same_dumpConfig h _ _) 0
  | pauseSensor paused roles => exact same_savedWith (same_mergeRoles h _ _) 0
  | startSensor a =>
    obtain ⟨houtcome, hrun⟩ := (steers_bare hbackend).startSensors h a
    exact ⟨houtcome, hrun⟩
  | stopSensor a =>
    obtain ⟨houtcome, hrun⟩ := (steers_bare hbackend).stopSensors h a
    exact ⟨houtcome, hrun⟩
  | deviceRecord primitive => exact ⟨rfl, h⟩

/-- Runs that are alike go on in the same way after a wait. -/
theorem same_proceed (hbackend : s.backend.Plain) (h : r.bare = q.bare) (result : Except ScenarioError Int)
    (resumption : Resumption) : Same (r.proceed s result resumption) (q.proceed s result resumption) := by
  cases result with
  | error e => exact ⟨rfl, h⟩
  | ok value =>
    cases resumption with
    | code code => exact ⟨rfl, h⟩
    | answer => exact ⟨rfl, h⟩
    | display rest => exact same_showStages h rest
    | bind candidates role => exact same_bindChosen hbackend h candidates role value

end Run

end FieldStudy
