import Mathlib.Data.List.Basic
import FieldStudy.Proofs.Run.Bookings

/-!
# Records hold the samples of their ledger

What a move does to the desk of a run and to its ledger is a sequence of bookings.  So in whatever order the moves
come, a run that has stopped leaves files with exactly the samples of the ledger
(`Run.records_hold_routed_samples`).
-/

namespace FieldStudy

namespace Desk

/-- What opening a record does to the desk: nothing if the record is open. -/
def openRecord (s : Setup) (a : RecordArguments) (sensors : List String) (d : Desk) : Except ScenarioError Unit × Desk :=
  if d.writers.contains a.name then (.ok (), d)
  else
    match RecordWriter.create (FileLogger.new s.folder a.name Run.recordExtension s.config.loggerBufferCount)
        Run.recordDescriptor d.files with
    | (.error e, writer, files) => (.error (.recording e), { d with files := (writer.sink.close files).2.2 })
    | (.ok (), writer, files) =>
      (.ok (), { d with
        files
        writers := d.writers.insert a.name (writer.setPaused a.paused)
        routes := Run.addRoutes d.routes sensors a.name })

/-- What creating a record does to the desk: nothing without sensors and for a microphone. -/
def create (s : Setup) (a : RecordArguments) (d : Desk) : Except ScenarioError Unit × Desk :=
  match a.sensors.getD [] with
  | [] => (.ok (), d)
  | first :: others => if first = SensorType.mic then (.ok (), d) else d.openRecord s a (first :: others)

variable {s : Setup} {a : RecordArguments} {d : Desk}

/-- A record that is opened is booked, also if it is open and nothing changes but the ledger. -/
lemma booked_openRecord {sensors : List String} (l : Ledger) (hup : d.isUp = true)
    (hok : (d.openRecord s a sensors).1 = .ok ()) :
    Booked s (d, l) ((d.openRecord s a sensors).2, l ++ [{ name := a.name, sensors, paused := a.paused }]) := by
  rw [openRecord] at hok ⊢
  by_cases hopen : d.writers.contains a.name = true
  · rw [if_pos hopen]
    exact .repeated ⟨a.name, sensors, true, a.paused, []⟩ hopen
  · rw [if_neg hopen] at hok ⊢
    cases hcreate : RecordWriter.create
        (FileLogger.new s.folder a.name Run.recordExtension s.config.loggerBufferCount) Run.recordDescriptor d.files with
    | mk result rest =>
      obtain ⟨w, files⟩ := rest
      rw [hcreate] at hok
      cases result with
      | error e => cases hok
      | ok _ => exact .create a sensors hup hcreate

lemma booked_create (l : Ledger) (hup : d.isUp = true) (hok : (d.create s a).1 = .ok ()) :
    ((d.create s a).2, l.take (.record .create a)) = (d, l) ∨
      Booked s (d, l) ((d.create s a).2, l.take (.record .create a)) := by
  rw [create] at hok ⊢
  rw [Ledger.take]
  generalize a.sensors.getD [] = sensors at hok ⊢
  cases sensors with
  | nil => exact .inl rfl
  | cons first others =>
    dsimp only at hok ⊢
    by_cases hmic : first = SensorType.mic
    · rw [if_pos hmic, if_pos hmic]
      exact .inl rfl
    · rw [if_neg hmic] at hok
      rw [if_neg hmic, if_neg hmic]
      exact .inr (booked_openRecord l hup hok)

end Desk

namespace Run

variable (r : Run) (s : Setup) (l : Ledger)

/-! ## Documents -/

lemma leads_saveMetadata : Desk.Leads s (r.desk, l) ((r.saveMetadata s).2.desk, l) := by
  rw [saveMetadata]
  split
  · next hsave => exact .single (.save (.inl rfl) hsave)
  · exact .refl _

lemma leads_savedWith (code : Int) : Desk.Leads s (r.desk, l) ((r.savedWith s code).2.desk, l) := by
  have h := r.leads_saveMetadata s l
  rw [savedWith]
  split
  · next hs => simpa [hs] using h
  · next hs => simpa [hs] using h

/-- An action that ends with the metadata stored. -/
lemma leads_saved {fs : List RunField} {q : Run} (h : Modifies fs r q) (hfs : ∀ f ∈ deskFields, f ∉ fs)
    (code : Int) : Desk.Leads s (r.desk, l) ((q.savedWith s code).2.desk, l) :=
  (Desk.Leads.of_eq (h.desk hfs) l).trans (q.leads_savedWith s l code)

lemma leads_createFolder : Desk.Leads s (r.desk, l) ((r.createFolder s).2.desk, l) := by
  rw [createFolder]
  split
  · exact .refl _
  · next files hfolders =>
    have hfurnished : Desk.Leads s (r.desk, l) ({ r.desk with files }, l) := .single (.furnish hfolders)
    split
    · exact hfurnished
    · next files₁ hsave =>
      have hsaved : Desk.Leads s (r.desk, l) ({ r.desk with files := files₁ }, l) :=
        hfurnished.trans (.single (.save (.inl rfl) hsave))
      split
      · exact hsaved
      · next hsnapshot => exact hsaved.trans (.single (.save (.inr rfl) hsnapshot))

lemma leads_bind (d : Device) (role : String) : Desk.Leads s (r.desk, l) ((r.bind s d role).2.desk, l) := by
  rw [bind]
  split
  · exact .refl _
  · next info _ => exact leads_savedWith { r with
      roles := r.roles.insert role ⟨role, d, []⟩
      metadata := { r.metadata with deviceInfo := r.metadata.deviceInfo.insert role info } } s l 0

lemma leads_select (a : SelectArguments) : Desk.Leads s (r.desk, l) ((r.select s a).2.desk, l) := by
  rw [select]
  dsimp only
  split
  · exact .refl _
  · exact r.leads_bind s l _ _
  · dsimp only
    exact .of_eq ((r.modifies_prompt _).desk (by decide)) l

/-! ## The end of a run -/

lemma desk_halt : r.halt.desk = ⟨false, r.writers, [], r.log, r.files⟩ := by
  have hcancel := (modifies_cancel { r with state := .stopped }).desk (by decide)
  have hclear := (({ r with state := .stopped } : Run).cancel.modifies_clearPrompts).desk (by decide)
  have hsame : (({ r with state := .stopped } : Run).cancel.clearPrompts).desk =
      ⟨false, r.writers, r.routes, r.log, r.files⟩ := hclear.trans hcancel
  exact congrArg (fun d : Desk => { d with routes := [] }) hsame

lemma desk_releaseFiles :
    r.releaseFiles.desk = { r.desk with writers := [], log := none, files := r.desk.released } := rfl

lemma leads_stop (error : Option ScenarioError) : Desk.Leads s (r.desk, l) ((r.stop s error).desk, l) := by
  rw [stop]
  split
  · exact .refl _
  · have hfall : (r.halt.releaseFiles).desk = ⟨false, [], [], none, r.desk.released⟩ := by
      rw [desk_releaseFiles, desk_halt]
      rfl
    have hsensors := (r.halt.releaseFiles.modifies_releaseSensors s).desk (by decide)
    have hsaved := (r.halt.releaseFiles.releaseSensors s).leads_saveMetadata s l
    rw [hsensors, hfall] at hsaved
    dsimp only
    generalize ((r.halt.releaseFiles.releaseSensors s).saveMetadata s).2 = q at hsaved
    exact (Desk.Leads.single .fall).trans hsaved

lemma leads_finishBranch (t : Task) : Desk.Leads s (r.desk, l) ((r.finishBranch s t).desk, l) := by
  have hresolve := (r.modifies_resolve t.done 0).desk (by decide)
  rw [finishBranch]
  split
  · exact (Desk.Leads.of_eq hresolve l).trans (leads_stop _ s l none)
  · exact .of_eq hresolve l

lemma leads_failBranch (t : Task) (e : ScenarioError) :
    Desk.Leads s (r.desk, l) ((r.failBranch s t e).desk, l) := by
  have hresolve := (r.modifies_resolve t.done 0).desk (by decide)
  cases e with
  | cancelled => exact .refl _
  | _ => exact (Desk.Leads.of_eq hresolve l).trans (leads_stop _ s l _)

lemma desk_suspend (i : Nat) (p : Point) (a : Await) (resumption : Resumption) :
    (r.suspend i p a resumption).desk = r.desk := by
  rw [suspend]
  split <;> rfl

lemma leads_follow (i : Nat) (t : Task) (p : Point) (node : Node) (outcome : Outcome) :
    Desk.Leads s (r.desk, l) ((r.follow s i t p node outcome).desk, l) := by
  cases outcome with
  | done code =>
    rw [follow]
    split
    · exact .refl _
    · exact r.leads_finishBranch s l t
  | fails e => exact r.leads_failBranch s l t e
  | waits a resumption => exact .of_eq (r.desk_suspend i p a resumption) l

/-! ## Records and notes -/

lemma openRecord_desk (a : RecordArguments) (sensors : List String) :
    (r.openRecord s a sensors).1 = (r.desk.openRecord s a sensors).1 ∧
      (r.openRecord s a sensors).2.desk = (r.desk.openRecord s a sensors).2 := by
  have hwriters : r.desk.writers.contains a.name = r.writers.contains a.name := rfl
  have hfiles : r.desk.files = r.files := rfl
  rw [openRecord, Desk.openRecord, hwriters, hfiles]
  split
  · exact ⟨rfl, rfl⟩
  · dsimp only
    cases RecordWriter.create
        (FileLogger.new s.folder a.name recordExtension s.config.loggerBufferCount) recordDescriptor r.files with
    | mk result rest => cases result <;> exact ⟨rfl, rfl⟩

lemma createRecord_desk (a : RecordArguments) :
    (r.createRecord s a).1 = (r.desk.create s a).1 ∧ (r.createRecord s a).2.desk = (r.desk.create s a).2 := by
  rw [createRecord, Desk.create]
  cases a.sensors.getD [] with
  | nil => exact ⟨rfl, rfl⟩
  | cons first others =>
    dsimp only
    split
    · exact ⟨rfl, rfl⟩
    · obtain ⟨hresult, hdesk⟩ := r.openRecord_desk s a (first :: others)
      rw [← hresult, ← hdesk]
      cases r.openRecord s a (first :: others) with
      | mk result q => cases result <;> exact ⟨rfl, rfl⟩

/-- Whether a record can be opened does not depend on the point that is noted. -/
lemma createRecord_point (a : RecordArguments) (p : Option Point) :
    (({ r with point := p } : Run).createRecord s a).1 = (r.createRecord s a).1 :=
  (createRecord_desk { r with point := p } s a).1.trans (r.createRecord_desk s a).1.symm

lemma booked_createRecord {a : RecordArguments} (hup : r.state ≠ .stopped)
    (hopens : (r.createRecord s a).1 = .ok ()) :
    ((r.createRecord s a).2.desk, l.take (.record .create a)) = (r.desk, l) ∨
      Desk.Booked s (r.desk, l) ((r.createRecord s a).2.desk, l.take (.record .create a)) := by
  obtain ⟨hresult, hdesk⟩ := r.createRecord_desk s a
  rw [hdesk]
  exact Desk.booked_create l (by simpa [desk] using hup) (hresult.symm.trans hopens)

lemma leads_closeRecord (name : String) :
    Desk.Leads s (r.desk, l) ((r.closeRecord name).2.desk, l.mark name fun e => { e with isOpen := false }) := by
  have hbooked : Desk.Leads s (r.desk, l) _ := .single (.close name)
  rw [closeRecord]
  cases hw : r.writers.get? name with
  | none =>
    rw [show r.desk.writers.get? name = none from hw] at hbooked
    exact hbooked
  | some w =>
    rw [show r.desk.writers.get? name = some w from hw] at hbooked
    exact hbooked

lemma leads_changeRecord (op : RecordOp) {a : RecordArguments} (hup : r.state ≠ .stopped)
    (hopens : op = .create → (r.createRecord s a).1 = .ok ()) :
    Desk.Leads s (r.desk, l) ((r.changeRecord s op a).2.desk, l.take (.record op a)) := by
  cases op with
  | create =>
    obtain hsame | hbooked := r.booked_createRecord s l hup (hopens rfl)
    · exact hsame ▸ .refl _
    · exact .single hbooked
  | close => exact r.leads_closeRecord s l a.name
  | pause => exact .single (.pause a.name true)
  | unpause => exact .single (.pause a.name false)
  | annotate => exact .refl _

lemma leads_record (op : RecordOp) {a : RecordArguments} (hup : r.state ≠ .stopped)
    (hopens : op = .create → (r.createRecord s a).1 = .ok ()) :
    Desk.Leads s (r.desk, l) ((r.record s op a).2.desk, l.take (.record op a)) := by
  have hchange := r.leads_changeRecord s l op hup hopens
  rw [record]
  split
  · next h => simpa [h] using hchange
  · next q h =>
    rw [h] at hchange
    dsimp only
    split
    · exact hchange.trans (leads_saved q s _ (q.modifies_updateMetadata _) (by decide) 0)
    · exact hchange.trans (q.leads_savedWith s _ 0)

lemma leads_logInfo (message : String) (hup : r.state ≠ .stopped) :
    Desk.Leads s (r.desk, l) ((r.logInfo s message).2.desk, l) := by
  have hdesk : r.desk.isUp = true := by simpa [desk] using hup
  have hnote : Desk.Leads s (r.desk, l) _ := .single (.note hdesk (Utf8.encode (message.toList ++ ['\n'])))
  rw [logInfo]
  dsimp only
  split <;> exact hnote

/-! ## Steps of tasks -/

lemma desk_spawn (branch : String) (done token : Nat) (p : Point) :
    (r.spawn branch done token p).desk = r.desk :=
  (modifies_enqueue { r with tasks := r.tasks ++ [⟨branch, done, token, .entering p⟩] } _).desk (by decide)

lemma desk_spawnBranch (branch : String) (token : Nat) (p : Point) :
    (r.spawnBranch branch token p).desk = r.desk :=
  (desk_spawn _ branch _ token p).trans ((r.modifies_registerBranch branch).desk (by decide))

lemma leads_execute (v : Visit) {a : Action} (hup : r.state ≠ .stopped)
    (hopens : ∀ b, a = .record .create b → (r.createRecord s b).1 = .ok ()) :
    Desk.Leads s (r.desk, l) ((r.execute s v a).2.desk, l.take a) := by
  have hkeeps {fs : List RunField} {q : Run} (h : Modifies fs r q) (hfs : ∀ f ∈ deskFields, f ∉ fs) :
      Desk.Leads s (r.desk, l) (q.desk, l) := .of_eq (h.desk hfs) l
  cases a with
  | nop => exact .refl _
  | fork branch =>
    show Desk.Leads s (r.desk, l) ((r.fork v branch).2.desk, l)
    rw [fork]
    split
    · exact .refl _
    · exact .of_eq (r.desk_spawnBranch branch v.token _) l
  | join a => exact .of_eq (congrArg desk (r.join_run v a)) l
  | abort info => exact leads_stop (r.updateMetadata fun m => { m with abort := some info }) s l _
  | waitDelay seconds => exact .of_eq (congrArg desk (r.sleep_run seconds 0)) l
  | waitNext => exact hkeeps (r.modifies_promptThen _ _) (by decide)
  | waitOption a => exact hkeeps (r.modifies_promptThen _ _) (by decide)
  | screenSleep enable => exact hkeeps (r.modifies_promptThen _ _) (by decide)
  | display primitive a => exact hkeeps (r.modifies_display s v primitive a) (by decide)
  | progress a => exact hkeeps (r.modifies_emit _) (by decide)
  | event op a => exact hkeeps (r.modifies_event op a) (by decide)
  | counter op a => exact hkeeps (r.modifies_counter op a) (by decide)
  | metadataSet key value => exact leads_saved r s l (r.modifies_updateMetadata _) (by decide) 0
  | logInfo message => exact r.leads_logInfo s l message hup
  | record op a =>
    refine r.leads_record s l op hup fun hop => ?_
    subst hop
    exact hopens a rfl
  | select a => exact r.leads_select s l a
  | setConfig roles pairs => exact leads_saved r s l (r.modifies_mergeRoles _ _) (by decide) 0
  | dumpConfig roles keys => exact leads_saved r s l (r.modifies_updateMetadata _) (by decide) 0
  | pauseSensor paused roles => exact leads_saved r s l (r.modifies_mergeRoles _ _) (by decide) 0
  | startSensor a => exact hkeeps (r.modifies_startSensors s a) (by decide)
  | stopSensor a => exact hkeeps (r.modifies_stopSensors s a) (by decide)
  | deviceRecord primitive => exact .refl _

lemma state_of_isLive {r : Run} {token : Nat} (h : r.isLive token = true) : r.state ≠ .stopped := by
  have hrunning : r.state = .running := by
    rw [isLive] at h
    simpa using (Bool.and_eq_true_iff.mp h).2
  rw [hrunning]
  decide

lemma leads_enter (i : Nat) (t : Task) (p : Point)
    (hopens : ∀ a, r.action? s t p = some (.record .create a) → (r.createRecord s a).1 = .ok ()) :
    Desk.Leads s (r.desk, l) ((r.enter s i t p).desk, (r.action? s t p).elim l l.take) := by
  -- The desk does not know of the point.
  have hpoint : ({ r with point := some p } : Run).desk = r.desk := rfl
  have hcreate (a : RecordArguments) := r.createRecord_point s a (some p)
  rw [enter, ← hpoint]
  dsimp only
  generalize hq : ({ r with point := some p } : Run) = q at hcreate
  have hlive : q.isLive t.token = r.isLive t.token := by rw [← hq]; rfl
  rw [action?, ← hlive] at hopens ⊢
  cases hcase : q.isLive t.token with
  | false => exact .refl _
  | true =>
    rw [hcase] at hopens
    rw [if_neg (by simp), if_pos rfl]
    rw [if_pos rfl] at hopens
    generalize s.definition.node? p.node = node? at hopens ⊢
    cases node? with
    | none => exact q.leads_finishBranch s l t
    | some node =>
      dsimp only [Option.bind_some] at hopens ⊢
      generalize Action.ofNode node = action at hopens ⊢
      cases action with
      | error e => exact q.leads_follow s l i t p node _
      | ok a =>
        dsimp only at hopens ⊢
        by_cases hends : a.endsBranch t.branch = true
        · rw [if_pos hends, if_pos hends]
          exact .of_eq ((q.modifies_resolve t.done 0).desk (by decide)) l
        · rw [if_neg hends] at hopens
          rw [if_neg hends, if_neg hends]
          have hexecute := q.leads_execute s l ⟨t.branch, p.node, node, t.token⟩ (state_of_isLive hcase)
            fun b hb => (hcreate b).trans (hopens b (congrArg some hb))
          exact hexecute.trans (leads_follow _ s _ i t p node _)

lemma leads_proceed (result : Except ScenarioError Int) (resumption : Resumption) :
    Desk.Leads s (r.desk, l) ((r.proceed s result resumption).2.desk, l) := by
  cases result with
  | error e => exact .refl _
  | ok value =>
    cases resumption with
    | code code => exact .refl _
    | answer => exact .refl _
    | display rest => exact .of_eq ((r.modifies_showStages rest).desk (by decide)) l
    | bind candidates role =>
      show Desk.Leads s (r.desk, l) ((r.bindChosen s candidates role value).2.desk, l)
      rw [bindChosen]
      split
      · exact r.leads_bind s l _ role
      · exact .refl _

lemma leads_leaveWait (i : Nat) (t : Task) (p : Point) (a : Await) (resumption : Resumption)
    (result : Except ScenarioError Int) :
    Desk.Leads s (r.desk, l) ((r.leaveWait s i t p a resumption result).desk, l) := by
  have hend := (({ r with agenda := r.agenda.dropTimers (r.taskId i) } : Run).modifies_endWait a).desk (by decide)
  rw [leaveWait]
  dsimp only
  generalize ({ r with agenda := r.agenda.dropTimers (r.taskId i) } : Run).endWait a = q at hend
  have hproceed := (Desk.Leads.of_eq hend l).trans (q.leads_proceed s l result resumption)
  split
  · exact hproceed.trans (leads_follow _ s l i t p _ _)
  · exact hproceed

lemma leads_step (i : Nat)
    (hopens : ∀ a, r.taken? s (.step i) = some (.record .create a) → (r.createRecord s a).1 = .ok ()) :
    Desk.Leads s (r.desk, l) (((r.step? s i).getD r).desk, (r.taken? s (.step i)).elim l l.take) := by
  rw [taken?] at hopens ⊢
  cases ht : r.tasks[i]? with
  | none =>
    rw [step?, ht]
    exact .refl _
  | some t =>
    rw [ht] at hopens
    dsimp only [Option.bind_some] at hopens ⊢
    cases hstatus : t.status with
    | entering p =>
      rw [hstatus] at hopens
      rw [step?_entering s ht hstatus]
      exact r.leads_enter s l i t p hopens
    | waiting p a resumption =>
      rw [step?_waiting s ht hstatus]
      cases r.waitResult? t.token a with
      | none => exact .refl _
      | some result => exact r.leads_leaveWait s l i t p a resumption result
    | ended =>
      rw [step?_ended s ht hstatus]
      exact .refl _

/-! ## Samples -/

lemma desk_writeSample (x : PhoneSample) (name : String) :
    (r.writeSample x.frame (.uint x.timestamp) (x.values.map fun v => .float v.toDouble) name).desk =
      r.desk.deliver x name := by
  rw [writeSample, Desk.deliver]
  cases hw : r.writers.get? name with
  | none => rw [show r.desk.writers.get? name = none from hw]
  | some w =>
    rw [show r.desk.writers.get? name = some w from hw]
    rfl

lemma leads_sample (role sensor : String) (timestamp : UInt64) (values : List Single) :
    Desk.Leads s (r.desk, l)
      ((r.sample role sensor timestamp values).desk, l.map fun e => e.offer r role sensor timestamp values) := by
  have hkeep (h : ∀ e : LedgerEntry, e.offer r role sensor timestamp values = e) :
      (l.map fun e => e.offer r role sensor timestamp values) = l :=
    (List.map_congr_left fun e _ => h e).trans (List.map_id l)
  rw [sample]
  cases hframe : SensorType.frameId? sensor with
  | none =>
    rw [hkeep fun e => by rw [LedgerEntry.offer, hframe]]
    exact .refl _
  | some frame =>
    cases hrole : (r.roles.get? role).any (·.isPaused) with
    | true =>
      rw [hkeep fun e => by simp [LedgerEntry.offer, hframe, LedgerEntry.takes, hrole]]
      exact .refl _
    | false =>
      obtain ⟨x, hx⟩ : ∃ x : PhoneSample, x = ⟨frame, timestamp, values⟩ := ⟨_, rfl⟩
      have hoffer : (fun e : LedgerEntry => e.offer r role sensor timestamp values) = r.desk.receive x sensor := by
        funext e
        rw [LedgerEntry.offer, hframe, hx]
        simp [LedgerEntry.takes, hrole, Desk.receive, Desk.holds, desk]
      have hdesk : (((r.routes.get? sensor).getD []).foldl (fun r name =>
          r.writeSample x.frame (.uint x.timestamp) (x.values.map fun v => .float v.toDouble) name) r).desk =
          r.desk.sample x sensor :=
        (List.foldl_hom desk fun q name => (q.desk_writeSample x name).symm).symm
      have hbooked : Desk.Leads s (r.desk, l) _ :=
        .single (.sample x sensor (by rw [hframe, hx]))
      rw [← hdesk, ← hoffer, hx] at hbooked
      exact hbooked

/-! ## All moves -/

lemma desk_reset : (r.reset s).desk = ⟨true, [], [], none, r.desk.released⟩ := by
  have hclear := (r.modifies_clearPrompts).desk (by decide)
  rw [← hclear]
  rfl

lemma leads_start :
    Desk.Leads s (r.desk, l) ((r.start s).2.desk, if r.state = .stopped then l.closed else l) := by
  rw [start]
  by_cases hstate : r.state = .stopped
  · have hrise : Desk.Leads s (r.desk, l) ((r.reset s).desk, l.closed) :=
      r.desk_reset s ▸ .single (.rise (by simp [desk, hstate]))
    have hfolder := hrise.trans ((r.reset s).leads_createFolder s l.closed)
    rw [if_neg (not_not_intro hstate), if_pos hstate]
    split
    · -- The folder cannot be made, and the run stops at once.
      next q hq =>
      rw [hq] at hfolder
      have hmodifies := (r.reset s).modifies_createFolder s
      rw [hq] at hmodifies
      have hwriters : q.writers = [] := hmodifies .writers (by decide)
      have hroutes : q.routes = [] := hmodifies .routes (by decide)
      have hlog : q.log = none := hmodifies .log (by decide)
      have hstop : ({ q.cancel with state := .stopped } : Run).desk = ⟨false, [], [], none, q.desk.released⟩ := by
        have hcancel := (q.modifies_cancel).desk (by decide)
        have hreleased : q.desk.released = q.files := by simp [Desk.released, desk, hlog, hwriters, Desk.closeAll]
        rw [hreleased]
        refine (congrArg (fun d : Desk => { d with isUp := false }) hcancel).trans ?_
        simp [desk, hwriters, hroutes, hlog]
      exact hfolder.trans (hstop ▸ .single .fall)
    · next q hq =>
      rw [hq] at hfolder
      have hspawn := desk_spawnBranch (({ q with finished := none } : Run).emit (.state .running)) mainBranch q.token
        ⟨s.entry, none⟩
      exact hfolder.trans (.of_eq hspawn _)
  · rw [if_pos hstate, if_neg hstate]
    exact .refl _

lemma leads_pause : Desk.Leads s (r.desk, l) ((r.pause s).desk, l) := by
  rw [pause]
  split
  · exact .refl _
  · next hstate =>
    have hrunning : r.state = .running := by simpa using hstate
    have hcancel := (modifies_cancel { r with state := .paused }).desk (by decide)
    have hpaused : ({ r with state := .paused } : Run).desk = r.desk := by simp [desk, hrunning]
    exact (Desk.Leads.of_eq (hcancel.trans hpaused) l).trans (leads_saveMetadata _ s l)

lemma desk_branchSignal (branch : String) : (r.branchSignal branch).2.desk = r.desk := by
  have hregister := (r.modifies_registerBranch branch).desk (by decide)
  rw [branchSignal]
  split
  · split
    · exact hregister
    · rfl
  · exact hregister

lemma desk_resume : (r.resume s).desk = r.desk := by
  rw [resume]
  split
  · rfl
  · next hstate =>
    have hpaused : r.state = .paused := by simpa using hstate
    have hrenew : (({ r with state := .running } : Run).renew.emit (.state .running)).desk = r.desk := by
      have hup : r.desk = ⟨true, r.writers, r.routes, r.log, r.files⟩ := by simp [desk, hpaused]
      rw [hup]
      rfl
    have hsignal := desk_branchSignal (({ r with state := .running } : Run).renew.emit (.state .running)) mainBranch
    exact (desk_spawn _ mainBranch _ _ _).trans (hsignal.trans hrenew)

/-- What a move does is a sequence of bookings. -/
lemma leads_after {m : Move} (h : r.Admissible s m) :
    Desk.Leads s (r.desk, l) ((r.after s m).desk, l.after s r m) := by
  cases m with
  | start => exact r.leads_start s l
  | pause => exact r.leads_pause s l
  | resume => exact .of_eq (r.desk_resume s) l
  | stop error => exact r.leads_stop s l error
  | answer id a => exact .of_eq ((r.modifies_answer id a).desk (by decide)) l
  | sample role sensor timestamp values => exact r.leads_sample s l role sensor timestamp values
  | step i => exact r.leads_step s l i h.opens
  | others shared =>
    have hfiles : shared.files = r.files := h.alone shared rfl
    exact .of_eq (congrArg (fun files => { r.desk with files }) hfiles) l

lemma leads_afterAll {moves : List Move} (h : r.AllAdmissible s moves) :
    Desk.Leads s (r.desk, l) ((r.afterAll s moves).desk, l.afterAll s r moves) := by
  induction moves generalizing r l with
  | nil => exact .refl _
  | cons m rest ih => exact (r.leads_after s l h.1).trans (ih _ _ h.2)

/-! ## Records of a run that has stopped -/

/-- Before a run has started there is nothing to disagree on. -/
lemma desk_sound_newRun (x : Ensemble)
    (hfiles : ∀ p id, x.files.find? p = some (.file id) → id < x.files.contents.length) :
    (x.newRun s).desk.Sound s x.files [] where
  files := ⟨Nat.le_refl _, hfiles, fun p q id hid hp _ => absurd (hfiles p id hp) (Nat.not_lt_of_le hid)⟩
  sorted := Dict.sorted_nil
  down _ := ⟨rfl, rfl, rfl⟩
  owner name w hw := by cases hw
  nodup _ := List.nodup_nil
  routed sensor name := by simp [Desk.route, desk, Ensemble.newRun, Ensemble.lend, initial]
  entry e he := by cases he
  log lg hlg := by cases hlg
  known p id hp := .inl (by simp [FileStore.read?_of_find? (show x.files.find? p = some (.file id) from hp)])

/-- Once a run has stopped, the file of each record that it has created holds a header and exactly the samples of
the ledger. -/
theorem records_hold_routed_samples (x : Ensemble) (s : Setup) (moves : List Move)
    (hfiles : ∀ p id, x.files.find? p = some (.file id) → id < x.files.contents.length)
    (hmoves : (x.newRun s).AllAdmissible s moves) :
    let r := (x.newRun s).afterAll s moves
    let l := Ledger.afterAll s (x.newRun s) [] moves
    RecordsApart s x.files r.files l.names → r.state = .stopped →
      ∀ e ∈ l, ∃ p, r.files.locate s.folder (recordFile e.name) = .ok p ∧ r.files.read? p = some e.image := by
  intro r l hapart hstopped e he
  have hsound : r.desk.Sound s x.files l :=
    (desk_sound_newRun s x hfiles).leads ((x.newRun s).leads_afterAll s [] hmoves) hapart
  obtain ⟨p, id, hplaced, -, hshut⟩ := hsound.entry e he
  have hdown : r.desk.holds e = false := by simp [Desk.holds, desk, hstopped]
  have hread : r.files.read? p = some (r.files.bytes id) := FileStore.read?_of_find? hplaced.find
  exact ⟨p, hplaced.place, hread.trans (congrArg some (hshut hdown))⟩

/-- A run whose first node creates a record of the accelerometer, with a sample of it and one of the gyroscope before
it is stopped. -/
theorem records_hold_routed_samples_walk :
    let create : Node :=
      { Node.ofPrimitive .recordCreate with
        arguments := .obj [("name", .str "walk"), ("sensors", .str SensorType.acc)], next := [some "b"] }
    let s : Setup :=
      { definition :=
          { scenarioId := 1
            content := { entry := "a", nodes := [("a", create), ("b", Node.ofPrimitive .waitNext)] } }
        folder := ["run"] }
    let x : Ensemble := { files := {} }
    let one : Single := ⟨0x3f800000⟩
    let moves : List Move :=
      [.start, .step 0, .sample "main" SensorType.acc 5 [one], .sample "main" SensorType.gyr 6 [one], .stop none]
    let r := (x.newRun s).afterAll s moves
    let l := Ledger.afterAll s (x.newRun s) [] moves
    l.map (fun e => (e.name, e.samples)) = [("walk", [⟨Phone.accId, 5, [one]⟩])] ∧
      ∀ e ∈ l, ∃ p, r.files.locate s.folder (recordFile e.name) = .ok p ∧ r.files.read? p = some e.image := by
  intro create s x one moves r l
  have hentries : l.map (fun e => (e.name, e.samples)) = [("walk", [⟨Phone.accId, 5, [one]⟩])] := by decide +kernel
  have hstopped : r.state = .stopped := by decide +kernel
  have hnames : l.names = ["walk"] := by decide +kernel
  have hplace : r.files.locate s.folder (recordFile "walk") = .ok ["run", "walk.bin"] := by decide +kernel
  have hlog : r.files.locate s.folder logFile = .ok ["run", "acquisition.log"] := by decide +kernel
  have htaken : ((x.newRun s).after s .start).taken? s (.step 0) =
      some (.record .create ⟨"walk", none, some [SensorType.acc], none, false⟩) := rfl
  have hcreate : (((x.newRun s).after s .start).createRecord s
      ⟨"walk", none, some [SensorType.acc], none, false⟩).1 = .ok () := by decide +kernel
  have hempty (p : Path) (id : Nat) : x.files.find? p ≠ some (.file id) := by
    simp only [x, FileStore.find?]
    split <;> simp
  have hplain {q : Run} {m : Move} (halone : ∀ shared, m ≠ .others shared) (hnone : q.taken? s m = none) :
      q.Admissible s m :=
    ⟨fun shared h => absurd h (halone shared), fun a h => by rw [hnone] at h; cases h⟩
  have hfirst : ((x.newRun s).after s .start).Admissible s (.step 0) := by
    refine ⟨fun shared h => (by cases h), fun a h => ?_⟩
    rw [htaken] at h
    obtain rfl : _ = a := by simpa using h
    exact hcreate
  have hmoves : (x.newRun s).AllAdmissible s moves :=
    ⟨hplain (by simp) rfl, hfirst, hplain (by simp) rfl, hplain (by simp) rfl, hplain (by simp) rfl, trivial⟩
  have hapart : RecordsApart s x.files r.files l.names := by
    rw [hnames]
    refine ⟨by simp, fun n hn n' hn' _ _ _ => ?_, fun n hn p hp => ?_, fun n _ p _ => ?_⟩
    · exact (List.mem_singleton.mp hn).trans (List.mem_singleton.mp hn').symm
    · obtain rfl := List.mem_singleton.mp hn
      rw [hplace] at hp
      obtain rfl := Except.ok.inj hp
      rw [hlog]
      decide
    · rw [FileStore.read?]
      split
      · next id hid => exact absurd hid (hempty p id)
      · rfl
  exact ⟨hentries,
    records_hold_routed_samples x s moves (fun p id hp => absurd hp (hempty p id)) hmoves hapart hstopped⟩

end Run

end FieldStudy
