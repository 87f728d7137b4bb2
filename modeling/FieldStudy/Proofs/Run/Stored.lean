import Mathlib.Data.List.Basic
import Mathlib.Tactic.Common
import FieldStudy.Proofs.Run.Accounts
import FieldStudy.Proofs.Run.Routing
import FieldStudy.Proofs.Run.SharedFiles
import FieldStudy.Proofs.Run.Storable

/-!
# Metadata and their file

Once a run has started, the file of its metadata holds the text of the document that the run has in memory
(`Run.Stored`).  Most of what a run does touches neither the one nor the other; what changes the document stores it
before the step ends, and a failure that does not is the end of the run, which stores it.  Samples and notes go to files
of other names, and other runs have folders of their own (`Run.Apart`).

Loading the file gives that document back as far as its values survive being written and read (`Run.metadata_on_disk`);
some floating point numbers do not (`Run.metadata_reread_differs`).
-/

namespace FieldStudy

lemma FileStore.Sound.numbered {files : FileStore} {n : Nat} (h : files.Sound n) : files.Numbered := h.lt

namespace Documented

variable {s : Setup} {files files' : FileStore}

/-- No record has its file where the metadata have theirs, whatever names there are. -/
lemma ne_record (h : Documented s files) (files' : FileStore) (name : String) :
    files'.locate s.folder (Run.recordFile name) ≠ .ok (s.folder ++ [Metadata.file]) :=
  fun hplace => Desk.place_ne_document hplace (.inl rfl) h.place rfl

/-- The log has a file of its own. -/
lemma ne_log (h : Documented s files) (files' : FileStore) :
    files'.locate s.folder Run.logFile ≠ .ok (s.folder ++ [Metadata.file]) :=
  recordFile_logFile ▸ h.ne_record files' Run.logFile

lemma read?_eq (h : Documented s files) : files.read? (s.folder ++ [Metadata.file]) =
    some (files.contentsAt (s.folder ++ [Metadata.file])) := by
  obtain ⟨id, hfile⟩ := h.file
  rw [FileStore.contentsAt, FileStore.read?_of_find? hfile]
  rfl

end Documented

namespace Desk.Filed

variable {s : Setup} {d : Desk} {l : Ledger} {p : Path} {x : PhoneSample} {sensor : String}

/-- Samples leave the contents of a file as they are that no record has. -/
lemma contentsAt_deliver_all (h : d.Filed s l) (hframe : SensorType.frameId? sensor = some x.frame)
    (hplace : ∀ (files : FileStore) name, files.locate s.folder (Run.recordFile name) ≠ .ok p) (names : List String) :
    (names.foldl (Desk.deliver x) d).files.contentsAt p = d.files.contentsAt p := by
  induction names generalizing d with
  | nil => rfl
  | cons name rest ih =>
    refine (ih (h.deliver hframe name)).trans ?_
    cases hw : d.writers.get? name with
    | none => rw [Desk.deliver, hw]
    | some w =>
      obtain ⟨e, he, rfl, -, htends⟩ := h.owner name w hw
      obtain ⟨q, id, w', files', data, hplace', hfind, hwrite, -, happended⟩ :=
        htends.write h.files hframe x.timestamp x.values
      have hpq : p ≠ q := fun heq => hplace d.files e.name (heq ▸ hplace')
      rw [deliver_of_get? hw hwrite]
      exact happended.contentsAt_of_ne h.files hfind hpq

end Desk.Filed

namespace Run

variable {r r' q : Run} {s : Setup} {l : Ledger} {i : Nat} {t : Task} {p : Point} {turn : Turn}

/-- The metadata have a file, which holds what the run has in memory. -/
structure Stored (s : Setup) (r : Run) : Prop where
  documented : Documented s r.files
  contents : r.files.read? (s.folder ++ [Metadata.file]) = some (Utf8.encode r.metadata.text.toList)

namespace Stored

lemma of_modifies {fs : List RunField} (h : r.Stored s) (hq : Modifies fs r q)
    (hfs : ∀ f ∈ [RunField.metadata, .files], f ∉ fs) : q.Stored s := by
  have hmetadata : q.metadata = r.metadata := hq .metadata (hfs _ (by decide))
  have hfiles : q.files = r.files := hq .files (hfs _ (by decide))
  exact ⟨hfiles ▸ h.documented, by rw [hfiles, hmetadata, h.contents]⟩

/-- Files change, but not the contents of this one. -/
lemma refile (h : r.Stored s) (hdocumented : Documented s q.files) (hmetadata : q.metadata = r.metadata)
    (hcontents : q.files.contentsAt (s.folder ++ [Metadata.file]) =
      r.files.contentsAt (s.folder ++ [Metadata.file])) : q.Stored s := by
  refine ⟨hdocumented, ?_⟩
  rw [hdocumented.read?_eq, hcontents, ← h.documented.read?_eq, hmetadata, h.contents]

end Stored

/-! ## Whatever stores the metadata -/

lemma stored_of_save (h : Documented s r.files) : (r.saveMetadata s).2.Stored s :=
  ⟨(r.leads_saveMetadata s []).documented h, stored_saveMetadata h⟩

lemma savedWith_run (r : Run) (s : Setup) (code : Int) : (r.savedWith s code).2 = (r.saveMetadata s).2 := by
  rw [savedWith]
  split <;> next hsave => rw [hsave]

lemma stored_savedWith (h : Documented s r.files) (code : Int) : (r.savedWith s code).2.Stored s :=
  r.savedWith_run s code ▸ stored_of_save h

/-- Storing follows upon a change of the metadata. -/
lemma stored_of_change {fs : List RunField} (h : r.Stored s) (hq : Modifies fs r q) (hfs : RunField.files ∉ fs)
    (code : Int) : (q.savedWith s code).2.Stored s :=
  have hfiles : q.files = r.files := hq .files hfs
  stored_savedWith (hfiles ▸ h.documented) code

/-- The end of a run stores the metadata, even those that had not been stored before. -/
lemma stored_of_stop (h : Documented s r.files) (hstate : r.state ≠ .stopped) (error : Option ScenarioError) :
    (r.stop s error).Stored s := by
  have hreleased : (r.halt.released s).Stored s := stored_of_save (documented_halt h)
  rw [r.stop_eq s error hstate]
  exact hreleased.of_modifies (modifies_reported _ error) (by decide)

lemma stored_stop (h : r.Stored s) (error : Option ScenarioError) : (r.stop s error).Stored s := by
  by_cases hstate : r.state = .stopped
  · rw [stop, if_pos hstate]
    exact h
  · exact stored_of_stop h.documented hstate error

lemma stored_pause (h : r.Stored s) : (r.pause s).Stored s := by
  rw [pause]
  split
  · exact h
  · have hset : Modifies pauseFields r { r with state := .paused } := by
      intro f hf
      cases f <;> first | rfl | simp [pauseFields] at hf
    have hfiles : ({ r with state := .paused } : Run).cancel.files = r.files :=
      modifies_cancel { r with state := .paused } .files (by decide)
    have hsaved : (({ r with state := .paused } : Run).cancel.saveMetadata s).2.Stored s :=
      stored_of_save (by rw [hfiles]; exact h.documented)
    exact hsaved.of_modifies (modifies_emit _ _) (by decide)

/-! ## Actions -/

lemma stored_bind (h : r.Stored s) (d : Device) (role : String) : (r.bind s d role).2.Stored s := by
  rw [bind]
  split
  · exact h
  · refine stored_savedWith ?_ 0
    exact h.documented

lemma stored_select (h : r.Stored s) (a : SelectArguments) : (r.select s a).2.Stored s := by
  rw [select]
  dsimp only
  split
  · exact h
  · exact stored_bind h _ _
  · dsimp only
    exact h.of_modifies (r.modifies_prompt _) (by decide)

/-- Closing a record never fails: either its file is open, or there is nothing to write. -/
lemma closeRecord_ok (r : Run) (name : String) : (r.closeRecord name).1 = .ok () := by
  rw [closeRecord]
  dsimp only
  split
  · rfl
  · next w hw =>
    have hclose : (w.sink.close r.files).1 = .ok () := by
      rw [FileLogger.close]
      split
      · rfl
      · next id hid =>
        have hflush : (w.sink.flush r.files).1 = .ok () := by
          rw [FileLogger.flush]
          split
          · rfl
          · simp [FileLogger.openFile, hid]
        exact hflush
    show (((w.sink.close r.files).1.mapError _).mapError _ : Except ScenarioError Unit) = _
    rw [hclose]
    rfl

/-- A record that cannot be opened is not noted. -/
lemma metadata_createRecord {a : RecordArguments} (h : (r.createRecord s a).1 ≠ .ok ()) :
    (r.createRecord s a).2.metadata = r.metadata := by
  rw [createRecord] at h ⊢
  generalize a.sensors.getD [] = sensors at h ⊢
  cases sensors with
  | nil => rfl
  | cons first others =>
    dsimp only at h ⊢
    split
    · next hmic => exact absurd (by rw [if_pos hmic]) h
    · next hmic =>
      have hopen : (r.openRecord s a (first :: others)).2.metadata = r.metadata :=
        r.modifies_openRecord s a (first :: others) .metadata (by decide)
      rw [if_neg hmic] at h
      cases hresult : r.openRecord s a (first :: others) with
      | mk result q =>
        rw [hresult] at h hopen
        cases result with
        | ok done => exact absurd rfl h
        | error e => exact hopen

lemma changeRecord_ok (op : RecordOp) {a : RecordArguments} (hcreate : op = .create → (r.createRecord s a).1 = .ok ()) :
    (r.changeRecord s op a).1 = .ok () := by
  cases op with
  | create => exact hcreate rfl
  | close => exact r.closeRecord_ok a.name
  | _ => rfl

lemma stored_record (h : r.Stored s) (hup : r.state ≠ .stopped) (op : RecordOp) (a : RecordArguments) :
    (r.record s op a).2.Stored s := by
  by_cases hcreate : op = .create → (r.createRecord s a).1 = .ok ()
  · have hok := changeRecord_ok (r := r) (s := s) op hcreate
    have hdocumented := (r.leads_changeRecord s [] op hup hcreate).documented h.documented
    rw [record]
    generalize r.changeRecord s op a = x at hok hdocumented
    obtain ⟨result, q⟩ := x
    obtain rfl : result = .ok () := hok
    dsimp only
    refine stored_savedWith ?_ 0
    split <;> exact hdocumented
  · obtain ⟨rfl, hfails⟩ := Classical.not_imp.mp hcreate
    have hmetadata := metadata_createRecord hfails
    have hidle := r.desk_createRecord_idle s (a := a)
    rw [record, changeRecord]
    cases hresult : r.createRecord s a with
    | mk result q =>
      rw [hresult] at hfails hmetadata hidle
      cases result with
      | ok done => exact absurd rfl hfails
      | error e =>
        have hdesk : q.desk = r.desk := hidle (.inr rfl)
        have hfiles : q.files = r.files := congrArg Desk.files hdesk
        exact h.refile (by rw [hfiles]; exact h.documented) hmetadata (by rw [hfiles])

lemma stored_logInfo (h : r.Stored s) (hfiled : r.desk.Filed s l) (hup : r.state ≠ .stopped) (message : String) :
    (r.logInfo s message).2.Stored s := by
  have hdocumented := (r.leads_logInfo s [] message hup).documented h.documented
  have hmetadata : (r.logInfo s message).2.metadata = r.metadata :=
    r.modifies_logInfo s message .metadata (by decide)
  refine h.refile hdocumented hmetadata ?_
  obtain ⟨-, -, hothers⟩ := (Desk.IsLog.logger hfiled.log).note hfiled.files (Utf8.encode (message.toList ++ ['\n']))
  obtain ⟨hfind, hbytes⟩ := hothers _ (h.documented.ne_log r.files)
  have hfiles : (r.logInfo s message).2.files =
      ((r.desk.logger s).write (Utf8.encode (message.toList ++ ['\n'])) r.files).2.2 := by
    rw [logInfo]
    dsimp only
    split <;> rfl
  rw [hfiles]
  exact FileStore.contentsAt_congr hfind fun id hid => hbytes id (Nat.zero_le _) hid

/-- An action stores what it changes of the metadata, or fails before it changes anything. -/
lemma stored_execute (h : r.Stored s) (hfiled : r.desk.Filed s l) (hup : r.state ≠ .stopped) (v : Visit) (a : Action) :
    (r.execute s v a).2.Stored s := by
  cases a with
  | nop => exact h
  | fork branch =>
    show (r.fork v branch).2.Stored s
    rw [fork]
    split
    · exact h
    · exact ⟨h.documented, h.contents⟩
  | join a =>
    show (r.join v a).2.Stored s
    rw [r.join_run v a]
    exact h
  | abort info => exact stored_of_stop (r := r.updateMetadata fun m => { m with abort := some info }) h.documented hup _
  | waitDelay seconds =>
    show (r.sleep seconds 0).2.Stored s
    rw [r.sleep_run seconds 0]
    exact h
  | waitNext => exact h.of_modifies (r.modifies_promptThen _ _) (by decide)
  | waitOption a => exact h.of_modifies (r.modifies_promptThen _ _) (by decide)
  | screenSleep enable => exact h.of_modifies (r.modifies_promptThen _ _) (by decide)
  | display primitive a => exact h.of_modifies (r.modifies_display s v primitive a) (by decide)
  | progress a => exact h.of_modifies (r.modifies_emit _) (by decide)
  | event op a => exact h.of_modifies (r.modifies_event op a) (by decide)
  | counter op a => exact h.of_modifies (r.modifies_counter op a) (by decide)
  | metadataSet key value => exact stored_of_change h (r.modifies_updateMetadata _) (by decide) 0
  | logInfo message => exact stored_logInfo h hfiled hup message
  | record op a => exact stored_record h hup op a
  | select a => exact stored_select h a
  | setConfig roles pairs => exact stored_of_change h (r.modifies_mergeRoles _ _) (by decide) 0
  | dumpConfig roles keys => exact stored_of_change h (r.modifies_updateMetadata _) (by decide) 0
  | pauseSensor paused roles => exact stored_of_change h (r.modifies_mergeRoles _ _) (by decide) 0
  | startSensor a => exact h.of_modifies (r.modifies_startSensors s a) (by decide)
  | stopSensor a => exact h.of_modifies (r.modifies_stopSensors s a) (by decide)
  | deviceRecord primitive => exact h

/-! ## Steps -/

lemma Worked.stored (hworked : r.Worked s i t p turn q) (h : r.Stored s) (hfiled : r.desk.Filed s l) : q.Stored s := by
  have hpoint (p : Point) : ({ r with point := some p } : Run).Stored s := ⟨h.documented, h.contents⟩
  cases hworked with
  | enters => exact hpoint p
  | takes hstatus hnode haction =>
    exact stored_execute (hpoint p) hfiled (state_of_isLive (live_of_action? haction)) _ _
  | @goesOn a resumption result hstatus hresult =>
    have hawake : (r.awake i a).Stored s := h.of_modifies (r.modifies_awake i a) (by decide)
    cases result with
    | error e => exact hawake
    | ok value =>
      cases resumption with
      | code code => exact hawake
      | answer => exact hawake
      | display rest => exact hawake.of_modifies (modifies_showStages _ rest) (by decide)
      | bind candidates role =>
        show ((r.awake i a).bindChosen s candidates role value).2.Stored s
        rw [bindChosen]
        split
        · exact stored_bind hawake _ role
        · exact hawake

lemma stored_close (h : r.Stored s) (i : Nat) (t : Task) (p : Point) (turn : Turn) :
    (r.close s i t p turn).Stored s := by
  obtain hmodifies | ⟨error, q, -, hq, hclose⟩ := r.close_cases s i t p turn
  · exact h.of_modifies hmodifies (by decide)
  · rw [hclose]
    exact (stored_stop (h.of_modifies hq (by decide)) error).of_modifies (modifies_setStatus _ i .ended) (by decide)

lemma stored_step (h : r.Stored s) (hfiled : r.desk.Filed s l) (hstep : r.step? s i = some r') : r'.Stored s := by
  obtain ⟨t, p, turn, q, -, -, hworked, rfl⟩ := step_cases hstep
  exact stored_close (hworked.stored h hfiled) i t p turn

/-! ## Starting -/

lemma stored_createFolder (hfiles : r.files.Sound 0) (h : (r.createFolder s).1 = .ok ()) :
    (r.createFolder s).2.Stored s := by
  rw [createFolder] at h ⊢
  cases hfolders : r.files.createFolders s.folder with
  | error e => simp [hfolders] at h
  | ok furnished =>
    have hfurnished := (FileStore.createFoldersFrom_furnished hfolders).sound hfiles
    simp only [hfolders] at h ⊢
    cases hsave : r.metadata.save s.folder furnished with
    | error e => simp [hsave] at h
    | ok saved =>
      obtain ⟨p, i, hreplaced, hsound, -⟩ := FileStore.replaced hfurnished hsave
      obtain rfl := FileStore.locate_document hreplaced.place
      have hread := FileStore.read?_of_write hfurnished hsave hreplaced.place
      simp only [hsave] at h ⊢
      cases hsnapshot : s.definition.saveSnapshot s.folder saved with
      | error e => simp [hsnapshot] at h
      | ok files =>
        have hwithin := FileStore.write_within hsnapshot
        obtain ⟨p, id, hplace, hfile⟩ := FileStore.placed_of_write hsave
        obtain rfl := FileStore.locate_document hplace
        have hsaved : Stored s { r with files := saved } := ⟨⟨hsound.numbered, hplace, id, hfile⟩, hread⟩
        obtain ⟨-, -, -, hsound', -⟩ := FileStore.replaced hsound hsnapshot
        have hdocumented : Documented s files :=
          ⟨hsound'.numbered, FileStore.locate_within hwithin hplace, id, hwithin _ _ hfile⟩
        refine hsaved.refile hdocumented rfl (FileStore.write_contentsAt_of_ne hsound hsnapshot fun hsame => ?_)
        have hlast := FileStore.locate_last hsame
        rw [List.getLast?_concat, show FileStore.steps Definition.snapshotFile.toList = [Definition.snapshotFile] by
          decide +kernel] at hlast
        exact absurd (Option.some.inj hlast) (by decide)

lemma stored_start (hfiles : r.files.Sound 0) (hbegins : r.begins s .start = true) : (r.start s).2.Stored s := by
  have hreset : (r.reset s).files = r.desk.released := congrArg Desk.files (r.desk_reset s)
  obtain ⟨hfind, hlength⟩ := r.desk.released_same
  have hsound : (r.reset s).files.Sound 0 := hreset ▸ hfiles.of_find? hfind hlength
  obtain ⟨-, q, hfolder, hstart⟩ := begins_cases hbegins
  have hcreated := stored_createFolder (s := s) hsound
  rw [hfolder] at hcreated
  have hq : q.Stored s := hcreated rfl
  rw [hstart]
  exact ⟨hq.documented, hq.contents⟩

/-! ## All moves -/

/-- Other runs have files of their own: the paths that this run knows stay, and so do the contents of its metadata. -/
structure Apart (s : Setup) (files files' : FileStore) : Prop where
  sound : files'.Sound 0
  within : files.Within files'
  contents : files'.contentsAt (s.folder ++ [Metadata.file]) = files.contentsAt (s.folder ++ [Metadata.file])

/-- Whenever other runs go on, their files are apart from those of this one. -/
def AllApart (s : Setup) : Run → List Move → Prop
  | _, [] => True
  | r, m :: rest => (∀ shared, m = .others shared → Apart s r.files shared.files) ∧ AllApart s (r.after s m) rest

/-- The run is never started in vain. -/
def StartsSucceed (s : Setup) (r : Run) (moves : List Move) : Prop :=
  ¬ r.Happens s (fun q m => m = .start ∧ (q.start s).1.isOk = false) moves

lemma exists_filed_after (hfiled : r.desk.Filed s l) {m : Move}
    (hapart : ∀ shared, m = .others shared → Apart s r.files shared.files) : ∃ l', (r.after s m).desk.Filed s l' := by
  have hown (h : ∀ shared, m ≠ .others shared) : ∃ l', (r.after s m).desk.Filed s l' :=
    ⟨_, Desk.Filed.enters (x := (r.desk, l)) hfiled (enters_of_filed hfiled fun shared heq => absurd heq (h shared))⟩
  cases m with
  | others shared =>
    obtain ⟨hsound, hwithin, -⟩ := hapart shared rfl
    exact ⟨l, hfiled.refile hwithin hsound (fun hdown => (hfiled.down hdown).2.2)
      fun lg hlg => (hfiled.log lg hlg).within hwithin⟩
  | _ => exact hown (by simp)

lemma stored_after (h : r.Stored s) (hfiled : r.desk.Filed s l) {m : Move}
    (hapart : ∀ shared, m = .others shared → Apart s r.files shared.files)
    (hstart : m = .start → (r.start s).1.isOk = true) : (r.after s m).Stored s := by
  cases m with
  | start =>
    by_cases hstopped : r.state = .stopped
    · exact stored_start hfiled.files (by rw [begins, hstopped, hstart rfl]; rfl)
    · rw [after, start, if_pos hstopped]
      exact h
  | pause => exact stored_pause h
  | resume => exact h.of_modifies (r.modifies_resume s) (by decide)
  | stop error => exact stored_stop h error
  | answer id a => exact h.of_modifies (r.modifies_answer id a) (by decide)
  | sample role sensor timestamp values =>
    have hmetadata : (r.sample role sensor timestamp values).metadata = r.metadata :=
      r.modifies_sample role sensor timestamp values .metadata (by decide)
    refine h.refile ((r.leads_sample s [] role sensor timestamp values).documented h.documented) hmetadata ?_
    obtain hsame | ⟨x, hframe, hx⟩ := r.desk_sample role sensor timestamp values
    · exact congrArg (fun d : Desk => d.files.contentsAt (s.folder ++ [Metadata.file])) hsame
    · exact (congrArg (fun d : Desk => d.files.contentsAt (s.folder ++ [Metadata.file])) hx).trans
        (hfiled.contentsAt_deliver_all hframe h.documented.ne_record _)
  | step i =>
    rw [after]
    cases hstep : r.step? s i with
    | none => exact h
    | some r' => exact stored_step h hfiled hstep
  | others shared =>
    obtain ⟨hsound, hwithin, hcontents⟩ := hapart shared rfl
    obtain ⟨id, hfile⟩ := h.documented.file
    exact h.refile ⟨hsound.numbered, FileStore.locate_within hwithin h.documented.place, id, hwithin _ _ hfile⟩ rfl
      hcontents

lemma exists_filed_afterAll (hfiled : r.desk.Filed s l) {moves : List Move} (hapart : r.AllApart s moves) :
    ∃ l', (r.afterAll s moves).desk.Filed s l' := by
  induction moves generalizing r l with
  | nil => exact ⟨l, hfiled⟩
  | cons m rest ih =>
    obtain ⟨l', hfiled'⟩ := exists_filed_after hfiled hapart.1
    exact ih hfiled' hapart.2

lemma stored_afterAll (h : r.Stored s) (hfiled : r.desk.Filed s l) {moves : List Move} (hapart : r.AllApart s moves)
    (hstarts : r.StartsSucceed s moves) : (r.afterAll s moves).Stored s := by
  induction moves generalizing r l with
  | nil => exact h
  | cons m rest ih =>
    obtain ⟨hfirst, hrest⟩ := not_or.mp hstarts
    obtain ⟨l', hfiled'⟩ := exists_filed_after hfiled hapart.1
    have hstart (heq : m = .start) : (r.start s).1.isOk = true := by
      by_contra hfails
      exact hfirst ⟨heq, by simpa using hfails⟩
    exact ih (stored_after h hfiled hapart.1 hstart) hfiled' hapart.2 hrest

lemma allApart_append (moves later : List Move) :
    r.AllApart s (moves ++ later) ↔ r.AllApart s moves ∧ (r.afterAll s moves).AllApart s later := by
  induction moves generalizing r with
  | nil => simp [AllApart]
  | cons m rest ih => rw [List.cons_append, AllApart, AllApart, ih, afterAll_cons, and_assoc]

/-- The metadata are stored once the run has started, whatever comes next. -/
lemma stored_run {x : Ensemble} (hfiles : x.files.Sound 0) (before moves : List Move)
    (hbegins : ((x.newRun s).afterAll s before).begins s .start = true)
    (hapart : (x.newRun s).AllApart s (before ++ .start :: moves))
    (hstarts : (((x.newRun s).afterAll s before).after s .start).StartsSucceed s moves) :
    ((x.newRun s).afterAll s (before ++ .start :: moves)).Stored s := by
  obtain ⟨hbefore, -, hmoves⟩ := (allApart_append before (.start :: moves)).mp hapart
  obtain ⟨l, hfiled⟩ := exists_filed_afterAll (filed_newRun (s := s) hfiles) hbefore
  have hbegun : (((x.newRun s).afterAll s before).after s .start).Stored s := stored_start hfiled.files hbegins
  obtain ⟨l', hfiled'⟩ := exists_filed_after (m := .start) hfiled (by simp)
  rw [afterAll_append, afterAll_cons]
  exact stored_afterAll hbegun hfiled' hmoves hstarts

/-- Once a run has started, the file of its metadata holds the text of the document that it has in memory: whatever
comes next, and whether it goes on, is paused or has stopped.  What is loaded from the file is that document, if its
floating point numbers are read back from their texts and nothing in it is nested too deep.

Other runs have files of their own, and no later start of the run fails.  The numbers of the setup and the times of the
clock are in the ranges of their types. -/
theorem metadata_on_disk (x : Ensemble) (s : Setup) (hfiles : x.files.Sound 0) (before moves : List Move)
    (hbegins : ((x.newRun s).afterAll s before).begins s .start = true)
    (hapart : (x.newRun s).AllApart s (before ++ .start :: moves))
    (hstarts : (((x.newRun s).afterAll s before).after s .start).StartsSucceed s moves) :
    let r := (x.newRun s).afterAll s (before ++ .start :: moves)
    r.files.read? (s.folder ++ [Metadata.file]) = some (Utf8.encode r.metadata.text.toList) ∧
      (s.Storable → (x.newRun s).InRange s (before ++ .start :: moves) → r.metadata.toJson.isLegible 0 = true →
        Metadata.load s.folder r.files = .ok r.metadata) := by
  intro r
  have hstored : r.Stored s := stored_run hfiles before moves hbegins hapart hstarts
  refine ⟨hstored.contents, fun hs hrange hvalues => ?_⟩
  have hstorable : r.Storable := storable_afterAll (storable_newRun x hs) hs hrange
  exact Metadata.load_of_saved hstorable.metadata hvalues hstored.contents

/-- A scenario that notes a value and then fails. -/
def notingSetup (value : Json) : Setup :=
  let note : Node :=
    { Node.ofPrimitive .metadataSet with
      arguments := .obj [("key", .str "k"), ("value", value)], next := [some "b"] }
  { definition :=
      { scenarioId := 1
        content := { entry := "a", nodes := [("a", note), ("b", Node.ofPrimitive .recordCreate)] } }
    folder := ["run"] }

/-- One half is written and read back as it is. -/
theorem metadata_on_disk_failed :
    let s := notingSetup (.float ⟨0x3fe0000000000000⟩)
    let r := (({ files := {} } : Ensemble).newRun s).afterAll s [.start, .step 0, .step 0]
    r.state = .stopped ∧ r.metadata.extra.contains "k" = true ∧ Metadata.load s.folder r.files = .ok r.metadata := by
  intro s r
  have hbegins : (({ files := {} } : Ensemble).newRun s).begins s .start = true := by decide +kernel
  have hstorable : s.Storable :=
    ⟨by decide, by decide, fun _ d _ hinfo => Except.ok.inj hinfo ▸ Source.isOrdered_canonical d.toJson⟩
  have hrange : (({ files := {} } : Ensemble).newRun s).InRange s [.start, .step 0, .step 0] := by
    simp only [InRange, Happens, not_or, not_not]
    decide +kernel
  obtain ⟨-, hload⟩ := metadata_on_disk { files := {} } s FileStore.sound_empty [] [.step 0, .step 0] hbegins
    (by simp [AllApart]) (by simp [StartsSucceed, Happens])
  exact ⟨by decide +kernel, by decide +kernel, hload hstorable hrange (by decide +kernel)⟩

/-- The number that is written as `1e-30` is not the one that this text is read as. -/
theorem metadata_reread_differs :
    let s := notingSetup (.float ⟨4158027847206421152⟩)
    let r := (({ files := {} } : Ensemble).newRun s).afterAll s [.start, .step 0]
    (({ files := {} } : Ensemble).newRun s).begins s .start = true ∧ r.state = .running ∧
      Metadata.load s.folder r.files ≠ .ok r.metadata := by
  intro s r
  have hbegins : (({ files := {} } : Ensemble).newRun s).begins s .start = true := by decide +kernel
  have hstored : r.Stored s :=
    stored_run FileStore.sound_empty [] [.step 0] hbegins (by simp [AllApart]) (by simp [StartsSucceed, Happens])
  refine ⟨hbegins, by decide +kernel, fun hload => ?_⟩
  rw [Metadata.load_of_file hstored.contents] at hload
  have hdecoded := congrArg (Option.map fun m => (m.extra.get? "k").map (Json.prettyChars 0))
    (Metadata.decoder_of_ofText hload)
  revert hdecoded
  decide +kernel

end Run

end FieldStudy
