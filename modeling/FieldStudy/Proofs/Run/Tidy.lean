import Mathlib.Data.List.Basic
import Mathlib.Tactic.Common
import FieldStudy.Proofs.Run.Endings
import FieldStudy.Proofs.Run.Records
import FieldStudy.Proofs.Run.Suspensions

/-!
# Open files

While a run is under way its metadata are stored and every open record has its file open (`Desk.Tidy`).  So a sample
that comes in, and the metadata that are stored once more when the run is paused, add bytes to files and nothing else:
bare, the run is as it was.
-/

namespace FieldStudy

namespace Desk

/-- Every open record has its file open, and the metadata have been stored. -/
structure Tidy (s : Setup) (d : Desk) : Prop where
  sorted : d.writers.Sorted
  opened : ∀ name w, d.writers.get? name = some w → w.sink.handle.isSome = true
  document : ∃ p id, d.files.locate s.folder Metadata.file = .ok p ∧ d.files.find? p = some (.file id)

variable {s : Setup} {d : Desk} {x y : Desk × Ledger}

lemma Tidy.within (h : d.Tidy s) {files : FileStore} (hwithin : d.files.Within files) :
    ∃ p id, files.locate s.folder Metadata.file = .ok p ∧ files.find? p = some (.file id) := by
  obtain ⟨p, id, hplace, hfind⟩ := h.document
  exact ⟨p, id, FileStore.locate_within hwithin hplace, hwithin _ _ hfind⟩

/-- A sample that reaches a record changes the bytes of its file, and what is kept back of them. -/
lemma Tidy.deliver (h : d.Tidy s) (x : PhoneSample) (name : String) :
    (d.deliver x name).Tidy s ∧ (d.deliver x name).files.bare = d.files.bare ∧
      (d.deliver x name).writers.mapValues RecordWriter.bare = d.writers.mapValues RecordWriter.bare := by
  rw [Desk.deliver]
  cases hw : d.writers.get? name with
  | none => exact ⟨h, rfl, rfl⟩
  | some w =>
    obtain ⟨hbare, hfiles⟩ := RecordWriter.write_bare (h.opened name w hw) x.frame (.uint x.timestamp)
      (x.values.map fun v => .float v.toDouble) d.files
    have hwithin := w.write_within d.files x.frame (.uint x.timestamp) (x.values.map fun v => .float v.toDouble)
    dsimp only
    generalize w.write x.frame (.uint x.timestamp) (x.values.map fun v => .float v.toDouble) d.files = y
      at hbare hfiles hwithin
    refine ⟨⟨h.sorted.insert _ _, fun other v hv => ?_, h.within hwithin⟩, hfiles, ?_⟩
    · rw [Dict.get?_insert] at hv
      split at hv
      · obtain rfl := Option.some.inj hv
        have hhandle : y.2.1.sink.handle = w.sink.handle :=
          (congrArg (fun w : RecordWriter FileLogger => w.sink.handle) hbare :)
        rw [hhandle]
        exact h.opened name w hw
      · exact h.opened other v hv
    · have hsame : (d.writers.mapValues RecordWriter.bare).get? name = some w.bare := by
        rw [Dict.get?_mapValues, hw, Option.map_some]
      rw [Dict.mapValues_insert, hbare, (h.sorted.mapValues _).insert_self hsame]

lemma Tidy.sample (h : d.Tidy s) (x : PhoneSample) (sensor : String) :
    (d.sample x sensor).Tidy s ∧ (d.sample x sensor).files.bare = d.files.bare ∧
      (d.sample x sensor).writers.mapValues RecordWriter.bare = d.writers.mapValues RecordWriter.bare := by
  rw [Desk.sample]
  generalize d.route sensor = names
  induction names generalizing d with
  | nil => exact ⟨h, rfl, rfl⟩
  | cons name rest ih =>
    obtain ⟨htidy, hfiles, hwriters⟩ := h.deliver x name
    obtain ⟨htidy', hfiles', hwriters'⟩ := ih htidy
    exact ⟨htidy', hfiles'.trans hfiles, hwriters'.trans hwriters⟩

/-- Every booking leaves a tidy desk. -/
lemma Tidy.booked (h : x.1.Tidy s) (hbooked : Booked s x y) : y.1.Tidy s := by
  have hdocument := h.within hbooked.within
  cases hbooked with
  | save hfile hwrite => exact ⟨h.sorted, h.opened, hdocument⟩
  | furnish hfolders => exact ⟨h.sorted, h.opened, hdocument⟩
  | note hup data => exact ⟨h.sorted, h.opened, hdocument⟩
  | @create d l a sensors w files hup hcreate =>
    refine ⟨h.sorted.insert _ _, fun name v hv => ?_, hdocument⟩
    rw [Dict.get?_insert] at hv
    split at hv
    · obtain rfl := Option.some.inj hv
      exact RecordWriter.create_handle (w := w) rfl hcreate
    · exact h.opened name v hv
  | repeated e hopen => exact h
  | close name =>
    refine ⟨h.sorted.erase _, fun other v hv => ?_, hdocument⟩
    rw [Dict.get?_erase] at hv
    split at hv
    · cases hv
    · exact h.opened other v hv
  | @pause d l name paused =>
    refine ⟨?_, fun other v hv => ?_, hdocument⟩
    · show (d.writers.adjust name _).Sorted
      rw [Dict.adjust]
      split
      · exact h.sorted.insert _ _
      · exact h.sorted
    · rw [Dict.get?_adjust] at hv
      split at hv
      · obtain ⟨w, hw, rfl⟩ := Option.map_eq_some_iff.mp hv
        exact h.opened other w hw
      · exact h.opened other v hv
  | sample x sensor hframe => exact (h.sample x sensor).1
  | fall => exact ⟨Dict.sorted_nil, fun _ _ hv => (by cases hv), hdocument⟩
  | rise hdown => exact ⟨Dict.sorted_nil, fun _ _ hv => (by cases hv), hdocument⟩

lemma Tidy.leads (h : x.1.Tidy s) (hleads : Leads s x y) : y.1.Tidy s := by
  induction hleads with
  | refl => exact h
  | tail _ hbooked ih => exact ih.booked hbooked

end Desk

namespace Run

variable {r r' q : Run} {s : Setup} {i : Nat} {t : Task}

/-- Who changes no more than the bytes of files is as it was, bare. -/
lemma bare_of_files (h : Modifies [.writers, .files] r r') (hfiles : r'.files.bare = r.files.bare)
    (hwriters : r'.writers.mapValues RecordWriter.bare = r.writers.mapValues RecordWriter.bare) : r'.bare = r.bare := by
  have hset : Modifies [.writers, .files] r' { r' with writers := r.writers, files := r.files } := by
    intro f hf
    cases f <;> first | rfl | simp at hf
  have hnone : Modifies [] r { r' with writers := r.writers, files := r.files } := by
    intro f _
    by_cases hf : f ∈ [RunField.writers, RunField.files]
    · obtain rfl | rfl : f = .writers ∨ f = .files := by simpa using hf
      · rfl
      · rfl
    · exact h.trans hset f hf
  rw [← hnone.bare (by simp)]
  show r'.bare = { r'.bare with writers := r.writers.mapValues RecordWriter.bare, files := r.files.bare }
  rw [← hfiles, ← hwriters]
  rfl

/-! ## Storing the metadata once more -/

lemma saveMetadata_bare (h : r.desk.Tidy s) : (r.saveMetadata s).2.bare = r.bare := by
  obtain ⟨p, id, hplace, hfind⟩ := h.document
  obtain ⟨files, hwrite, hfiles⟩ := FileStore.write_of_find hplace hfind (Utf8.encode r.metadata.text.toList)
  have hsave : r.metadata.save s.folder r.files = .ok files := hwrite
  rw [saveMetadata, hsave]
  exact bare_files hfiles

/-- A run that is paused is as it was, bare. -/
lemma pause_bare (h : r.desk.Tidy s) : (r.pause s).bare = r.bare := by
  rw [pause]
  split
  · rfl
  · have hcancel := modifies_cancel { r with state := .paused }
    have htidy : ({ r with state := .paused } : Run).cancel.desk.Tidy s := by
      rw [hcancel.desk (by decide)]
      exact ⟨h.sorted, h.opened, h.document⟩
    exact ((modifies_emit _ _).bare (by decide)).trans ((saveMetadata_bare htidy).trans (hcancel.bare (by decide)))

lemma tidy_pause (h : r.desk.Tidy s) : (r.pause s).desk.Tidy s :=
  Desk.Tidy.leads (x := (r.desk, [])) h (r.leads_pause s [])

/-! ## Samples -/

lemma desk_sample (r : Run) (role sensor : String) (timestamp : UInt64) (values : List Single) :
    (r.sample role sensor timestamp values).desk = r.desk ∨
      ∃ x : PhoneSample, SensorType.frameId? sensor = some x.frame ∧
        (r.sample role sensor timestamp values).desk = r.desk.sample x sensor := by
  rw [sample]
  cases SensorType.frameId? sensor with
  | none => exact .inl rfl
  | some frame =>
    dsimp only
    split
    · exact .inl rfl
    · exact .inr ⟨⟨frame, timestamp, values⟩, rfl,
        (List.foldl_hom desk fun q name => (q.desk_writeSample ⟨frame, timestamp, values⟩ name).symm).symm⟩

lemma sample_tidy (h : r.desk.Tidy s) (role sensor : String) (timestamp : UInt64) (values : List Single) :
    (r.sample role sensor timestamp values).desk.Tidy s ∧ (r.sample role sensor timestamp values).bare = r.bare := by
  have hmodifies := r.modifies_sample role sensor timestamp values
  obtain hsame | ⟨x, -, hx⟩ := r.desk_sample role sensor timestamp values
  · rw [hsame]
    refine ⟨h, bare_of_files hmodifies ?_ ?_⟩
    · exact congrArg (fun d : Desk => d.files.bare) hsame
    · exact congrArg (fun d : Desk => d.writers.mapValues RecordWriter.bare) hsame
  · obtain ⟨htidy, hfiles, hwriters⟩ := h.sample x sensor
    rw [← hx] at htidy hfiles hwriters
    exact ⟨htidy, bare_of_files hmodifies hfiles hwriters⟩

/-! ## Steps -/

/-- An action that cannot open its record stops the run. -/
lemma tidy_step (hlone : ∀ t, r.tasks[i]? = some t → r.isCancelled t.token = false → t.branch = mainBranch)
    (h : r.desk.Tidy s) (hstep : r.step? s i = some r') (hstate : r'.state ≠ .stopped) : r'.desk.Tidy s := by
  have hleads := r.leads_step s [] i
  rw [hstep, Option.getD_some] at hleads
  refine Desk.Tidy.leads (x := (r.desk, [])) h (hleads fun a htaken => ?_)
  cases hcreate : (r.createRecord s a).1 with
  | ok done => rfl
  | error e =>
    -- The action fails, which is the end of the branch and of the run.
    refine absurd ?_ hstate
    obtain ⟨t, p, ht, hstatus, haction⟩ := taken?_step_iff.mp htaken
    obtain ⟨hlive, node, hnode, -⟩ := action?_eq_some_iff.mp haction
    obtain ⟨t', p', turn, q, ht', hturn, -, rfl⟩ := step_cases hstep
    obtain rfl : t' = t := Option.some.inj (ht'.symm.trans ht)
    rw [turn?_entering s ht hstatus, entry_of_action? hnode haction] at hturn
    obtain ⟨rfl, rfl⟩ := Prod.mk.inj (Option.some.inj hturn)
    have hfails : (({ r with point := some p } : Run).execute s ⟨t'.branch, p.node, node, t'.token⟩
        (.record .create a)).1 = .fails e := by
      have hsame := (r.createRecord_point s a (some p)).trans hcreate
      show (({ r with point := some p } : Run).record s .create a).1 = .fails e
      rw [record, changeRecord]
      generalize ({ r with point := some p } : Run).createRecord s a = x at hsame
      obtain ⟨result, q⟩ := x
      obtain rfl : result = .error e := hsame
      rfl
    have hne : e ≠ .cancelled := by
      rintro rfl
      exact r.changeRecord_ne s .create a hcreate
    rw [hfails]
    exact state_close_of_isEnd (hlone t' ht (of_isLive hlive).2) p (by simpa [Turn.isEnd] using hne) (by simp)

/-- A run that has begun is tidy. -/
lemma tidy_start (h : r.begins s .start = true) : (r.start s).2.desk.Tidy s := by
  obtain ⟨-, q, hfolder, hstart⟩ := begins_cases h
  have hwriters : q.writers = [] := by
    have hmodifies := (r.reset s).modifies_createFolder s .writers (by decide)
    rw [hfolder] at hmodifies
    exact Eq.trans hmodifies (congrArg Desk.writers (r.desk_reset s))
  have hdocument : ∃ p id, q.files.locate s.folder Metadata.file = .ok p ∧ q.files.find? p = some (.file id) := by
    rw [createFolder] at hfolder
    split at hfolder
    · cases hfolder
    · split at hfolder
      · cases hfolder
      · next files hsave =>
        obtain ⟨p, id, hplace, hfind⟩ := FileStore.placed_of_write hsave
        split at hfolder
        · cases hfolder
        · next hsnapshot =>
          obtain ⟨-, rfl⟩ := Prod.mk.inj hfolder
          have hwithin := FileStore.write_within hsnapshot
          exact ⟨p, id, FileStore.locate_within hwithin hplace, hwithin _ _ hfind⟩
  rw [hstart, desk_spawnBranch]
  refine ⟨?_, fun name w hw => ?_, hdocument⟩
  · show q.writers.Sorted
    rw [hwriters]
    exact Dict.sorted_nil
  · rw [show (({ q with finished := none } : Run).emit (.state .running)).desk.writers = [] from hwriters] at hw
    cases hw

end Run

end FieldStudy
