import Mathlib.Data.List.Basic
import FieldStudy.Proofs.Recording.PhoneReading
import FieldStudy.Proofs.Run.Routing

/-!
# Records that are created again

A record that is created again goes on in the file of its name, behind what is there, with a header of its own.  So its
file holds the periods of the record one after another, each a recording by itself (`Desk.Filed.written_enters`), and
it is read as the first of them alone (`Run.recreated_records`).
-/

namespace FieldStudy

namespace Ledger

/-- The periods of one record. -/
def periodsOf (l : Ledger) (name : String) : Ledger := l.filter (·.name == name)

/-- The recordings of the periods of one record, one after another. -/
def image (l : Ledger) (name : String) : List UInt8 := (l.periodsOf name).flatMap LedgerEntry.image

lemma periodsOf_map (l : Ledger) {change : LedgerEntry → LedgerEntry} (hname : ∀ e, (change e).name = e.name)
    (name : String) : periodsOf (l.map change) name = (l.periodsOf name).map change := by
  rw [periodsOf, periodsOf, List.filter_map]
  refine congrArg (List.map change) (List.filter_congr fun e _ => ?_)
  rw [Function.comp_apply, hname]

/-- A change that keeps the samples keeps the recordings. -/
lemma image_map (l : Ledger) (change : LedgerEntry → LedgerEntry)
    (hchange : ∀ e, (change e).name = e.name ∧ (change e).samples = e.samples) (name : String) :
    image (l.map change) name = l.image name := by
  rw [image, image, periodsOf_map l (fun e => (hchange e).1), List.flatMap_map]
  refine congrArg List.flatten (List.map_congr_left fun e _ => ?_)
  rw [LedgerEntry.image, LedgerEntry.image, (hchange e).2]

lemma image_mark (l : Ledger) (other : String) (change : LedgerEntry → LedgerEntry)
    (hchange : ∀ e, (change e).name = e.name ∧ (change e).samples = e.samples) (name : String) :
    image (l.mark other change) name = l.image name := by
  refine image_map l _ (fun e => ?_) name
  split
  · exact hchange e
  · exact ⟨rfl, rfl⟩

lemma image_append (l : Ledger) (e : LedgerEntry) (name : String) :
    image (l ++ [e]) name = l.image name ++ if e.name = name then e.image else [] := by
  rw [image, image, periodsOf, periodsOf, List.filter_append, List.flatMap_append]
  by_cases hname : e.name = name
  · simp [hname]
  · simp [hname]

end Ledger

namespace Run

/-- A path is that of one record alone. -/
structure Owns (s : Setup) (files : FileStore) (names : List String) (name : String) (p : Path) : Prop where
  place : ∀ q, files.locate s.folder (recordFile name) = .ok q → q = p
  others : ∀ n ∈ names, n ≠ name → files.locate s.folder (recordFile n) ≠ .ok p
  log : files.locate s.folder logFile ≠ .ok p
  documents : ∀ file, file = Metadata.file ∨ file = Definition.snapshotFile → files.locate s.folder file ≠ .ok p

lemma Owns.before {s : Setup} {files files' : FileStore} {names names' : List String} {name : String} {p : Path}
    (h : Owns s files' names' name p) (hwithin : files.Within files') (hnames : names ⊆ names') :
    Owns s files names name p where
  place q hq := h.place q (FileStore.locate_within hwithin hq)
  others n hn hne hp := h.others n (hnames hn) hne (FileStore.locate_within hwithin hp)
  log hp := h.log (FileStore.locate_within hwithin hp)
  documents file hfile hp := h.documents file hfile (FileStore.locate_within hwithin hp)

end Run

namespace Desk

variable {s : Setup} {files' : FileStore} {d : Desk} {l : Ledger} {e : LedgerEntry} {name : String} {p : Path}
  {w : RecordWriter FileLogger} {x y : Desk × Ledger}

/-! ## Samples -/

/-- Whether a sample of a sensor belongs to a period. -/
def wants (d : Desk) (sensor : String) (e : LedgerEntry) : Bool :=
  d.holds e && !e.paused && e.sensors.contains sensor

lemma image_receive_entry (d : Desk) (x : PhoneSample) (sensor : String) (e : LedgerEntry) :
    (d.receive x sensor e).image = e.image ++ if d.wants sensor e then x.bytes else [] := by
  rw [receive, wants]
  split
  · simp [LedgerEntry.image, List.flatMap_append]
  · simp

/-- Only the last period of a record can go on, so a sample comes behind all that has been recorded. -/
lemma image_receive (hapart : l.Pairwise fun e e' => e.name = e'.name → e.isOpen = false) (x : PhoneSample)
    (sensor : String) (name : String) :
    Ledger.image (l.map (d.receive x sensor)) name =
      l.image name ++ if (l.periodsOf name).any (d.wants sensor) then x.bytes else [] := by
  have hname (e : LedgerEntry) : (d.receive x sensor e).name = e.name := by
    rw [receive]
    split <;> rfl
  have hall (periods : Ledger) (hclosed : periods.Pairwise fun e _ => e.isOpen = false) :
      (periods.map (d.receive x sensor)).flatMap LedgerEntry.image =
        periods.flatMap LedgerEntry.image ++ if periods.any (d.wants sensor) then x.bytes else [] := by
    induction periods with
    | nil => rfl
    | cons e rest ih =>
      obtain ⟨hfirst, hrest⟩ := List.pairwise_cons.mp hclosed
      rw [List.map_cons, List.flatMap_cons, List.flatMap_cons, ih hrest, image_receive_entry, List.any_cons]
      cases rest with
      | nil => simp
      | cons e' more =>
        have hwants : d.wants sensor e = false := by simp [wants, holds, hfirst e' (List.mem_cons_self ..)]
        simp [hwants]
  rw [Ledger.image, Ledger.periodsOf_map l hname, Ledger.image]
  refine hall _ ((hapart.sublist List.filter_sublist).imp_of_mem fun {e e'} he he' hclosed => hclosed ?_)
  rw [Ledger.periodsOf] at he he'
  exact (eq_of_beq (List.mem_filter.mp he).2).trans (eq_of_beq (List.mem_filter.mp he').2).symm

namespace Filed

lemma written_sample_period (h : d.Filed s l) (howns : Run.Owns s d.files l.names name p) {x : PhoneSample}
    {sensor : String} (hframe : SensorType.frameId? sensor = some x.frame) :
    (d.sample x sensor).written p name =
      d.written p name ++ if (l.periodsOf name).any (d.wants sensor) then x.bytes else [] := by
  have hothers : ∀ n ∈ d.route sensor, n ≠ name → d.files.locate s.folder (Run.recordFile n) ≠ .ok p := by
    intro n hn hne
    obtain ⟨e, he, rfl, -⟩ := (h.routed sensor n).mp hn
    exact howns.others e.name (mem_names he) hne
  by_cases hgoes : ∃ e ∈ l, e.name = name ∧ d.holds e = true
  · obtain ⟨e, he, rfl, hholds⟩ := hgoes
    obtain ⟨q, id, hplace, -⟩ := h.made e he
    obtain rfl := howns.place q hplace
    have hany : (l.periodsOf e.name).any (d.wants sensor) = (!e.paused && e.sensors.contains sensor) := by
      rw [Bool.eq_iff_iff, List.any_eq_true]
      constructor
      · rintro ⟨e', he', hwants⟩
        obtain ⟨hmem, hname⟩ := List.mem_filter.mp he'
        simp only [wants, Bool.and_eq_true] at hwants
        obtain rfl := h.eq_of_open hmem he (eq_of_beq hname) (Bool.and_eq_true_iff.mp hwants.1.1).2
          (Bool.and_eq_true_iff.mp hholds).2
        exact Bool.and_eq_true_iff.mpr ⟨hwants.1.2, hwants.2⟩
      · intro htakes
        exact ⟨e, List.mem_filter.mpr ⟨he, beq_self_eq_true _⟩, by simpa [wants, hholds] using htakes⟩
    rw [hany]
    exact h.written_sample he hholds hplace hothers hframe
  · have hnone : (l.periodsOf name).any (d.wants sensor) = false := by
      rw [List.any_eq_false]
      intro e he hwants
      obtain ⟨hmem, hname⟩ := List.mem_filter.mp he
      simp only [wants, Bool.and_eq_true] at hwants
      exact hgoes ⟨e, hmem, eq_of_beq hname, hwants.1.1⟩
    rw [hnone, Desk.sample, h.written_deliver_others hframe fun n hn => ?_]
    · simp
    · have hne : n ≠ name := by
        rintro rfl
        obtain ⟨e, he, hname, hholds, -⟩ := (h.routed sensor n).mp hn
        exact hgoes ⟨e, he, hname, hholds⟩
      exact ⟨hne, hothers n hn hne⟩

/-! ## Closing -/

/-- No other record has the file open. -/
lemma handle_ne (h : d.Filed s l) (howns : Run.Owns s d.files l.names name p) {n : String} {id : Nat}
    (hw : d.writers.get? n = some w) (hne : n ≠ name) (hfind : d.files.find? p = some (.file id)) :
    w.sink.handle ≠ some id := by
  obtain ⟨e, he, rfl, -, htends⟩ := h.owner n w hw
  obtain ⟨q, i, image, hplace, hfind', hserves⟩ := htends.serves
  rw [hserves.handle]
  intro heq
  obtain rfl := Option.some.inj heq
  obtain rfl := h.files.inj q p i (Nat.zero_le _) hfind' hfind
  exact howns.others e.name (mem_names he) hne hplace

lemma log_handle_ne (h : d.Filed s l) (howns : Run.Owns s d.files l.names name p) {lg : FileLogger} {id : Nat}
    (hlg : d.log = some lg) (hfind : d.files.find? p = some (.file id)) : lg.handle ≠ some id := by
  intro hhandle
  obtain ⟨q, hplace, hfind'⟩ := (h.log lg hlg).handle id hhandle
  obtain rfl := h.files.inj q p id (Nat.zero_le _) hfind' hfind
  exact howns.log hplace

/-- The writer of a record, with the file at its path. -/
lemma serves (h : d.Filed s l) (howns : Run.Owns s d.files l.names name p) (hw : d.writers.get? name = some w) :
    ∃ id paused, d.files.find? p = some (.file id) ∧ w.Serves d.files id paused (d.written p name) := by
  obtain ⟨e, he, rfl, -, htends⟩ := h.owner name w hw
  obtain ⟨q, id, image, hplace, hfind, hserves⟩ := htends.serves
  obtain rfl := howns.place q hplace
  exact ⟨id, e.paused, hfind, (written_of_serves rfl hw hfind hserves) ▸ hserves⟩

lemma written_close (h : d.Filed s l) (howns : Run.Owns s d.files l.names name p) (n : String) :
    Desk.written { d with
      routes := Run.removeRoutes d.routes n, writers := d.writers.erase n
      files := (d.writers.get? n).elim d.files fun w => (w.close d.files).2.2 } p name = d.written p name := by
  rw [written, Dict.get?_erase]
  dsimp only
  by_cases hne : n = name
  · subst hne
    rw [if_pos rfl]
    cases hw : d.writers.get? n with
    | none => simp [written, hw]
    | some w =>
      obtain ⟨id, paused, hfind, hserves⟩ := h.serves howns hw
      obtain ⟨data, happended, hbytes⟩ := hserves.close (h.files.lt p id hfind)
      rw [Option.elim_some, FileStore.contentsAt_of_find? ((happended.find p).trans hfind), hbytes]
      simp
  · rw [if_neg hne, written]
    cases hw : d.writers.get? n with
    | none => rfl
    | some w =>
      have hsame : (w.close d.files).2.2.contentsAt p = d.files.contentsAt p :=
        FileStore.contentsAt_congr (w.sink.close_find? d.files p) fun id hfind =>
          FileLogger.close_bytes_of_ne d.files (h.handle_ne howns hw hne hfind)
      rw [Option.elim_some, hsame]

/-- Once everything is closed, all that was written for a record is in its file. -/
lemma written_released (h : d.Filed s l) (howns : Run.Owns s d.files l.names name p) (isUp : Bool) :
    Desk.written ⟨isUp, [], [], none, d.released⟩ p name = d.written p name := by
  have hfind := d.released_same.1 p
  have hothers {id : Nat} (hid : d.files.find? p = some (.file id)) :
      ∀ q ∈ d.writers, q.1 ≠ name → q.2.sink.handle ≠ some id :=
    fun q hq hne => h.handle_ne howns (h.sorted.get?_of_mem (v := q.2) hq) hne hid
  have hlog {id : Nat} (hid : d.files.find? p = some (.file id)) :
      d.released.bytes id = (closeAll d.writers d.files).bytes id := by
    rw [released]
    split
    · next lg hlg => exact FileLogger.close_bytes_of_ne _ (h.log_handle_ne howns hlg hid)
    · rfl
  have hclosed : d.released.contentsAt p = d.written p name := by
    cases hw : d.writers.get? name with
    | some w =>
      obtain ⟨id, paused, hid, hserves⟩ := h.serves howns hw
      rw [FileStore.contentsAt_of_find? (hfind.trans hid), hlog hid]
      exact closeAll_bytes h.sorted (Dict.mem_of_get? hw) hserves (h.files.lt p id hid) (hothers hid)
    | none =>
      rw [written, hw, FileStore.contentsAt_congr hfind fun id hid => (hlog hid).trans ?_]
      · simp
      · refine closeAll_bytes_of_ne (fun q hq => hothers hid q hq ?_) _
        intro hname
        have hget := h.sorted.get?_of_mem (v := q.2) hq
        rw [hname, hw] at hget
        cases hget
  rw [written, hclosed]
  simp

/-! ## Creating -/

/-- A record that is created adds a header to what there was; any other record leaves it alone. -/
lemma written_create (h : d.Filed s l) {a : RecordArguments} {sensors : List String}
    (hclosed : d.writers.contains a.name = false)
    (hcreate : RecordWriter.create
      (FileLogger.new s.folder a.name Run.recordExtension s.config.loggerBufferCount) Run.recordDescriptor d.files =
      (.ok (), w, files')) {names : List String} (howns : Run.Owns s files' names name p) (hname : a.name ∈ names) :
    Desk.written { d with
      files := files', writers := d.writers.insert a.name (w.setPaused a.paused)
      routes := Run.addRoutes d.routes sensors a.name } p name =
      d.written p name ++ if a.name = name then RecordWriter.phoneHeader else [] := by
  obtain ⟨q, id, files₁, data, hopened, happended, hserves⟩ := RecordWriter.create_phone h.files rfl rfl rfl hcreate
  have hplace := FileStore.locate_within (hopened.within.trans happended.within) hopened.place
  have hsound := hopened.sound h.files
  by_cases heq : a.name = name
  · subst heq
    obtain rfl := howns.place q hplace
    have hnone : d.writers.get? a.name = none :=
      Option.not_isSome_iff_eq_none.mp (by simpa [Dict.contains] using hclosed)
    have hafter := hserves.setPaused a.paused
    rw [written_of_serves rfl (Dict.get?_insert_self _ _ _) ((happended.find q).trans hopened.find) hafter, if_pos rfl,
      written, hnone, ← FileStore.contentsAt_of_find? hopened.find, hopened.contentsAt h.files]
    simp
  · have hqp : p ≠ q := fun hpq => howns.others a.name hname heq (hpq ▸ hplace)
    rw [written, Dict.get?_insert_of_ne _ _ heq, if_neg heq, List.append_nil, written]
    dsimp only
    rw [happended.contentsAt_of_ne hsound hopened.find hqp, hopened.contentsAt h.files]

/-! ## All bookings -/

/-- What a booking adds to the recordings of a record is what it adds to the file. -/
lemma written_entered (h : x.1.Filed s x.2) (hentered : Entered s x y)
    (howns : Run.Owns s y.1.files y.2.names name p) :
    ∃ added, y.1.written p name = x.1.written p name ++ added ∧ y.2.image name = x.2.image name ++ added := by
  obtain ⟨hbooked, hgenuine⟩ := hentered
  have hbefore := howns.before hbooked.within hbooked.names.subset
  have hkeep {d d' : Desk} {l l' : Ledger} (hwritten : d'.written p name = d.written p name)
      (himage : l'.image name = l.image name) :
      ∃ added, d'.written p name = d.written p name ++ added ∧ l'.image name = l.image name ++ added :=
    ⟨[], by simp [hwritten], by simp [himage]⟩
  have hcontents {d : Desk} {files : FileStore} {log : Option FileLogger}
      (hsame : files.contentsAt p = d.files.contentsAt p) :
      Desk.written { d with files, log } p name = d.written p name := by
    rw [written, written, hsame]
  cases hbooked with
  | save hfile hwrite =>
    exact hkeep (hcontents (FileStore.write_contentsAt_of_ne h.files hwrite (hbefore.documents _ hfile))) rfl
  | furnish hfolders =>
    exact hkeep (hcontents ((FileStore.createFoldersFrom_furnished hfolders).contentsAt p)) rfl
  | @note d l hup data =>
    obtain ⟨-, -, hothers⟩ := (IsLog.logger h.log).note h.files data
    obtain ⟨hfind, hbytes⟩ := hothers p hbefore.log
    exact hkeep (hcontents (FileStore.contentsAt_congr hfind fun id hid => hbytes id (Nat.zero_le _) hid)) rfl
  | create a sensors hup hcreate =>
    refine ⟨_, h.written_create (hgenuine _ rfl) hcreate howns (by simp [Ledger.names]), ?_⟩
    rw [Ledger.image_append]
    simp [LedgerEntry.image, RecordWriter.phoneHeader]
  | repeated e hopen => exact absurd hopen (by simp [show Dict.contains _ e.name = false from hgenuine e rfl])
  | close other =>
    exact hkeep (h.written_close hbefore other)
      (Ledger.image_mark _ other (fun e => { e with isOpen := false }) (fun _ => ⟨rfl, rfl⟩) name)
  | @pause d l other paused =>
    refine hkeep ?_ (Ledger.image_mark _ other (fun e => { e with paused }) (fun _ => ⟨rfl, rfl⟩) name)
    rw [written, written, Dict.get?_adjust]
    split
    · cases d.writers.get? name <;> rfl
    · rfl
  | sample x sensor hframe =>
    exact ⟨_, h.written_sample_period hbefore hframe, image_receive h.apart x sensor name⟩
  | fall => exact hkeep (h.written_released hbefore false) rfl
  | rise hdown =>
    exact hkeep (h.written_released hbefore true)
      (Ledger.image_map _ (fun e => { e with isOpen := false }) (fun _ => ⟨rfl, rfl⟩) name)

lemma written_enters (h : x.1.Filed s x.2) (henters : Enters s x y) (howns : Run.Owns s y.1.files y.2.names name p) :
    ∃ added, y.1.written p name = x.1.written p name ++ added ∧ y.2.image name = x.2.image name ++ added := by
  induction henters with
  | refl => exact ⟨[], by simp, by simp⟩
  | tail hbefore hentered ih =>
    have hearlier := howns.before hentered.booked.within hentered.booked.names.subset
    obtain ⟨added, hwritten, himage⟩ := ih hearlier
    obtain ⟨more, hwritten', himage'⟩ := (h.enters hbefore).written_entered hentered howns
    exact ⟨added ++ more, by rw [hwritten', hwritten, List.append_assoc], by rw [himage', himage, List.append_assoc]⟩

end Filed

/-- Every sample of a ledger is one of a motion sensor. -/
def Framed (l : Ledger) : Prop := ∀ e ∈ l, ∀ x ∈ e.samples, ∃ sensor, SensorType.frameId? sensor = some x.frame

lemma framed_entered (h : Framed x.2) (hentered : Entered s x y) : Framed y.2 := by
  have hmap {l : Ledger} {change : LedgerEntry → LedgerEntry} (h : Framed l)
      (hsamples : ∀ e, (change e).samples = e.samples) : Framed (l.map change) := by
    intro e' he'
    obtain ⟨e, he, rfl⟩ := List.mem_map.mp he'
    exact hsamples e ▸ h e he
  cases hentered.booked with
  | save | furnish | note | fall => exact h
  | create a sensors hup hcreate =>
    intro e he
    obtain he | rfl := by simpa using he
    · exact h e he
    · simp
  | repeated e hopen =>
    exact absurd hopen (by simp [show Dict.contains _ e.name = false from hentered.genuine e rfl])
  | close other | pause other =>
    refine hmap h fun e => ?_
    split <;> rfl
  | @sample d l x sensor hframe =>
    intro e' he'
    obtain ⟨e, he, rfl⟩ := List.mem_map.mp he'
    rw [receive]
    split
    · intro y hy
      obtain hy | rfl := by simpa using hy
      · exact h e he y hy
      · exact ⟨sensor, hframe⟩
    · exact h e he
  | rise hdown => exact hmap h fun _ => rfl

lemma framed_enters (h : Framed x.2) (henters : Enters s x y) : Framed y.2 := by
  induction henters with
  | refl => exact h
  | tail _ hentered ih => exact framed_entered ih hentered

end Desk

/-! ## Reading -/

namespace RecordReader

/-- Several recordings one after another are read as the first of them. -/
lemma reads_periods (first : LedgerEntry) (later : Ledger)
    (h : ∀ x ∈ first.samples, ∃ sensor, SensorType.frameId? sensor = some x.frame) :
    ∃ reader, ofBytes ((first :: later).flatMap LedgerEntry.image) = .ok reader ∧
      reader.readBatches = (first.samples.map (fun x => [x.read]),
        if later.isEmpty then none else some (.unknownFrame headerId)) := by
  have hbytes : (first :: later).flatMap LedgerEntry.image = RecordWriter.phoneHeader ++
      (first.samples.flatMap PhoneSample.bytes ++ later.flatMap LedgerEntry.image) := by
    simp [LedgerEntry.image, RecordWriter.phoneHeader]
  have hrest : batches Phone.layouts (later.flatMap LedgerEntry.image) =
      ([], if later.isEmpty then none else some (.unknownFrame headerId)) := by
    cases later with
    | nil => exact batches_nil _
    | cons e more =>
      rw [List.flatMap_cons, LedgerEntry.image, List.append_assoc]
      exact batches_phoneHeader _
  refine ⟨_, (congrArg ofBytes hbytes).trans (ofBytes_phoneHeader _), ?_⟩
  rw [readBatches, batches_samples h, hrest, List.append_nil]

end RecordReader

namespace Run

variable {s : Setup} {r : Run} {l : Ledger}

lemma enters_afterAll (h : r.desk.Filed s l) {moves : List Move} (hmoves : r.AllUnshared s moves) :
    Desk.Enters s (r.desk, l) ((r.afterAll s moves).desk, l.allPeriods s r moves) := by
  induction moves generalizing r l with
  | nil => exact .refl _
  | cons m rest ih =>
    have hfirst := enters_of_filed h hmoves.1
    exact hfirst.trans (ih (Desk.Filed.enters (x := (r.desk, l)) h hfirst) hmoves.2)

/-- The file of a record is its own: it was not there before, and neither another record nor the log leads to it. -/
structure OwnFile (s : Setup) (earlier files : FileStore) (names : List String) (name : String) (p : Path) : Prop where
  fresh : earlier.read? p = none
  others : ∀ n ∈ names, n ≠ name → files.locate s.folder (recordFile n) ≠ .ok p
  log : files.locate s.folder logFile ≠ .ok p

/-- Once a run has stopped, a record that has been created is a file with its periods one after another.  It is accepted
as a recording, and read as the samples of its first period.  Without another period that is all of it; at the header
of a second one reading fails, and no later sample is found. -/
theorem recreated_records (x : Ensemble) (s : Setup) (moves : List Move) (hfiles : x.files.Sound 0)
    (hmoves : (x.newRun s).AllUnshared s moves) :
    let r := (x.newRun s).afterAll s moves
    let l := Ledger.allPeriods s (x.newRun s) [] moves
    r.state = .stopped → ∀ name first later, l.periodsOf name = first :: later →
      ∃ p, r.files.locate s.folder (recordFile name) = .ok p ∧
        (OwnFile s x.files r.files l.names name p →
          r.files.read? p = some (l.image name) ∧
          ∃ reader, RecordReader.ofBytes (l.image name) = .ok reader ∧
            reader.readBatches = (first.samples.map (fun x => [x.read]),
              if later.isEmpty then none else some (.unknownFrame RecordReader.headerId)) ∧
            reader.readAll = if later.isEmpty then .ok (first.samples.map PhoneSample.read)
              else .error (.unknownFrame RecordReader.headerId)) := by
  intro r l hstopped name first later hperiods
  have hnew : (x.newRun s).desk.Filed s [] := filed_newRun hfiles
  have henters : Desk.Enters s ((x.newRun s).desk, []) (r.desk, l) := enters_afterAll hnew hmoves
  have hfiled : r.desk.Filed s l := hnew.enters (x := ((x.newRun s).desk, [])) henters
  have hfirst : first ∈ l.periodsOf name := by rw [hperiods]; exact List.mem_cons_self ..
  obtain ⟨hmem, hname⟩ := List.mem_filter.mp hfirst
  obtain ⟨p, id, hplace, hfind⟩ := hfiled.made first hmem
  rw [eq_of_beq hname] at hplace
  refine ⟨p, hplace, fun hown => ?_⟩
  have howns : Owns s r.files l.names name p :=
    ⟨fun q hq => Except.ok.inj (hq.symm.trans hplace), hown.others, hown.log,
      fun file hfile heq => Desk.place_ne_document hplace hfile heq rfl⟩
  have himage : r.desk.written p name = l.image name := by
    obtain ⟨added, hwritten, himage⟩ := hnew.written_enters (x := ((x.newRun s).desk, [])) henters howns
    have hempty : (x.newRun s).desk.written p name = [] := by
      show x.files.contentsAt p ++ [] = []
      rw [List.append_nil, FileStore.contentsAt, hown.fresh]
      rfl
    rw [hwritten, hempty]
    exact himage.symm
  have hread : r.files.read? p = some (l.image name) := by
    have hdown : r.writers = [] := (hfiled.down (by simp [desk, hstopped])).1
    have hwritten : r.desk.written p name = r.files.contentsAt p := by
      rw [Desk.written, show r.desk.writers = [] from hdown]
      exact List.append_nil _
    have hcontents : r.files.contentsAt p = r.files.bytes id := FileStore.contentsAt_of_find? hfind
    rw [← himage, hwritten, hcontents]
    exact FileStore.read?_of_find? hfind
  have hframed : Desk.Framed l := Desk.framed_enters (x := ((x.newRun s).desk, [])) (fun e he => by cases he) henters
  obtain ⟨reader, hreader, hbatches⟩ := RecordReader.reads_periods first later (hframed first hmem)
  rw [← hperiods] at hreader
  refine ⟨hread, reader, hreader, hbatches, ?_⟩
  cases later with
  | nil =>
    rw [RecordReader.readAll_of_end (congrArg Prod.snd hbatches), hbatches]
    exact congrArg Except.ok (List.map_eq_flatMap ..).symm
  | cons e more => exact RecordReader.readAll_of_failure (congrArg Prod.snd hbatches)

/-- A scenario that creates a record, closes it and creates it again. -/
def repeatingSetup : Setup :=
  let create (next : String) : Node :=
    { Node.ofPrimitive .recordCreate with
      arguments := .obj [("name", .str "walk"), ("sensors", .str SensorType.acc)], next := [some next] }
  let close : Node :=
    { Node.ofPrimitive .recordClose with arguments := .obj [("name", .str "walk")], next := [some "c"] }
  { definition :=
      { scenarioId := 1
        content :=
          { entry := "a"
            nodes := [("a", create "b"), ("b", close), ("c", create "d"), ("d", Node.ofPrimitive .waitNext)] } }
    folder := ["run"] }

/-- A sample comes in while the record is open for the first time, and another one after it has been created again. -/
def repeatingMoves : List Move :=
  [.start, .step 0, .sample "main" SensorType.acc 5 [⟨0x3f800000⟩], .step 0, .step 0,
    .sample "main" SensorType.acc 6 [⟨0x3f800000⟩], .stop none]

def repeatingPeriods : Ledger :=
  [⟨"walk", [SensorType.acc], false, false, [⟨Phone.accId, 5, [⟨0x3f800000⟩]⟩]⟩,
    ⟨"walk", [SensorType.acc], true, false, [⟨Phone.accId, 6, [⟨0x3f800000⟩]⟩]⟩]

theorem recreated_records_walk :
    let r := (({ files := {} } : Ensemble).newRun repeatingSetup).afterAll repeatingSetup repeatingMoves
    ∃ reader, r.files.read? ["run", "walk.bin"] = some (repeatingPeriods.flatMap LedgerEntry.image) ∧
      RecordReader.ofBytes (repeatingPeriods.flatMap LedgerEntry.image) = .ok reader ∧
      reader.readBatches =
        ([[⟨Phone.accId, 5, [.float ⟨0x3ff0000000000000⟩, .float ⟨0⟩, .float ⟨0⟩]⟩]], some (.unknownFrame 0x53)) := by
  intro r
  have hentries : Ledger.allPeriods repeatingSetup (({ files := {} } : Ensemble).newRun repeatingSetup) []
      repeatingMoves = repeatingPeriods := by decide +kernel
  have hperiods : repeatingPeriods.periodsOf "walk" = repeatingPeriods := by decide +kernel
  have hstopped : r.state = .stopped := by decide +kernel
  have hplace : r.files.locate ["run"] (recordFile "walk") = .ok ["run", "walk.bin"] := by decide +kernel
  have hlog : r.files.locate ["run"] logFile ≠ .ok ["run", "walk.bin"] := by decide +kernel
  have hmoves : (({ files := {} } : Ensemble).newRun repeatingSetup).AllUnshared repeatingSetup repeatingMoves := by
    simp [repeatingMoves, AllUnshared, Unshared]
  have hread := recreated_records { files := {} } repeatingSetup repeatingMoves FileStore.sound_empty hmoves hstopped
    "walk" _ _ ((congrArg (Ledger.periodsOf · "walk") hentries).trans hperiods)
  obtain ⟨p, hp, hfile⟩ := hread
  obtain rfl := Except.ok.inj (hp.symm.trans hplace)
  rw [hentries, Ledger.image, hperiods] at hfile
  obtain ⟨hbytes, reader, hreader, hbatches, -⟩ := hfile ⟨by decide +kernel, by decide +kernel, hlog⟩
  exact ⟨reader, hbytes, hreader, hbatches.trans (by decide +kernel)⟩

/-- The recording of a record that was created again cannot be read to its end. -/
theorem recreated_records_unreadable :
    let r := (({ files := {} } : Ensemble).newRun repeatingSetup).afterAll repeatingSetup repeatingMoves
    ∃ bytes reader, r.files.read? ["run", "walk.bin"] = some bytes ∧ RecordReader.ofBytes bytes = .ok reader ∧
      reader.readAll = .error (.unknownFrame 0x53) := by
  intro r
  have hbytes : r.files.read? ["run", "walk.bin"] = some (repeatingPeriods.flatMap LedgerEntry.image) := by
    decide +kernel
  have hframed : ∀ x ∈ ([⟨Phone.accId, 5, [⟨0x3f800000⟩]⟩] : List PhoneSample),
      ∃ sensor, SensorType.frameId? sensor = some x.frame := by
    intro x hx
    obtain rfl := List.mem_singleton.mp hx
    exact ⟨SensorType.acc, by decide⟩
  obtain ⟨reader, hreader, hbatches⟩ := RecordReader.reads_periods
    ⟨"walk", [SensorType.acc], false, false, [⟨Phone.accId, 5, [⟨0x3f800000⟩]⟩]⟩
    [⟨"walk", [SensorType.acc], true, false, [⟨Phone.accId, 6, [⟨0x3f800000⟩]⟩]⟩] hframed
  exact ⟨_, reader, hbytes, hreader, RecordReader.readAll_of_failure (congrArg Prod.snd hbatches)⟩

end Run

end FieldStudy
