import Mathlib.Data.List.Basic
import Mathlib.Data.List.Pairwise
import FieldStudy.Proofs.Run.Periods

/-!
# Writers and routes against the periods of records

Whatever names the records of a run bear and however often they are created, the open writers are those of the periods
that go on, each with the file open that its name leads to, and the routes name the open records that list a sensor
(`Desk.Filed`).  Nothing is said of the bytes of files, which two records may share.
-/

namespace FieldStudy

lemma FileStore.sound_empty : ({} : FileStore).Sound 0 := by
  have hnone (p : Path) (id : Nat) : ({} : FileStore).find? p ≠ some (.file id) := by
    simp only [FileStore.find?]
    split <;> simp
  exact ⟨Nat.zero_le _, fun p id hp => absurd hp (hnone p id), fun p _ id _ hp => absurd hp (hnone p id)⟩

/-! ## Loggers keep their files -/

namespace FileLogger

lemma Like.refl (l : FileLogger) : Like l l := ⟨rfl, rfl, rfl⟩

lemma Like.trans {l l' l₂ : FileLogger} (h : Like l l') (h' : Like l' l₂) : Like l l₂ :=
  ⟨h'.folder.trans h.folder, h'.file.trans h.file, h'.paused.trans h.paused⟩

lemma like_flush (l : FileLogger) (s : FileStore) : Like l (l.flush s).2.1 := by
  rw [flush]
  split
  · exact ⟨rfl, rfl, rfl⟩
  · dsimp only
    split <;> exact ⟨rfl, rfl, rfl⟩

lemma like_write (l : FileLogger) (data : List UInt8) (s : FileStore) : Like l (l.write data s).2.1 := by
  rw [write]
  split
  · exact .refl l
  · split
    · exact .refl l
    · next id s' _ =>
      dsimp only
      split
      · have hlike : Like l { l with
            handle := some id, pending := l.pending ++ data, pendingCount := l.pendingCount + 1 } := ⟨rfl, rfl, rfl⟩
        exact hlike.trans (like_flush _ s')
      · exact ⟨rfl, rfl, rfl⟩

end FileLogger

namespace RecordWriter

lemma like_put (l : FileLogger) (data : List UInt8) (files : FileStore) :
    FileLogger.Like l (put l data files).2.1 := by
  rw [put]
  split
  · exact .refl l
  · exact l.like_write data files

lemma like_write (w : RecordWriter FileLogger) (frame : UInt8) (timestamp : Scalar) (values : List Scalar)
    (files : FileStore) : FileLogger.Like w.sink (w.write frame timestamp values files).2.1.sink := by
  rw [write]
  split
  · exact .refl _
  · cases (w.layouts.get frame).map (·.single frame timestamp values) with
    | ok bytes => exact like_put w.sink bytes files
    | error e => exact .refl _

lemma like_create (l : FileLogger) (d : Descriptor) (files : FileStore) :
    FileLogger.Like l (create l d files).2.1.sink := by
  rw [create]
  split
  · exact .refl l
  · dsimp only
    have hfirst := like_put l d.toBytes files
    split
    · next hput =>
      obtain ⟨-, hrest⟩ := Prod.mk.inj hput
      obtain ⟨rfl, rfl⟩ := Prod.mk.inj hrest
      exact hfirst.trans (like_put _ headerEnd _)
    · exact hfirst

end RecordWriter

namespace Desk

variable {s : Setup} {files files' : FileStore} {d : Desk} {l : Ledger} {e : LedgerEntry}
  {w : RecordWriter FileLogger} {x y : Desk × Ledger}

/-! ## The log -/

/-- What a note does to the files: it opens that of the log, if it is not open, and adds to it. -/
lemma IsLog.note {lg : FileLogger} {n : Nat} (h : IsLog s files lg) (hs : files.Sound n) (data : List UInt8) :
    (lg.write data files).2.2.Sound n ∧ IsLog s (lg.write data files).2.2 (lg.write data files).2.1 ∧
      ∀ q, files.locate s.folder Run.logFile ≠ .ok q → (lg.write data files).2.2.find? q = files.find? q ∧
        ∀ i, n ≤ i → files.find? q = some (.file i) → (lg.write data files).2.2.bytes i = files.bytes i := by
  obtain ⟨e, hwrite⟩ | ⟨p, id, files₁, lg₁, hopened, hhandle, hlike, hwrite⟩ := h.write_cases hs data
  · rw [hwrite]
    exact ⟨hs, h, fun q _ => ⟨rfl, fun i _ _ => rfl⟩⟩
  · obtain ⟨lg', files₂, moved, hwrite', hhandle', hlike', happended, -⟩ :=
      FileLogger.write_open hhandle hopened.lt (hlike.paused.trans h.paused) data
    have hsame := hlike.trans hlike'
    rw [hwrite, hwrite']
    refine ⟨happended.sound (hopened.sound hs), ⟨hsame.folder.trans h.folder, hsame.file.trans h.file,
      hsame.paused.trans h.paused, fun i hi => ?_⟩, fun q hq => ?_⟩
    · obtain rfl : id = i := Option.some.inj (hhandle'.symm.trans hi)
      exact ⟨p, FileStore.locate_within (hopened.within.trans happended.within) hopened.place,
        happended.within _ _ hopened.find⟩
    · have hqp : q ≠ p := fun heq => hq (heq ▸ hopened.place)
      refine ⟨(happended.find q).trans (hopened.find_of_ne q hqp), fun i hi hfind => ?_⟩
      rw [happended.bytes_of_ne i (Ne.symm (hopened.ne hs hi hfind hqp))]
      exact hopened.bytes i (hs.lt q i hfind)

lemma IsLog.logger (h : ∀ lg, d.log = some lg → IsLog s d.files lg) : IsLog s d.files (d.logger s) := by
  rw [Desk.logger]
  cases hlog : d.log with
  | none => exact isLog_new _
  | some lg => exact h lg hlog

/-! ## Writers -/

/-- The writer of a period has the file of its record open. -/
structure Tends (s : Setup) (files : FileStore) (e : LedgerEntry) (w : RecordWriter FileLogger) : Prop where
  folder : w.sink.folder = s.folder
  file : w.sink.file = Run.recordFile e.name
  serves : ∃ p id image, files.locate s.folder (Run.recordFile e.name) = .ok p ∧ files.find? p = some (.file id) ∧
    w.Serves files id e.paused image

lemma Tends.within (h : Tends s files e w) (hwithin : files.Within files') : Tends s files' e w := by
  obtain ⟨p, id, image, hplace, hfind, hserves⟩ := h.serves
  exact ⟨h.folder, h.file, p, id, _, FileStore.locate_within hwithin hplace, hwithin _ _ hfind, hserves.layouts,
    hserves.writerPaused, hserves.sinkPaused, hserves.handle, rfl⟩

lemma Tends.setPaused (h : Tends s files e w) (paused : Bool) :
    Tends s files { e with paused } (w.setPaused paused) := by
  obtain ⟨p, id, image, hplace, hfind, hserves⟩ := h.serves
  exact ⟨h.folder, h.file, p, id, image, hplace, hfind, hserves.setPaused paused⟩

/-- A sample is written to the file of the record. -/
lemma Tends.write (h : Tends s files e w) (hs : files.Sound 0) {frame : UInt8} {sensor : String}
    (hframe : SensorType.frameId? sensor = some frame) (timestamp : UInt64) (values : List Single) :
    ∃ p id w' files' data, files.locate s.folder (Run.recordFile e.name) = .ok p ∧ files.find? p = some (.file id) ∧
      w.write frame (.uint timestamp) (values.map fun v => .float v.toDouble) files = (.ok (), w', files') ∧
      Tends s files' e w' ∧ files.Appended files' id data := by
  obtain ⟨p, id, image, hplace, hfind, hserves⟩ := h.serves
  obtain ⟨w', files', data, hwrite, happended, hserves'⟩ :=
    hserves.write (hs.lt p id hfind) hframe timestamp values
  have hlike := w.like_write frame (.uint timestamp) (values.map fun v => .float v.toDouble) files
  rw [hwrite] at hlike
  exact ⟨p, id, w', files', data, hplace, hfind, hwrite, ⟨hlike.folder.trans h.folder, hlike.file.trans h.file, p, id,
    _, FileStore.locate_within happended.within hplace, happended.within _ _ hfind, hserves'⟩, happended⟩

/-- Only what matters to a writer may not change. -/
lemma Tends.change (h : Tends s files e w) {e' : LedgerEntry} (hname : e'.name = e.name)
    (hpaused : e'.paused = e.paused) : Tends s files e' w :=
  ⟨h.folder, hname ▸ h.file, hname ▸ hpaused ▸ h.serves⟩

/-- The file of a record is there. -/
def Made (s : Setup) (files : FileStore) (name : String) : Prop :=
  ∃ p id, files.locate s.folder (Run.recordFile name) = .ok p ∧ files.find? p = some (.file id)

lemma Made.within {name : String} (h : Made s files name) (hwithin : files.Within files') : Made s files' name := by
  obtain ⟨p, id, hplace, hfind⟩ := h
  exact ⟨p, id, FileStore.locate_within hwithin hplace, hwithin _ _ hfind⟩

/-! ## The invariant -/

/-- Writers, routes and the log agree with the periods of the records. -/
structure Filed (s : Setup) (d : Desk) (l : Ledger) : Prop where
  files : d.files.Sound 0
  sorted : d.writers.Sorted
  down : d.isUp = false → d.writers = [] ∧ d.routes = [] ∧ d.log = none
  /-- A period of a record begins only once the ones before have ended. -/
  apart : l.Pairwise fun e e' => e.name = e'.name → e.isOpen = false
  made : ∀ e ∈ l, Made s d.files e.name
  owner : ∀ name w, d.writers.get? name = some w → ∃ e ∈ l, e.name = name ∧ e.isOpen = true ∧ Tends s d.files e w
  opened : ∀ e ∈ l, d.holds e = true → d.writers.contains e.name = true
  nodup : ∀ sensor, (d.route sensor).Nodup
  routed : ∀ sensor name, name ∈ d.route sensor ↔
    ∃ e ∈ l, e.name = name ∧ d.holds e = true ∧ sensor ∈ e.sensors
  log : ∀ lg, d.log = some lg → IsLog s d.files lg

namespace Filed

lemma routes (h : d.Filed s l) : RoutesAgree d.isUp d.routes l := ⟨h.nodup, h.routed⟩

/-- Of the periods of a record one at most goes on. -/
lemma eq_of_open (h : d.Filed s l) {e' : LedgerEntry} (he : e ∈ l) (he' : e' ∈ l) (hname : e.name = e'.name)
    (hopen : e.isOpen = true) (hopen' : e'.isOpen = true) : e = e' := by
  by_contra hne
  have hsymm : Std.Symm fun e e' : LedgerEntry =>
      (e.name = e'.name → e.isOpen = false) ∨ (e'.name = e.name → e'.isOpen = false) := ⟨fun _ _ => Or.symm⟩
  have hpairs : l.Pairwise fun e e' =>
      (e.name = e'.name → e.isOpen = false) ∨ (e'.name = e.name → e'.isOpen = false) := h.apart.imp Or.inl
  obtain hclosed | hclosed := hpairs.forall he he' hne
  · simp [hclosed hname] at hopen
  · simp [hclosed hname.symm] at hopen'

lemma contains_eq (h : d.Filed s l) (hup : d.isUp = true) (name : String) :
    d.writers.contains name = l.isOpen name := by
  rw [Bool.eq_iff_iff, Ledger.isOpen, List.any_eq_true]
  constructor
  · intro hcontains
    obtain ⟨w, hw⟩ := Option.isSome_iff_exists.mp hcontains
    obtain ⟨e, he, rfl, hopen, -⟩ := h.owner name w hw
    exact ⟨e, he, by simp [hopen]⟩
  · rintro ⟨e, he, hopen⟩
    obtain ⟨hname, hgoes⟩ := Bool.and_eq_true_iff.mp hopen
    exact eq_of_beq hname ▸ h.opened e he (by simp [holds, hup, hgoes])

/-- The writer of a period that goes on. -/
lemma writer (h : d.Filed s l) (he : e ∈ l) (hholds : d.holds e = true) :
    ∃ w, d.writers.get? e.name = some w ∧ Tends s d.files e w := by
  obtain ⟨w, hw⟩ := Option.isSome_iff_exists.mp (h.opened e he hholds)
  obtain ⟨e', he', hname, hopen, htends⟩ := h.owner e.name w hw
  obtain rfl := h.eq_of_open he' he hname hopen (Bool.and_eq_true_iff.mp hholds).2
  exact ⟨w, hw, htends⟩

/-! ## Operations -/

/-- Files and the log change, and no writer loses its file. -/
lemma refile (h : d.Filed s l) {log' : Option FileLogger} (hwithin : d.files.Within files') (hfiles : files'.Sound 0)
    (hdown : d.isUp = false → log' = none) (hlog : ∀ lg, log' = some lg → IsLog s files' lg) :
    Filed s { d with files := files', log := log' } l where
  files := hfiles
  sorted := h.sorted
  down hd := ⟨(h.down hd).1, (h.down hd).2.1, hdown hd⟩
  apart := h.apart
  made e he := (h.made e he).within hwithin
  owner name w hw := by
    obtain ⟨e, he, hname, hopen, htends⟩ := h.owner name w hw
    exact ⟨e, he, hname, hopen, htends.within hwithin⟩
  opened := h.opened
  nodup := h.nodup
  routed := h.routed
  log := hlog

lemma save (h : d.Filed s l) {file : String} {data : List UInt8}
    (hwrite : d.files.write s.folder file data = .ok files') : Filed s { d with files := files' } l := by
  obtain ⟨p, id, -, hsound, -⟩ := FileStore.replaced h.files hwrite
  have hwithin := FileStore.write_within hwrite
  exact h.refile hwithin hsound (fun hd => (h.down hd).2.2) fun lg hlg => (h.log lg hlg).within hwithin

lemma note (h : d.Filed s l) (hup : d.isUp = true) (data : List UInt8) :
    Filed s { d with
      files := ((d.logger s).write data d.files).2.2, log := some ((d.logger s).write data d.files).2.1 } l := by
  obtain ⟨hsound, hlog, -⟩ := (IsLog.logger h.log).note h.files data
  exact h.refile (FileLogger.write_within _ data _) hsound (fun hd => absurd hup (by simp [hd]))
    fun lg hlg => Option.some.inj hlg ▸ hlog

/-- Writers go on with their files, and the periods with them. -/
lemma revise (h : d.Filed s l) (change : LedgerEntry → LedgerEntry)
    (hchange : ∀ e, (change e).name = e.name ∧ (change e).isOpen = e.isOpen ∧ (change e).sensors = e.sensors)
    {writers : Dict (RecordWriter FileLogger)} (hsorted : writers.Sorted) (hnil : d.writers = [] → writers = [])
    (hkeys : ∀ name, writers.contains name = d.writers.contains name) (hwithin : d.files.Within files')
    (hfiles : files'.Sound 0)
    (howner : ∀ name w w', d.writers.get? name = some w → writers.get? name = some w' →
      ∀ e, e.name = name → Tends s d.files e w → Tends s files' (change e) w') :
    Filed s { d with writers, files := files' } (l.map change) := by
  have hroutes := h.routes.revise hchange
  refine ⟨hfiles, hsorted, fun hd => ?_, ?_, fun e' he' => ?_, fun name w' hw' => ?_, fun e' he' hholds => ?_,
    hroutes.nodup, hroutes.mem, fun lg hlg => (h.log lg hlg).within hwithin⟩
  · obtain ⟨hnone, hroutes, hlog⟩ := h.down hd
    exact ⟨hnil hnone, hroutes, hlog⟩
  · refine List.pairwise_map.mpr (h.apart.imp fun {e e'} hclosed hname => ?_)
    rw [(hchange e).1, (hchange e').1] at hname
    exact (hchange e).2.1.trans (hclosed hname)
  · obtain ⟨e, he, rfl⟩ := List.mem_map.mp he'
    rw [(hchange e).1]
    exact (h.made e he).within hwithin
  · have hcontains : d.writers.contains name = true := hkeys name ▸ Option.isSome_iff_exists.mpr ⟨w', hw'⟩
    obtain ⟨w, hw⟩ := Option.isSome_iff_exists.mp hcontains
    obtain ⟨e, he, hname, hopen, htends⟩ := h.owner name w hw
    exact ⟨change e, List.mem_map_of_mem he, (hchange e).1.trans hname, (hchange e).2.1.trans hopen,
      howner name w w' hw hw' e hname htends⟩
  · obtain ⟨e, he, rfl⟩ := List.mem_map.mp he'
    rw [(hchange e).1]
    refine (hkeys e.name).trans (h.opened e he ?_)
    rw [holds, ← (hchange e).2.1]
    exact hholds

lemma pause (h : d.Filed s l) (name : String) (paused : Bool) :
    Filed s { d with writers := d.writers.adjust name (·.setPaused paused) }
      (l.mark name fun e => { e with paused }) := by
  refine h.revise (fun e => if e.name = name then { e with paused } else e)
    (fun e => by split <;> exact ⟨rfl, rfl, rfl⟩) ?_ (fun hnil => by rw [hnil]; rfl) (fun n => ?_) (.refl _) h.files
    fun n w w' hw hw' e hname htends => ?_
  · rw [Dict.adjust]
    split
    · exact h.sorted.insert name _
    · exact h.sorted
  · rw [Dict.contains, Dict.contains, Dict.get?_adjust]
    split <;> simp
  · rw [Dict.get?_adjust, hw] at hw'
    by_cases heq : name = n
    · rw [if_pos heq, Option.map_some] at hw'
      obtain rfl := Option.some.inj hw'
      rw [if_pos (hname.trans heq.symm)]
      exact htends.setPaused paused
    · rw [if_neg heq] at hw'
      obtain rfl := Option.some.inj hw'
      rw [if_neg fun h => heq (h.symm.trans hname)]
      exact htends

/-- A sample that reaches a record. -/
lemma deliver (h : d.Filed s l) {x : PhoneSample} {sensor : String} (hframe : SensorType.frameId? sensor = some x.frame)
    (name : String) : (d.deliver x name).Filed s l := by
  rw [Desk.deliver]
  cases hw : d.writers.get? name with
  | none => exact h
  | some w =>
    obtain ⟨e, he, rfl, hopen, htends⟩ := h.owner name w hw
    obtain ⟨p, id, w', files', data, -, -, hwrite, -, happended⟩ := htends.write h.files hframe x.timestamp x.values
    dsimp only
    rw [hwrite]
    have hrevised := h.revise (fun e => e) (fun _ => ⟨rfl, rfl, rfl⟩) (h.sorted.insert e.name w') (fun hnil => ?_)
      (fun n => ?_) happended.within (happended.sound h.files) fun n v v' hv hv' e' hname htends' => ?_
    · rwa [List.map_id'] at hrevised
    · rw [hnil] at hw
      cases hw
    · rw [Dict.contains, Dict.contains, Dict.get?_insert]
      split
      · next heq => rw [← heq, hw]; rfl
      · rfl
    · rw [Dict.get?_insert] at hv'
      split at hv'
      · next heq =>
        obtain rfl : w = v := Option.some.inj (hw.symm.trans (heq ▸ hv))
        obtain ⟨-, -, u, files'', -, -, -, hwrite', htends'', -⟩ := htends'.write h.files hframe x.timestamp x.values
        obtain ⟨-, hrest⟩ := Prod.mk.inj (hwrite.symm.trans hwrite')
        obtain ⟨rfl, rfl⟩ := Prod.mk.inj hrest
        exact Option.some.inj hv' ▸ htends''
      · obtain rfl : v = v' := Option.some.inj (hv.symm.trans hv')
        exact htends'.within happended.within

lemma deliver_all (h : d.Filed s l) {x : PhoneSample} {sensor : String}
    (hframe : SensorType.frameId? sensor = some x.frame) (names : List String) :
    (names.foldl (Desk.deliver x) d).Filed s l := by
  induction names generalizing d with
  | nil => exact h
  | cons name rest ih => exact ih (h.deliver hframe name)

/-- A sample that takes the route of its sensor. -/
lemma sample (h : d.Filed s l) {x : PhoneSample} {sensor : String}
    (hframe : SensorType.frameId? sensor = some x.frame) :
    (d.sample x sensor).Filed s (l.map (d.receive x sensor)) := by
  have hsample : (d.sample x sensor).Filed s l := h.deliver_all hframe _
  have hreceive (e : LedgerEntry) : (d.receive x sensor e).name = e.name ∧ (d.receive x sensor e).isOpen = e.isOpen ∧
      (d.receive x sensor e).sensors = e.sensors ∧ (d.receive x sensor e).paused = e.paused := by
    rw [receive]
    split <;> exact ⟨rfl, rfl, rfl, rfl⟩
  refine hsample.revise (d.receive x sensor) (fun e => ⟨(hreceive e).1, (hreceive e).2.1, (hreceive e).2.2.1⟩)
    hsample.sorted (fun hnil => hnil) (fun _ => rfl) (.refl _) hsample.files fun name w w' hw hw' e _ htends => ?_
  obtain rfl : w = w' := Option.some.inj (hw.symm.trans hw')
  exact htends.change (hreceive e).1 (hreceive e).2.2.2

/-- A record that is closed has no writer and no routes any more. -/
lemma close (h : d.Filed s l) (name : String) :
    Filed s { d with
      routes := Run.removeRoutes d.routes name, writers := d.writers.erase name
      files := (d.writers.get? name).elim d.files fun w => (w.close d.files).2.2 }
      (l.mark name fun e => { e with isOpen := false }) := by
  have hsame : (∀ p, ((d.writers.get? name).elim d.files fun w => (w.close d.files).2.2).find? p = d.files.find? p) ∧
      ((d.writers.get? name).elim d.files fun w => (w.close d.files).2.2).contents.length =
        d.files.contents.length := by
    cases d.writers.get? name with
    | none => exact ⟨fun _ => rfl, rfl⟩
    | some w => exact ⟨w.sink.close_find? d.files, w.sink.close_length d.files⟩
  generalize (d.writers.get? name).elim d.files (fun w => (w.close d.files).2.2) = files' at hsame
  have hwithin : d.files.Within files' := .of_find? hsame.1
  have hroutes := h.routes.close name
  refine ⟨h.files.of_find? hsame.1 hsame.2, h.sorted.erase name, fun hd => ?_, ?_, fun e' he' => ?_, fun n w hw => ?_,
    fun e' he' hholds => ?_, hroutes.nodup, hroutes.mem, fun lg hlg => (h.log lg hlg).within hwithin⟩
  · obtain ⟨hwriters, hroutes, hlog⟩ := h.down hd
    exact ⟨by rw [hwriters]; rfl, by rw [hroutes]; rfl, hlog⟩
  · refine List.pairwise_map.mpr (h.apart.imp fun {e e'} hclosed hname => ?_)
    by_cases heq : e.name = name
    · rw [if_pos heq]
    · rw [if_neg heq] at hname ⊢
      refine hclosed (hname.trans ?_)
      split <;> rfl
  · obtain ⟨e, he, ⟨-, rfl⟩ | ⟨-, rfl⟩⟩ := mem_mark he'
    · exact (h.made e' he).within hwithin
    · exact (h.made e he).within hwithin
  · rw [Dict.get?_erase] at hw
    split at hw
    · cases hw
    · next hne =>
      obtain ⟨e, he, rfl, hopen, htends⟩ := h.owner n w hw
      exact ⟨e, mem_mark_of_ne he (Ne.symm hne), rfl, hopen, htends.within hwithin⟩
  · obtain ⟨e, he, ⟨hne, rfl⟩ | ⟨-, rfl⟩⟩ := mem_mark he'
    · rw [Dict.contains, Dict.get?_erase, if_neg (Ne.symm hne)]
      exact h.opened e' he hholds
    · simp [holds] at hholds

/-- A record that is created has its file open and the routes of its sensors. -/
lemma create (h : d.Filed s l) {a : RecordArguments} {sensors : List String} (hup : d.isUp = true)
    (hclosed : d.writers.contains a.name = false)
    (hcreate : RecordWriter.create
      (FileLogger.new s.folder a.name Run.recordExtension s.config.loggerBufferCount) Run.recordDescriptor d.files =
      (.ok (), w, files')) :
    Filed s { d with
      files := files', writers := d.writers.insert a.name (w.setPaused a.paused)
      routes := Run.addRoutes d.routes sensors a.name }
      (l ++ [{ name := a.name, sensors, paused := a.paused }]) := by
  obtain ⟨p, id, files₁, data, hopened, happended, hserves⟩ := RecordWriter.create_phone h.files rfl rfl rfl hcreate
  have hlike := RecordWriter.like_create
    (FileLogger.new s.folder a.name Run.recordExtension s.config.loggerBufferCount) Run.recordDescriptor d.files
  rw [hcreate] at hlike
  have hwithin : d.files.Within files' := hopened.within.trans happended.within
  have htends : Tends s files' ⟨a.name, sensors, true, a.paused, []⟩ (w.setPaused a.paused) :=
    ⟨hlike.folder, hlike.file, p, id, _, FileStore.locate_within hwithin hopened.place,
      happended.within _ _ hopened.find, hserves.setPaused a.paused⟩
  generalize hentry : (⟨a.name, sensors, true, a.paused, []⟩ : LedgerEntry) = e at htends
  have hname : a.name = e.name := by rw [← hentry]
  have hsensors : sensors = e.sensors := by rw [← hentry]
  have hopen : e.isOpen = true := by rw [← hentry]
  have hholds : d.holds e = true := by simp [holds, hup, hopen]
  rw [hname] at hclosed ⊢
  rw [hsensors]
  have hroutes := h.routes.create hholds
  refine ⟨happended.sound (hopened.sound h.files), h.sorted.insert _ _,
    fun hd => absurd hup (by simp [show d.isUp = false from hd]), ?_, fun e' he' => ?_, fun n v hv => ?_,
    fun e' he' hholds' => ?_, hroutes.nodup, hroutes.mem, fun lg hlg => (h.log lg hlg).within hwithin⟩
  · refine List.pairwise_append.mpr ⟨h.apart, List.pairwise_singleton _ _, fun e' he' e'' he'' hsame => ?_⟩
    obtain rfl := List.mem_singleton.mp he''
    by_contra hgoes
    have hcontains := h.opened e' he' (by simpa [holds, hup] using hgoes)
    rw [hsame, hclosed] at hcontains
    cases hcontains
  · obtain he' | rfl := by simpa using he'
    · exact (h.made e' he').within hwithin
    · obtain ⟨p, id, image, hplace, hfind, -⟩ := htends.serves
      exact ⟨p, id, hplace, hfind⟩
  · rw [Dict.get?_insert] at hv
    split at hv
    · next heq => exact ⟨e, by simp, heq, hopen, Option.some.inj hv ▸ htends⟩
    · obtain ⟨e', he', hn, hopen', htends'⟩ := h.owner n v hv
      exact ⟨e', List.mem_append_left _ he', hn, hopen', htends'.within hwithin⟩
  · rw [Dict.contains, Dict.get?_insert]
    split
    · rfl
    · next hne =>
      obtain he' | rfl := by simpa using he'
      · exact h.opened e' he' hholds'
      · exact absurd rfl hne

/-- Nothing is open once everything has been closed. -/
lemma release (h : d.Filed s l) (isUp : Bool) {l' : Ledger} (hnames : l'.names = l.names)
    (hapart : l'.Pairwise fun e e' => e.name = e'.name → e.isOpen = false)
    (hclosed : isUp = true → ∀ e ∈ l', e.isOpen = false) : Filed s ⟨isUp, [], [], none, d.released⟩ l' := by
  have hroutes : RoutesAgree isUp [] l' := .of_closed hclosed
  obtain ⟨hfind, hlength⟩ := d.released_same
  refine ⟨h.files.of_find? hfind hlength, Dict.sorted_nil, fun _ => ⟨rfl, rfl, rfl⟩, hapart, fun e he => ?_,
    fun n w hw => (by cases hw), fun e he hholds => ?_, hroutes.nodup, hroutes.mem, fun lg hlg => (by cases hlg)⟩
  · obtain ⟨e', he', hname⟩ := List.mem_map.mp (hnames ▸ mem_names he)
    exact hname ▸ (h.made e' he').within (.of_find? hfind)
  · obtain ⟨hup, hopen⟩ := Bool.and_eq_true_iff.mp (show (isUp && e.isOpen) = true from hholds)
    rw [hclosed hup e he] at hopen
    cases hopen

lemma entered (h : x.1.Filed s x.2) (hentered : Entered s x y) : y.1.Filed s y.2 := by
  obtain ⟨hbooked, hgenuine⟩ := hentered
  cases hbooked with
  | save hfile hwrite => exact h.save hwrite
  | furnish hfolders =>
    have hfurnished := FileStore.createFoldersFrom_furnished hfolders
    exact h.refile hfurnished.within (hfurnished.sound h.files) (fun hd => (h.down hd).2.2)
      fun lg hlg => (h.log lg hlg).within hfurnished.within
  | note hup data => exact h.note hup data
  | create a sensors hup hcreate => exact h.create hup (hgenuine _ rfl) hcreate
  | repeated e hopen => exact absurd hopen (by simp [show Dict.contains _ e.name = false from hgenuine e rfl])
  | close name => exact h.close name
  | pause name paused => exact h.pause name paused
  | sample x sensor hframe => exact h.sample hframe
  | fall => exact h.release false rfl h.apart (by simp)
  | rise hdown =>
    exact h.release true (names_map _ fun _ => rfl)
      (List.pairwise_map.mpr (h.apart.imp fun _ _ => rfl)) fun _ e he => Ledger.isOpen_of_closed he

lemma enters (h : x.1.Filed s x.2) (henters : Enters s x y) : y.1.Filed s y.2 := by
  induction henters with
  | refl => exact h
  | tail _ hentered ih => exact ih.entered hentered

end Filed

end Desk

/-! ## All moves -/

namespace Run

variable {s : Setup} {r : Run} {l : Ledger}

lemma filed_newRun {x : Ensemble} (hfiles : x.files.Sound 0) : (x.newRun s).desk.Filed s [] where
  files := hfiles
  sorted := Dict.sorted_nil
  down _ := ⟨rfl, rfl, rfl⟩
  apart := .nil
  made e he := by cases he
  owner name w hw := by cases hw
  opened e he := by cases he
  nodup _ := List.nodup_nil
  routed sensor name := by simp [Desk.route, desk, Ensemble.newRun, Ensemble.lend, initial]
  log lg hlg := by cases hlg

lemma enters_of_filed (h : r.desk.Filed s l) {m : Move} (hm : r.Unshared m) :
    Desk.Enters s (r.desk, l) ((r.after s m).desk, l.periods s r m) :=
  enters_after l hm fun hup => h.contains_eq (by simpa [desk] using hup)

lemma filed_afterAll (h : r.desk.Filed s l) {moves : List Move} (hmoves : r.AllUnshared s moves) :
    (r.afterAll s moves).desk.Filed s (l.allPeriods s r moves) := by
  induction moves generalizing r l with
  | nil => exact h
  | cons m rest ih => exact ih (Desk.Filed.enters (x := (r.desk, l)) h (enters_of_filed h hmoves.1)) hmoves.2

end Run

end FieldStudy
