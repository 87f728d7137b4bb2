import Mathlib.Data.List.Basic
import Mathlib.Data.List.Nodup
import Mathlib.Tactic.Common
import FieldStudy.Proofs.Dict
import FieldStudy.Proofs.Recording.PhoneFile
import FieldStudy.Proofs.Run.Ledger

/-!
# Writers, routes and files against the ledger

The part of a run that samples pass through: the open writers, the routes, the log and the files.  `Desk.Sound` says
that it agrees with a ledger: every record has a file of its own, an open record has its writer and its routes, and
file and writer together hold the samples of the ledger.  What a run stores besides its records leaves that as it is
(`Desk.Sound.save`, `Desk.Sound.furnish`, `Desk.Sound.note`).
-/

namespace FieldStudy

/-- The part of a run that samples pass through. -/
structure Desk where
  isUp : Bool
  writers : Dict (RecordWriter FileLogger)
  routes : Dict (List String)
  log : Option FileLogger
  files : FileStore

def Run.desk (r : Run) : Desk := ⟨r.state ≠ .stopped, r.writers, r.routes, r.log, r.files⟩

/-- The fields that make up the desk. -/
def Run.deskFields : List RunField := [.state, .writers, .routes, .log, .files]

lemma Run.Modifies.desk {fs : List RunField} {r r' : Run} (h : Run.Modifies fs r r')
    (hfs : ∀ f ∈ Run.deskFields, f ∉ fs) : r'.desk = r.desk := by
  have hstate : r'.state = r.state := h .state (hfs _ (by decide))
  have hwriters : r'.writers = r.writers := h .writers (hfs _ (by decide))
  have hroutes : r'.routes = r.routes := h .routes (hfs _ (by decide))
  have hlog : r'.log = r.log := h .log (hfs _ (by decide))
  have hfiles : r'.files = r.files := h .files (hfs _ (by decide))
  rw [Run.desk, Run.desk, hstate, hwriters, hroutes, hlog, hfiles]

namespace Desk

/-- The open records that take the samples of a sensor. -/
def route (d : Desk) (sensor : String) : List String := (d.routes.get? sensor).getD []

/-- Whether a record is open. -/
def holds (d : Desk) (e : LedgerEntry) : Bool := d.isUp && e.isOpen

/-- The file of a record, which was not there before. -/
structure Placed (s : Setup) (earlier files : FileStore) (name : String) (p : Path) (id : Nat) : Prop where
  place : files.locate s.folder (Run.recordFile name) = .ok p
  find : files.find? p = some (.file id)
  new : earlier.contents.length ≤ id

/-- The file of a record holds what the ledger says, together with the writer while the record is open. -/
def Keeps (s : Setup) (earlier : FileStore) (d : Desk) (e : LedgerEntry) : Prop :=
  ∃ p id, Placed s earlier d.files e.name p id ∧
    (d.holds e = true → ∃ w, d.writers.get? e.name = some w ∧ w.Serves d.files id e.paused e.image) ∧
    (d.holds e = false → d.files.bytes id = e.image)

/-- The files that a run makes besides those of its records. -/
def ownFiles : List String := [Metadata.file, Definition.snapshotFile, Run.logFile]

/-- Where a file comes from: it was there before, or the run has made it. -/
def Known (s : Setup) (earlier files : FileStore) (names : List String) (p : Path) : Prop :=
  earlier.read? p ≠ none ∨ (∃ file ∈ ownFiles, files.locate s.folder file = .ok p) ∨
    ∃ n ∈ names, files.locate s.folder (Run.recordFile n) = .ok p

/-- A logger of the log, which may have its file open. -/
structure IsLog (s : Setup) (files : FileStore) (l : FileLogger) : Prop where
  folder : l.folder = s.folder
  file : l.file = Run.logFile
  paused : l.paused = false
  handle : ∀ id, l.handle = some id →
    ∃ p, files.locate s.folder Run.logFile = .ok p ∧ files.find? p = some (.file id)

/-- The desk agrees with the ledger. -/
structure Sound (s : Setup) (earlier : FileStore) (d : Desk) (l : Ledger) : Prop where
  files : d.files.Sound earlier.contents.length
  sorted : d.writers.Sorted
  down : d.isUp = false → d.writers = [] ∧ d.routes = [] ∧ d.log = none
  owner : ∀ name w, d.writers.get? name = some w → ∃ e ∈ l, e.name = name ∧ e.isOpen = true
  nodup : ∀ sensor, (d.route sensor).Nodup
  routed : ∀ sensor name, name ∈ d.route sensor ↔
    ∃ e ∈ l, e.name = name ∧ d.holds e = true ∧ sensor ∈ e.sensors
  entry : ∀ e ∈ l, d.Keeps s earlier e
  log : ∀ lg, d.log = some lg → IsLog s d.files lg
  known : ∀ p id, d.files.find? p = some (.file id) → Known s earlier d.files l.names p

variable {s : Setup} {earlier files files' : FileStore} {d d' : Desk} {l : Ledger} {e : LedgerEntry}

/-! ## What stays as names are added -/

lemma Placed.within {name : String} {p : Path} {id : Nat} (h : Placed s earlier files name p id)
    (hwithin : files.Within files') : Placed s earlier files' name p id :=
  ⟨FileStore.locate_within hwithin h.place, hwithin _ _ h.find, h.new⟩

lemma Known.within {names names' : List String} {p : Path} (h : Known s earlier files names p)
    (hwithin : files.Within files') (hnames : names ⊆ names') : Known s earlier files' names' p := by
  obtain hearlier | ⟨file, hfile, hp⟩ | ⟨n, hn, hp⟩ := h
  · exact .inl hearlier
  · exact .inr (.inl ⟨file, hfile, FileStore.locate_within hwithin hp⟩)
  · exact .inr (.inr ⟨n, hnames hn, FileStore.locate_within hwithin hp⟩)

lemma IsLog.within {lg : FileLogger} (h : IsLog s files lg) (hwithin : files.Within files') :
    IsLog s files' lg where
  folder := h.folder
  file := h.file
  paused := h.paused
  handle id hid := by
    obtain ⟨p, hp, hfind⟩ := h.handle id hid
    exact ⟨p, FileStore.locate_within hwithin hp, hwithin _ _ hfind⟩

/-- An entry is kept where neither its writer nor its file is touched. -/
lemma Keeps.transfer (h : d.Keeps s earlier e) (hup : d'.isUp = d.isUp)
    (hwriter : d'.writers.get? e.name = d.writers.get? e.name) (hwithin : d.files.Within d'.files)
    (hbytes : ∀ p id, Placed s earlier d.files e.name p id → d'.files.bytes id = d.files.bytes id) :
    d'.Keeps s earlier e := by
  obtain ⟨p, id, hplaced, hopen, hclosed⟩ := h
  have hholds : d'.holds e = d.holds e := by rw [holds, holds, hup]
  refine ⟨p, id, hplaced.within hwithin, fun he => ?_, fun he => ?_⟩
  · obtain ⟨w, hw, hserves⟩ := hopen (hholds ▸ he)
    exact ⟨w, hwriter.trans hw, hserves.transfer (hbytes p id hplaced)⟩
  · rw [hbytes p id hplaced]
    exact hclosed (hholds ▸ he)

/-! ## Records have files of their own -/

lemma Placed.ne {names : List String} {n n' : String} {p p' : Path} {id id' : Nat}
    (h : Placed s earlier files n p id) (h' : Placed s earlier files n' p' id')
    (hapart : Run.RecordsApart s earlier files names) (hs : files.Sound earlier.contents.length)
    (hn : n ∈ names) (hn' : n' ∈ names) (hne : n ≠ n') : id ≠ id' := by
  rintro rfl
  obtain rfl := hs.inj p p' id h.new h.find h'.find
  exact hne (hapart.apart n hn n' hn' p h.place h'.place)

lemma entry_eq {e' : LedgerEntry} (hnodup : l.names.Nodup) (he : e ∈ l) (he' : e' ∈ l)
    (hname : e.name = e'.name) : e = e' :=
  List.inj_on_of_nodup_map hnodup he he' hname

lemma mem_names (he : e ∈ l) : e.name ∈ l.names := List.mem_map_of_mem he

/-- The path of a record is not that of the metadata or of the snapshot. -/
lemma place_ne_document {name file : String} {p q : Path}
    (hp : files.locate s.folder (Run.recordFile name) = .ok p)
    (hfile : file = Metadata.file ∨ file = Definition.snapshotFile)
    (hq : files'.locate s.folder file = .ok q) : p ≠ q := by
  obtain rfl | rfl := hfile
  · have hname : Metadata.file.toList = "metadata".toList ++ '.' :: "json".toList := rfl
    exact FileStore.locate_fileName_ne rfl (by decide) (by decide) hp hname (by decide) (by decide) (by decide) hq
  · have hname : Definition.snapshotFile.toList = "scenario".toList ++ '.' :: "json".toList := rfl
    exact FileStore.locate_fileName_ne rfl (by decide) (by decide) hp hname (by decide) (by decide) (by decide) hq

/-! ## Documents, folders and notes -/

/-- A change of files that leaves those of the records as they are, with a log that has been written to. -/
lemma Sound.refile (h : d.Sound s earlier l) {log' : Option FileLogger} (hwithin : d.files.Within files')
    (hfiles : files'.Sound earlier.contents.length)
    (hbytes : ∀ e ∈ l, ∀ p id, Placed s earlier d.files e.name p id → files'.bytes id = d.files.bytes id)
    (hdown : d.isUp = false → log' = none) (hlog : ∀ lg, log' = some lg → IsLog s files' lg)
    (hnew : ∀ p id, files'.find? p = some (.file id) → d.files.find? p = some (.file id) ∨
      ∃ file ∈ ownFiles, files'.locate s.folder file = .ok p) :
    Sound s earlier { d with files := files', log := log' } l where
  files := hfiles
  sorted := h.sorted
  down hd := ⟨(h.down hd).1, (h.down hd).2.1, hdown hd⟩
  owner := h.owner
  nodup := h.nodup
  routed := h.routed
  entry e he := (h.entry e he).transfer rfl rfl hwithin (hbytes e he)
  log := hlog
  known p id hp := by
    obtain hold | hown := hnew p id hp
    · exact (h.known p id hold).within hwithin (List.Subset.refl _)
    · exact .inr (.inl hown)

/-- Storing the metadata or the snapshot does not touch records. -/
lemma Sound.save (h : d.Sound s earlier l) {file : String} {data : List UInt8}
    (hfile : file = Metadata.file ∨ file = Definition.snapshotFile)
    (hwrite : d.files.write s.folder file data = .ok files') :
    Sound s earlier { d with files := files' } l := by
  obtain ⟨p, id, hreplaced, hsound, hne⟩ := FileStore.replaced h.files hwrite
  have hwithin := FileStore.write_within hwrite
  refine h.refile hwithin hsound (fun e _ q i hplaced => ?_) (fun hd => (h.down hd).2.2)
    (fun lg hlg => (h.log lg hlg).within hwithin) (fun q i hq => ?_)
  · have hqp : q ≠ p := place_ne_document hplaced.place hfile hreplaced.place
    have hid : id ≠ i := hne q i hplaced.new hplaced.find hqp
    exact hreplaced.bytes i (Ne.symm hid) (h.files.lt q i hplaced.find)
  · by_cases hqp : q = p
    · subst hqp
      refine .inr ⟨file, ?_, FileStore.locate_within hwithin hreplaced.place⟩
      obtain rfl | rfl := hfile <;> simp [ownFiles]
    · rw [hreplaced.find_of_ne q hqp] at hq
      exact .inl hq

lemma Sound.furnish (h : d.Sound s earlier l) (hfurnished : d.files.Furnished files') :
    Sound s earlier { d with files := files' } l :=
  h.refile hfurnished.within (hfurnished.sound h.files)
    (fun _ _ _ id _ => by rw [FileStore.bytes, FileStore.bytes, hfurnished.contents])
    (fun hd => (h.down hd).2.2) (fun lg hlg => (h.log lg hlg).within hfurnished.within)
    (fun p id hp => .inl (hfurnished.file p id hp))

lemma isLog_new (bufferCount : Nat) :
    IsLog s files (FileLogger.new s.folder Run.logName Run.logExtension bufferCount) :=
  ⟨rfl, rfl, rfl, fun _ hid => absurd hid (Option.some_ne_none _).symm⟩

/-- The file of the log is none of a record. -/
lemma Placed.ne_log {p q : Path} {id i : Nat} (hapart : Run.RecordsApart s earlier files l.names)
    (hs : files.Sound earlier.contents.length) (he : e ∈ l) (hplaced : Placed s earlier files e.name q i)
    (hp : files.locate s.folder Run.logFile = .ok p) (hfind : files.find? p = some (.file id)) : i ≠ id := by
  rintro rfl
  obtain rfl := hs.inj q p i hplaced.new hplaced.find hfind
  exact hapart.log e.name (mem_names he) q hplaced.place hp

/-- Writing to the log comes to nothing, or goes on with the file of the log open. -/
lemma IsLog.write_cases {lg : FileLogger} {n : Nat} (h : IsLog s files lg) (hs : files.Sound n) (data : List UInt8) :
    (∃ e, lg.write data files = (.error e, lg, files)) ∨
      ∃ p id files₁ lg₁, files.Opened files₁ s.folder Run.logFile p id ∧ lg₁.handle = some id ∧
        FileLogger.Like lg lg₁ ∧ lg.write data files = lg₁.write data files₁ := by
  cases hhandle : lg.handle with
  | some id =>
    obtain ⟨p, hp, hfind⟩ := h.handle id hhandle
    exact .inr ⟨p, id, files, lg, .of_find hs hp hfind, hhandle, ⟨rfl, rfl, rfl⟩, rfl⟩
  | none =>
    cases hopen : lg.openFile files with
    | error e => exact .inl ⟨e, FileLogger.write_of_failure hopen h.paused data⟩
    | ok found =>
      obtain ⟨id, files₁⟩ := found
      have happend : files.openAppend s.folder Run.logFile = .ok (id, files₁) := by
        simpa [FileLogger.openFile, hhandle, h.folder, h.file] using hopen
      obtain ⟨p, hopened⟩ := FileStore.opened hs happend
      exact .inr ⟨p, id, files₁, { lg with handle := some id }, hopened, rfl, ⟨rfl, rfl, rfl⟩,
        FileLogger.write_of_openFile hopen h.paused data⟩

/-- Writing to the log does not touch records. -/
lemma Sound.note (h : d.Sound s earlier l) (hapart : Run.RecordsApart s earlier d.files l.names)
    (hup : d.isUp = true) {lg : FileLogger} (hlg : IsLog s d.files lg) (data : List UInt8) :
    Sound s earlier { d with
      files := (lg.write data d.files).2.2, log := some (lg.write data d.files).2.1 } l := by
  have hdown {log' : Option FileLogger} : d.isUp = false → log' = none := by simp [hup]
  obtain ⟨e, hwrite⟩ | ⟨p, id, files₁, lg₁, hopened, hhandle, hlike, hwrite⟩ := hlg.write_cases h.files data
  · rw [hwrite]
    exact h.refile (.refl _) h.files (fun _ _ _ _ _ => rfl) hdown
      (fun _ hsome => Option.some.inj hsome ▸ hlg) (fun _ _ hq => .inl hq)
  · obtain ⟨lg', files', moved, hwrite', hhandle', hlike', happended, -⟩ :=
      FileLogger.write_open hhandle hopened.lt (hlike.paused.trans hlg.paused) data
    have hwithin : d.files.Within files' := hopened.within.trans happended.within
    rw [hwrite, hwrite']
    refine h.refile hwithin (happended.sound (hopened.sound h.files)) (fun e he q i hplaced => ?_) hdown
      (fun _ hsome => ?_) (fun q i hq => ?_)
    · have hqp : q ≠ p := by
        rintro rfl
        exact hapart.log e.name (mem_names he) q hplaced.place hopened.place
      have hne : id ≠ i := hopened.ne h.files hplaced.new hplaced.find hqp
      rw [happended.bytes_of_ne i (Ne.symm hne)]
      exact hopened.bytes i (h.files.lt q i hplaced.find)
    · obtain rfl := Option.some.inj hsome
      refine ⟨hlike'.folder.trans (hlike.folder.trans hlg.folder), hlike'.file.trans (hlike.file.trans hlg.file),
        hlike'.paused.trans (hlike.paused.trans hlg.paused), fun i hi => ?_⟩
      obtain rfl : id = i := Option.some.inj (hhandle'.symm.trans hi)
      exact ⟨p, FileStore.locate_within hwithin hopened.place, happended.within _ _ hopened.find⟩
    · rw [happended.find q] at hq
      by_cases hqp : q = p
      · subst hqp
        exact .inr ⟨Run.logFile, by simp [ownFiles], FileStore.locate_within hwithin hopened.place⟩
      · rw [hopened.find_of_ne q hqp] at hq
        exact .inl hq

/-! ## Marking entries -/

lemma names_map (l : Ledger) {change : LedgerEntry → LedgerEntry} (hname : ∀ e, (change e).name = e.name) :
    Ledger.names (l.map change) = l.names := by
  rw [Ledger.names, List.map_map]
  exact List.map_congr_left fun e _ => hname e

lemma names_mark (l : Ledger) (name : String) {change : LedgerEntry → LedgerEntry}
    (hname : ∀ e, (change e).name = e.name) : (l.mark name change).names = l.names := by
  refine names_map l fun e => ?_
  split
  · exact hname e
  · rfl

/-- The entries of a ledger in which one name has been marked. -/
lemma mem_mark {name : String} {change : LedgerEntry → LedgerEntry} {e' : LedgerEntry}
    (h : e' ∈ l.mark name change) :
    ∃ e ∈ l, (e.name ≠ name ∧ e' = e) ∨ (e.name = name ∧ e' = change e) := by
  obtain ⟨e, he, rfl⟩ := List.mem_map.mp h
  refine ⟨e, he, ?_⟩
  by_cases hname : e.name = name
  · exact .inr ⟨hname, if_pos hname⟩
  · exact .inl ⟨hname, if_neg hname⟩

lemma mem_mark_of_ne {name : String} {change : LedgerEntry → LedgerEntry} (he : e ∈ l) (hne : e.name ≠ name) :
    e ∈ l.mark name change :=
  List.mem_map.mpr ⟨e, he, if_neg hne⟩

/-- The writer of an open record. -/
lemma Sound.writer (h : d.Sound s earlier l) {name : String} {w : RecordWriter FileLogger}
    (hw : d.writers.get? name = some w) :
    ∃ e ∈ l, e.name = name ∧ d.holds e = true ∧
      ∃ p id, Placed s earlier d.files e.name p id ∧ w.Serves d.files id e.paused e.image := by
  obtain ⟨e, he, rfl, hopen⟩ := h.owner name w hw
  have hup : d.isUp = true := by
    by_contra hdown
    rw [(h.down (by simpa using hdown)).1] at hw
    cases hw
  have hholds : d.holds e = true := by simp [holds, hup, hopen]
  obtain ⟨p, id, hplaced, hserved, -⟩ := h.entry e he
  obtain ⟨w', hw', hserves⟩ := hserved hholds
  obtain rfl : w = w' := Option.some.inj (hw.symm.trans hw')
  exact ⟨e, he, rfl, hholds, p, id, hplaced, hserves⟩

/-- A record without a writer is not open. -/
lemma Sound.not_holds (h : d.Sound s earlier l) (he : e ∈ l) (hw : d.writers.get? e.name = none) :
    d.holds e = false := by
  by_contra hholds
  obtain ⟨p, id, -, hserved, -⟩ := h.entry e he
  obtain ⟨w, hw', -⟩ := hserved (by simpa using hholds)
  rw [hw] at hw'
  cases hw'

end Desk

end FieldStudy
