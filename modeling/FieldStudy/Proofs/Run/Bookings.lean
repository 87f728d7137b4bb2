import Mathlib.Logic.Relation
import FieldStudy.Proofs.Run.OpenRecords

/-!
# Bookings

Every move of a run is composed of a few bookings, each of which changes the desk and the ledger together
(`Desk.Booked`).  Each keeps the two in agreement, as long as records have files of their own (`Desk.Sound.leads`).
-/

namespace FieldStudy

namespace Desk

/-- The logger for the next note: the log, or else a new one. -/
def logger (s : Setup) (d : Desk) : FileLogger :=
  d.log.getD (FileLogger.new s.folder Run.logName Run.logExtension s.config.loggerBufferCount)

/-- What an operation does to the desk, and to the ledger with it. -/
inductive Booked (s : Setup) : Desk × Ledger → Desk × Ledger → Prop
  /-- The metadata or the snapshot are stored. -/
  | save {d : Desk} {l : Ledger} {file : String} {data : List UInt8} {files : FileStore}
      (hfile : file = Metadata.file ∨ file = Definition.snapshotFile)
      (hwrite : d.files.write s.folder file data = .ok files) : Booked s (d, l) ({ d with files }, l)
  | furnish {d : Desk} {l : Ledger} {files : FileStore} (hfolders : d.files.createFolders s.folder = .ok files) :
      Booked s (d, l) ({ d with files }, l)
  | note {d : Desk} {l : Ledger} (hup : d.isUp = true) (data : List UInt8) :
      Booked s (d, l) ({ d with
        files := ((d.logger s).write data d.files).2.2, log := some ((d.logger s).write data d.files).2.1 }, l)
  | create {d : Desk} {l : Ledger} (a : RecordArguments) (sensors : List String) {w : RecordWriter FileLogger}
      {files : FileStore} (hup : d.isUp = true)
      (hcreate : RecordWriter.create
        (FileLogger.new s.folder a.name Run.recordExtension s.config.loggerBufferCount) Run.recordDescriptor d.files =
        (.ok (), w, files)) :
      Booked s (d, l) ({ d with
        files, writers := d.writers.insert a.name (w.setPaused a.paused)
        routes := Run.addRoutes d.routes sensors a.name },
        l ++ [{ name := a.name, sensors, paused := a.paused }])
  /-- A record that is open is created once more. -/
  | repeated {d : Desk} {l : Ledger} (e : LedgerEntry) (hopen : d.writers.contains e.name = true) :
      Booked s (d, l) (d, l ++ [e])
  | close {d : Desk} {l : Ledger} (name : String) :
      Booked s (d, l) ({ d with
        routes := Run.removeRoutes d.routes name, writers := d.writers.erase name
        files := (d.writers.get? name).elim d.files fun w => (w.close d.files).2.2 },
        l.mark name fun e => { e with isOpen := false })
  | pause {d : Desk} {l : Ledger} (name : String) (paused : Bool) :
      Booked s (d, l) ({ d with writers := d.writers.adjust name (·.setPaused paused) },
        l.mark name fun e => { e with paused })
  | sample {d : Desk} {l : Ledger} (x : PhoneSample) (sensor : String)
      (hframe : SensorType.frameId? sensor = some x.frame) :
      Booked s (d, l) (d.sample x sensor, l.map (d.receive x sensor))
  | fall {d : Desk} {l : Ledger} : Booked s (d, l) (⟨false, [], [], none, d.released⟩, l)
  | rise {d : Desk} {l : Ledger} (hdown : d.isUp = false) :
      Booked s (d, l) (⟨true, [], [], none, d.released⟩, l.closed)

/-- Bookings one after another. -/
def Leads (s : Setup) : Desk × Ledger → Desk × Ledger → Prop := Relation.ReflTransGen (Booked s)

variable {s : Setup} {earlier : FileStore} {x y z : Desk × Ledger}

namespace Leads

lemma refl (x : Desk × Ledger) : Leads s x x := Relation.ReflTransGen.refl

lemma of_eq {d d' : Desk} (h : d' = d) (l : Ledger) : Leads s (d, l) (d', l) := h ▸ refl _

lemma single (h : Booked s x y) : Leads s x y := Relation.ReflTransGen.single h

lemma trans (h : Leads s x y) (h' : Leads s y z) : Leads s x z := Relation.ReflTransGen.trans h h'

end Leads

/-! ## Names only come -/

lemma Booked.within (h : Booked s x y) : x.1.files.Within y.1.files := by
  cases h with
  | save hfile hwrite => exact FileStore.write_within hwrite
  | furnish hfolders => exact (FileStore.createFoldersFrom_furnished hfolders).within
  | note hup data => exact FileLogger.write_within _ data _
  | create a sensors hup hcreate => exact RecordWriter.create_within _ _ _ |> fun h => by rwa [hcreate] at h
  | repeated e hopen => exact .refl _
  | @close d l name =>
    cases hw : d.writers.get? name with
    | none => simpa [hw] using FileStore.Within.refl _
    | some w => simpa [hw] using w.close_within d.files
  | pause name paused => exact .refl _
  | sample x sensor hframe => exact deliver_all_within _ _ _
  | @fall d l => exact .of_find? d.released_same.1
  | @rise d l hdown => exact .of_find? d.released_same.1

lemma Booked.names (h : Booked s x y) : x.2.names.Sublist y.2.names := by
  have hsame {l l' : Ledger} (h : l'.names = l.names) : l.names.Sublist l'.names := h ▸ List.Sublist.refl _
  cases h with
  | save hfile hwrite => exact .refl _
  | furnish hfolders => exact .refl _
  | note hup data => exact .refl _
  | create a sensors hup hcreate => exact (List.sublist_append_left _ _).map _
  | repeated e hopen => exact (List.sublist_append_left _ _).map _
  | close name => exact hsame (names_mark _ name fun _ => rfl)
  | pause name paused => exact hsame (names_mark _ name fun _ => rfl)
  | @sample d l x sensor hframe => exact hsame (d.names_receive x sensor l)
  | fall => exact .refl _
  | rise hdown => exact hsame (names_map _ fun _ => rfl)

/-! ## Agreement is kept -/

lemma Sound.booked (h : x.1.Sound s earlier x.2) (hbooked : Booked s x y)
    (hapart : Run.RecordsApart s earlier y.1.files y.2.names) : y.1.Sound s earlier y.2 := by
  have hbefore : Run.RecordsApart s earlier x.1.files x.2.names :=
    hapart.before hbooked.within hbooked.names
  cases hbooked with
  | save hfile hwrite => exact h.save hfile hwrite
  | furnish hfolders => exact h.furnish (FileStore.createFoldersFrom_furnished hfolders)
  | @note d l hup data =>
    refine h.note hbefore hup ?_ data
    rw [logger]
    cases hlog : d.log with
    | none => exact isLog_new _
    | some lg => exact h.log lg hlog
  | create a sensors hup hcreate => exact h.create hup hcreate hapart
  | @repeated d l e hopen =>
    obtain ⟨w, hw⟩ := Option.isSome_iff_exists.mp hopen
    obtain ⟨e', he', hname, -⟩ := h.owner e.name w hw
    have honce : (l.names ++ [e.name]).Nodup := by simpa [Ledger.names] using hapart.once
    have hne := (List.nodup_append.mp honce).2.2 e'.name (mem_names he') e.name (List.mem_singleton.mpr rfl)
    exact absurd hname hne
  | close name => exact h.close hbefore name
  | pause name paused => exact h.pause name paused
  | @sample d l x sensor hframe => exact h.sample hframe (d.names_receive x sensor l ▸ hapart)
  | fall => exact h.fall hbefore
  | rise hdown => exact h.rise hdown

lemma Sound.leads (h : x.1.Sound s earlier x.2) (hleads : Leads s x y)
    (hapart : Run.RecordsApart s earlier y.1.files y.2.names) : y.1.Sound s earlier y.2 := by
  induction hleads with
  | refl => exact h
  | tail _ hbooked ih => exact (ih (hapart.before hbooked.within hbooked.names)).booked hbooked hapart

end Desk

end FieldStudy
