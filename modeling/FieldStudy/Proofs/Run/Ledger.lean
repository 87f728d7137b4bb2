import Mathlib.Data.List.Basic
import Mathlib.Tactic.Common
import FieldStudy.Proofs.Recording.Phone
import FieldStudy.Proofs.Run.Turns
import FieldStudy.Proofs.Storage.FileStore

/-!
# What records are to hold

The rules for records, told from the moves of a run alone.  The ledger has an entry for every record that a node has
created, with the samples that it is to hold: those of the sensors that its node lists, brought while the record was
open and not paused, for a role that was not paused either.  Writers, routes and buffers play no part in it.
-/

namespace FieldStudy

/-- A record that a node has created. -/
structure LedgerEntry where
  name : String
  /-- The sensors that the node lists. -/
  sensors : List String
  isOpen : Bool := true
  paused : Bool
  /-- The samples of the record, in the order of the calls. -/
  samples : List PhoneSample := []
deriving DecidableEq, Repr

abbrev Ledger := List LedgerEntry

namespace LedgerEntry

/-- The bytes of the file of the record: the header of a phone, its end, and a frame for each sample. -/
def image (e : LedgerEntry) : List UInt8 :=
  (Phone.descriptor true true).toBytes ++ headerEnd ++ e.samples.flatMap PhoneSample.bytes

/-- Whether a sample of a sensor of a role belongs to the record.  A run that has stopped has no open records. -/
def takes (e : LedgerEntry) (r : Run) (role sensor : String) : Bool :=
  r.state ≠ .stopped && e.isOpen && !e.paused && e.sensors.contains sensor &&
    !(r.roles.get? role).any (·.isPaused)

def offer (e : LedgerEntry) (r : Run) (role sensor : String) (timestamp : UInt64) (values : List Single) :
    LedgerEntry :=
  match SensorType.frameId? sensor with
  | some frame => if e.takes r role sensor then { e with samples := e.samples ++ [⟨frame, timestamp, values⟩] } else e
  | none => e

end LedgerEntry

namespace Ledger

def names (l : Ledger) : List String := l.map (·.name)

/-- Closes every record, as the end of a run does. -/
def closed (l : Ledger) : Ledger := l.map fun e => { e with isOpen := false }

lemma isOpen_of_closed {l : Ledger} {e : LedgerEntry} (he : e ∈ l.closed) : e.isOpen = false := by
  obtain ⟨e', -, rfl⟩ := List.mem_map.mp he
  rfl

/-- Changes the entries of a name. -/
def mark (l : Ledger) (name : String) (change : LedgerEntry → LedgerEntry) : Ledger :=
  l.map fun e => if e.name = name then change e else e

/-- What an action does to the ledger.  A record of a microphone is none of samples, and neither is one without
sensors. -/
def take (l : Ledger) : Action → Ledger
  | .record .create a =>
    match a.sensors.getD [] with
    | [] => l
    | first :: others =>
      if first = SensorType.mic then l
      else l ++ [{ name := a.name, sensors := first :: others, paused := a.paused }]
  | .record .close a => l.mark a.name fun e => { e with isOpen := false }
  | .record .pause a => l.mark a.name fun e => { e with paused := true }
  | .record .unpause a => l.mark a.name fun e => { e with paused := false }
  | _ => l

end Ledger

namespace Ledger

/-- The ledger after a move of a run. -/
def after (s : Setup) (r : Run) (l : Ledger) : Move → Ledger
  | .start => if r.state = .stopped then l.closed else l
  | .sample role sensor timestamp values => l.map fun e => e.offer r role sensor timestamp values
  | m => (r.taken? s m).elim l l.take

def afterAll (s : Setup) : Run → Ledger → List Move → Ledger
  | _, l, [] => l
  | r, l, m :: rest => afterAll s (r.after s m) (l.after s r m) rest

end Ledger

/-! ## What is assumed of a run -/

namespace Run

/-- A move of a run that has the files to itself and can open those of its records. -/
structure Admissible (s : Setup) (r : Run) (m : Move) : Prop where
  alone : ∀ shared, m = .others shared → shared.files = r.files
  opens : ∀ a, r.taken? s m = some (.record .create a) → (r.createRecord s a).1 = .ok ()

def AllAdmissible (s : Setup) : Run → List Move → Prop
  | _, [] => True
  | r, m :: rest => r.Admissible s m ∧ AllAdmissible s (r.after s m) rest

/-- The file of a record within the folder of the run. -/
def recordFile (name : String) : String := fileName name recordExtension

/-- The file of the log within the folder of the run. -/
def logFile : String := fileName logName logExtension

/-- Each name is created once, and each leads to a file of its own, which was not there before. -/
structure RecordsApart (s : Setup) (earlier files : FileStore) (names : List String) : Prop where
  once : names.Nodup
  apart : ∀ n ∈ names, ∀ n' ∈ names, ∀ p, files.locate s.folder (recordFile n) = .ok p →
    files.locate s.folder (recordFile n') = .ok p → n = n'
  log : ∀ n ∈ names, ∀ p, files.locate s.folder (recordFile n) = .ok p →
    files.locate s.folder logFile ≠ .ok p
  fresh : ∀ n ∈ names, ∀ p, files.locate s.folder (recordFile n) = .ok p → earlier.read? p = none

lemma RecordsApart.before {s : Setup} {earlier files files' : FileStore} {names names' : List String}
    (h : RecordsApart s earlier files' names') (hfiles : files.Within files') (hnames : names.Sublist names') :
    RecordsApart s earlier files names where
  once := h.once.sublist hnames
  apart n hn n' hn' p hp hp' := h.apart n (hnames.subset hn) n' (hnames.subset hn') p
    (FileStore.locate_within hfiles hp) (FileStore.locate_within hfiles hp')
  log n hn p hp hlog := h.log n (hnames.subset hn) p (FileStore.locate_within hfiles hp)
    (FileStore.locate_within hfiles hlog)
  fresh n hn p hp := h.fresh n (hnames.subset hn) p (FileStore.locate_within hfiles hp)

end Run

end FieldStudy
