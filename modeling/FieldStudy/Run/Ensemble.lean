import FieldStudy.Run.Branch

/-!
# Runs side by side

Runs that share an agenda, files, a host and a backend. At most one of them is the current run, which the host
acts on. Another one goes on as long as it has a task that has not ended; then what it has open is closed.
-/

namespace FieldStudy

/-- A run with what is fixed for it. -/
structure LiveRun where
  setup : Setup
  run : Run

/-- Runs by number, with the present state of what they share; their own record of that counts only while they are
acted on. -/
structure Ensemble where
  files : FileStore
  notices : List Notice := []
  calls : List BackendCall := []
  agenda : Agenda := {}
  runs : List LiveRun := []
  /-- The number of the current run. -/
  current : Option Nat := none

namespace Ensemble

def clock (x : Ensemble) : Nat := x.agenda.clock

/-! ## Acting on a run -/

/-- A run with what all runs share. -/
def lend (x : Ensemble) (r : Run) : Run :=
  { r with files := x.files, notices := x.notices, calls := x.calls, agenda := x.agenda }

/-- Takes over what a run has made of it. -/
def takeBack (x : Ensemble) (i : Nat) (r : Run) : Ensemble :=
  { x with
    files := r.files, notices := r.notices, calls := r.calls, agenda := r.agenda
    runs := x.runs.modify i fun e => { e with run := r } }

@[simp] theorem length_takeBack (x : Ensemble) (i : Nat) (r : Run) :
    (x.takeBack i r).runs.length = x.runs.length := by
  simp [takeBack]

@[simp] theorem current_takeBack (x : Ensemble) (i : Nat) (r : Run) :
    (x.takeBack i r).current = x.current := rfl

/-- Another run is not touched by what one has made of the shared state. -/
theorem run_takeBack_of_ne (x : Ensemble) {i j : Nat} (r : Run) (h : i ≠ j) :
    (x.takeBack i r).runs[j]? = x.runs[j]? := by
  simp [takeBack, h]

def live? (x : Ensemble) (i : Nat) : Option LiveRun :=
  (x.runs[i]?).map fun e => { e with run := x.lend e.run }

def current? (x : Ensemble) : Option LiveRun := x.current.bind x.live?

/-- Acts on the current run, if there is one. -/
def act (x : Ensemble) (f : Setup → Run → α × Run) : Option α × Ensemble :=
  match x.current, x.current? with
  | some i, some e =>
    let (answer, r) := f e.setup e.run
    (some answer, x.takeBack i r)
  | _, _ => (none, x)

/-! ## Coming and going -/

/-- Closes what a run has open once neither the host nor a task needs it. -/
def letGo (x : Ensemble) (i : Nat) : Ensemble :=
  if x.current = some i then x
  else match x.live? i with
    | some e => if e.run.isIdle then x.takeBack i e.run.releaseFiles else x
    | none => x

/-- Leaves the host without a current run. -/
def dismiss (x : Ensemble) : Ensemble :=
  match x.current with
  | some i => { x with current := none }.letGo i
  | none => x

/-- A run that has not been started, with the next number. -/
def newRun (x : Ensemble) (s : Setup) : Run :=
  { x.lend (Run.initial s x.files) with number := x.runs.length }

/-- Adds a run that the host acts on from now on. -/
def install (x : Ensemble) (s : Setup) (r : Run) : Ensemble :=
  let i := x.runs.length
  { ({ x with runs := x.runs ++ [(⟨s, r⟩ : LiveRun)] }.takeBack i r).dismiss with current := some i }

/-- A single run that has not been started. -/
def ofSetup (s : Setup) (files : FileStore) : Ensemble :=
  let x : Ensemble := { files }
  x.install s (x.newRun s)

/-! ## Steps -/

/-- Whether a task waits. -/
def isWaiting (x : Ensemble) (id : TaskId) : Bool :=
  ((x.runs[id.run]?).bind (·.run.tasks[id.task]?)).any (·.await?.isSome)

/-- One step of a task, unless it has ended or its wait is not over. -/
def step? (x : Ensemble) (id : TaskId) : Option Ensemble :=
  (x.live? id.run).bind fun e =>
    (e.run.step? e.setup id.task).map fun r => (x.takeBack id.run r).letGo id.run

end Ensemble

end FieldStudy
