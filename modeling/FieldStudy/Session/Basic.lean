import FieldStudy.Run.Schedule

/-!
# Sessions

A session runs one scenario at a time, each in a folder below its root that is named by the time, and on
stopping says whether the data are to be kept. Files, notices, calls of the backend and the clock are common to all of
its runs.
-/

namespace FieldStudy

/-- What a session does not decide about one of its runs. -/
structure Occasion where
  /-- What the clock of the host shows, in milliseconds, when the folder of the run is named. -/
  time : Int
  drains : Drains := {}

structure Session where
  config : Config
  /-- The folder that holds the folders of the runs. -/
  root : Path
  backend : Backend := .none
  /-- The occasions on which folders are named, one after another. The clock may show the same time again. -/
  occasions : Nat → Occasion
  /-- All runs that were ever started. -/
  ensemble : Ensemble
  /-- How many folders of runs have been named. -/
  folders : Nat := 0

/-- What is left of a run that was stopped. -/
structure Acquisition where
  folder : Path
  reason : StopReason
  keepData : Bool
deriving DecidableEq, Repr

namespace Session

/-- A session that has run nothing yet. -/
def initial (config : Config) (root : Path) (backend : Backend) (files : FileStore)
    (occasions : Nat → Occasion := fun n => { time := n }) : Session :=
  { config, root, backend, occasions, ensemble := { files } }

def current? (x : Session) : Option LiveRun := x.ensemble.current?

/-- Acts on the current run, if there is one. -/
def act (x : Session) (f : Setup → Run → α × Run) : Option α × Session :=
  let (answer, ensemble) := x.ensemble.act f
  (answer, { x with ensemble })

/-! ## Starting, pausing and resuming -/

/-- The run that keeps another from starting. -/
def active? (x : Session) : Option LiveRun :=
  x.current?.filter (·.run.state ≠ .stopped)

/-- The occasion of the next run. -/
def nextOccasion (x : Session) : Occasion := x.occasions x.folders

/-- The folder of the next run. It may be there already. -/
def nextFolder (x : Session) : Path := x.root ++ [toString x.nextOccasion.time]

/-- Starts a scenario with the devices that meet a requirement of it. There must be such a device, and no run may
be under way. -/
def start (x : Session) (d : Definition) (profile : Profile) (devices : List Device) :
    Except ScenarioError Unit × Session :=
  match x.active? with
  | some e =>
    let message := s!"scenario {e.setup.definition.scenarioId} is still running"
    (.error (.definition message), x)
  | none =>
    let selected := requiredDevices devices d.info.required
    if selected.isEmpty then
      (.error (.capability "no available sensor device satisfies the scenario requirements"), x)
    else
      let folder := x.nextFolder
      let drains := x.nextOccasion.drains
      match x.ensemble.files.createFolders folder with
      | .error e => (.error (.io e), x)
      | .ok files =>
        let x := { x with ensemble := { x.ensemble with files }, folders := x.folders + 1 }
        let setup : Setup :=
          { definition := d, folder, profile, config := x.config, available := devices,
            preselected := selected, backend := x.backend, drains }
        match (x.ensemble.newRun setup).start setup with
        | (.error e, r) => (.error e, { x with ensemble := { x.ensemble with files := r.files } })
        | (.ok (), r) => (.ok (), { x with ensemble := x.ensemble.install setup r })

def pause (x : Session) : Session := (x.act fun s r => ((), r.pause s)).2

def resume (x : Session) : Session := (x.act fun s r => ((), r.resume s)).2

/-! ## Stopping -/

/-- Leaves the session without a current run. -/
def dismiss (x : Session) : Session := { x with ensemble := x.ensemble.dismiss }

/-- Stops the current run and reports what is left of it. -/
def stop (x : Session) : Option Acquisition × Session :=
  let (acquisition, x) := x.act fun s r =>
    let r := r.stop s none
    let reason := r.finished.getD .completed
    (Acquisition.mk s.folder reason reason.keepsData, r)
  (acquisition, x.dismiss)

/-- Stops the current run and removes its folder. -/
def cancel (x : Session) : Except ScenarioError Unit × Session :=
  match x.current? with
  | none => (.ok (), x)
  | some e =>
    let x := ((x.act fun s r => ((), r.stop s none)).2).dismiss
    let files := x.ensemble.files
    if (files.find? e.setup.folder).isNone then (.ok (), x)
    else match files.removeFolder e.setup.folder with
      | .ok files => (.ok (), { x with ensemble := { x.ensemble with files } })
      | .error e => (.error (.io e), x)

end Session

end FieldStudy
