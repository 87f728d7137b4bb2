import FieldStudy.Run.Records
import FieldStudy.Run.Sensors

/-!
# Starting, pausing, resuming and stopping

A run is stopped, running or paused. Starting and resuming begin a new epoch, pausing and stopping end the
current one; the tasks of an ended epoch come to their end without further effects.
-/

namespace FieldStudy.Run

/-- The branch that begins at the entry node. Its end is the end of the run. -/
def mainBranch : String := "main"

/-- Adds a task that is about to enter a point. -/
def spawn (r : Run) (branch : String) (done token : Nat) (p : Point) : Run :=
  let task : Task := ⟨branch, done, token, .entering p⟩
  { r with tasks := r.tasks ++ [task] }.enqueue r.tasks.length

/-- Starts a branch with a new signal for its end. -/
def spawnBranch (r : Run) (branch : String) (token : Nat) (p : Point) : Run :=
  let (done, r) := r.registerBranch branch
  r.spawn branch done token p

/-! ## Starting -/

/-- The state in which a run begins. What an earlier run left open is closed. -/
def reset (r : Run) (s : Setup) : Run :=
  let r := (r.clearPrompts.releaseFiles).renew
  { r with
    state := .running, point := none, counters := [], events := [], branches := []
    metadata := s.metadata.markStart r.now, roles := s.roles, routes := []
    listening := [], recording := [] }

/-- Makes the folder of a run, with the metadata and the snapshot of the definition. -/
def createFolder (r : Run) (s : Setup) : Except IoError Unit × Run :=
  match r.files.createFolders s.folder with
  | .error e => (.error e, r)
  | .ok files =>
    match r.metadata.save s.folder files with
    | .error e => (.error e, { r with files })
    | .ok files =>
      match s.definition.saveSnapshot s.folder files with
      | .error e => (.error e, { r with files })
      | .ok files => (.ok (), { r with files })

/-- Starts a run at the entry node, unless one is under way. -/
def start (r : Run) (s : Setup) : Except ScenarioError Unit × Run :=
  if r.state ≠ .stopped then (.ok (), r)
  else match (r.reset s).createFolder s with
    | (.error e, r) => (.error (.io e), { r.cancel with state := .stopped })
    | (.ok (), r) =>
      let r := { r with finished := none }.emit (.state .running)
      (.ok (), r.spawnBranch mainBranch r.token ⟨s.entry, none⟩)

/-! ## Pausing and resuming -/

/-- Suspends every branch. The point entered last is kept. -/
def pause (r : Run) (s : Setup) : Run :=
  if r.state ≠ .running then r
  else (({ r with state := .paused }.cancel.saveMetadata s).2).emit (.state .paused)

/-- The signal for the end of a branch that is resumed: its former one, unless that is resolved. -/
def branchSignal (r : Run) (branch : String) : Nat × Run :=
  match r.branches.get? branch with
  | some done => if r.signals.isResolved done then r.registerBranch branch else (done, r)
  | none => r.registerBranch branch

/-- Goes on with the main branch at the point entered last. No other branch is resumed. -/
def resume (r : Run) (s : Setup) : Run :=
  if r.state ≠ .paused then r
  else
    let r := ({ r with state := .running }.renew).emit (.state .running)
    let (done, r) := r.branchSignal mainBranch
    r.spawn mainBranch done r.token (r.point.getD ⟨s.entry, none⟩)

/-! ## Stopping -/

/-- The text of the end of a run in its last notice. -/
def finishedError? : StopReason → Option String
  | .completed => none
  | .aborted info => some info.reason
  | .failed message => some message

/-- Ends the epoch, takes the prompts and routes away and notes the time. -/
def halt (r : Run) : Run :=
  let r := { r with state := .stopped }.cancel.clearPrompts
  { r with routes := [] }.updateMetadata (·.markEnd r.now)

/-- Stops a run, closes what it opened and reports how it ended. -/
def stop (r : Run) (s : Setup) (error : Option ScenarioError) : Run :=
  if r.state = .stopped then r
  else
    let r := ((r.halt.releaseFiles.releaseSensors s).saveMetadata s).2
    let reason := StopReason.ofError error
    let r := r.emit (.state .stopped)
    { r.emit (.finished (finishedError? reason) r.metadata.abort) with finished := some reason }

end FieldStudy.Run
