import FieldStudy.Run.Agenda
import FieldStudy.Run.Prompts
import FieldStudy.Run.Setup
import FieldStudy.Run.Signals
import FieldStudy.Run.Task
import FieldStudy.Scenario.Notice
import FieldStudy.Storage.FileLogger

/-!
# The state of a run

Everything that changes while a scenario runs, with the operations that all parts of a run share.
A run can be started again after it has stopped; notices, calls of the backend, files and the clock go on.
-/

namespace FieldStudy

structure Run where
  state : RunState := .stopped
  /-- The token of the current epoch; starting and resuming begin a new one. -/
  token : Nat := 0
  /-- How many tokens have been given out. -/
  tokens : Nat := 1
  cancelled : List Nat := []
  /-- The point that any branch entered last. -/
  point : Option Point := none
  counters : Dict Int := []
  signals : Signals := {}
  /-- The signal of each named event. -/
  events : Dict Nat := []
  /-- The signal of the end of each branch. -/
  branches : Dict Nat := []
  metadata : Metadata
  /-- The bound devices by role. -/
  roles : Dict RoleBinding
  prompts : Prompts := {}
  /-- The open records. -/
  writers : Dict (RecordWriter FileLogger) := []
  /-- The open records that take the samples of each type of sensor. -/
  routes : Dict (List String) := []
  /-- The log that notes of the scenario go to, from the first note on. -/
  log : Option FileLogger := none
  /-- Role and type of each sensor that is listened to. -/
  listening : List (String × String) := []
  /-- The roles whose microphone records. -/
  recording : List String := []
  files : FileStore
  notices : List Notice := []
  calls : List BackendCall := []
  /-- How the latest run ended. -/
  finished : Option StopReason := none
  tasks : List Task := []
  /-- The number of the run among those that share its agenda. -/
  number : Nat := 0
  agenda : Agenda := {}

namespace Run

/-- A scenario that has not been started. -/
def initial (s : Setup) (files : FileStore) : Run :=
  { metadata := s.metadata, roles := s.roles, files }

/-- Milliseconds since the beginning. -/
def clock (r : Run) : Nat := r.agenda.clock

def now (r : Run) : Int := r.clock

def emit (r : Run) (n : Notice) : Run := { r with notices := r.notices ++ [n] }

/-- Whether no branch goes on any more. -/
def isIdle (r : Run) : Bool := r.tasks.all Task.hasEnded

def isCancelled (r : Run) (token : Nat) : Bool := r.cancelled.contains token

/-- Makes a call of the backend. -/
def ask (r : Run) (s : Setup) (call : BackendCall) : Except ScenarioError Bool × Run :=
  (s.backend.reply r.calls call, { r with calls := r.calls ++ [call] })

/-! ## Waking tasks -/

def taskId (r : Run) (task : Nat) : TaskId := ⟨r.number, task⟩

/-- Puts a task in line unless it is. -/
def enqueue (r : Run) (task : Nat) : Run :=
  { r with agenda := r.agenda.enqueue (r.taskId task) }

/-- Puts the waiting tasks in line that a change concerns. -/
def wake (r : Run) (concerns : Task → Await → Bool) : Run :=
  r.tasks.zipIdx.foldl (fun r (t, i) =>
    match t.await? with
    | some a => if concerns t a then r.enqueue i else r
    | none => r) r

/-- Resolves a signal and wakes those who wait for it. -/
def resolve (r : Run) (signal : Nat) (value : Int) : Run :=
  { r with signals := r.signals.resolve signal value }.wake fun _ a => a.waitsForSignal signal

/-- Ends the current epoch and wakes its waiting tasks. -/
def cancel (r : Run) : Run :=
  { r with cancelled := r.token :: r.cancelled }.wake fun t _ => t.token == r.token

/-- Begins a new epoch. -/
def renew (r : Run) : Run := { r with token := r.tokens, tokens := r.tokens + 1 }

/-- Gives out a token that belongs to no epoch. -/
def issueToken (r : Run) (cancelled : Bool) : Nat × Run :=
  (r.tokens, { r with
    tokens := r.tokens + 1
    cancelled := if cancelled then r.tokens :: r.cancelled else r.cancelled })

/-- Withdraws the pending prompts and wakes those who wait for one. -/
def clearPrompts (r : Run) : Run :=
  { r with prompts := r.prompts.clear }.wake fun _ a => a.isPrompt

/-! ## Signals by name -/

def createSignal (r : Run) : Nat × Run := (r.signals.next, { r with signals := r.signals.create })

/-- The value of a named event; nothing if there is none of that name. -/
def eventValue? (r : Run) (name : String) : Option (Option Int) :=
  (r.events.get? name).map r.signals.value?

/-- The value of the end of a branch; nothing if there is none of that name. -/
def branchValue? (r : Run) (name : String) : Option (Option Int) :=
  (r.branches.get? name).map r.signals.value?

/-- Registers a new signal for the end of a branch. -/
def registerBranch (r : Run) (name : String) : Nat × Run :=
  let (signal, r) := r.createSignal
  (signal, { r with branches := r.branches.insert name signal })

/-! ## Prompts -/

/-- Issues a prompt and tells the host. -/
def prompt (r : Run) (notice : Nat → Notice) : Nat × Run :=
  let prompts := r.prompts.issue
  (prompts.issued, { r with prompts }.emit (notice prompts.issued))

/-- Answers a prompt: whether the answer is accepted, and the run with it. -/
def answer (r : Run) (id : Nat) (a : Answer) : Bool × Run :=
  if r.prompts.isPending id then
    (r.prompts.accepts id,
      { r with prompts := r.prompts.answer id a }.wake fun _ w => w.waitsForPrompt id)
  else (false, r)

/-! ## Metadata -/

def updateMetadata (r : Run) (f : Metadata → Metadata) : Run :=
  { r with metadata := f r.metadata }

/-- Stores the metadata. -/
def saveMetadata (r : Run) (s : Setup) : Except ScenarioError Unit × Run :=
  match r.metadata.save s.folder r.files with
  | .ok files => (.ok (), { r with files })
  | .error e => (.error (.io e), r)

/-- Ends an action: the metadata are stored, and the code is its result. -/
def savedWith (r : Run) (s : Setup) (code : Int) : Outcome × Run :=
  match r.saveMetadata s with
  | (.ok (), r) => (.done code, r)
  | (.error e, r) => (.fails e, r)

end Run

end FieldStudy
