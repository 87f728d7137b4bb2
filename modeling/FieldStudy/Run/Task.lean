import FieldStudy.Number.Seconds
import FieldStudy.Scenario.Action

/-!
# Tasks

A branch is walked by a task: it enters a point, takes the action of the node there, perhaps waits, and goes
on to the successor for the result code.
-/

namespace FieldStudy

/-- A place in the walk of a branch: a node and the result code that led to it. -/
structure Point where
  node : String
  previous : Option Int := none
deriving DecidableEq, Repr

def Point.toJson (p : Point) : Json :=
  .obj [("node_id", .str p.node), ("prev_result", Json.ofOption .int p.previous)]

/-- What a task waits for. Times are in milliseconds. -/
inductive Await
  | time (deadline : Nat)
  | prompt (id : Nat)
  /-- All or any of some signals, or else the deadline. -/
  | signals (all : Bool) (ids : List Nat) (deadline : Option Nat)
deriving DecidableEq, Repr

namespace Await

def deadline? : Await → Option Nat
  | .time deadline => some deadline
  | .prompt _ => none
  | .signals _ _ deadline => deadline

def waitsForSignal (signal : Nat) : Await → Bool
  | .signals _ ids _ => ids.contains signal
  | _ => false

def waitsForPrompt (id : Nat) : Await → Bool
  | .prompt other => other == id
  | _ => false

def isPrompt : Await → Bool
  | .prompt _ => true
  | _ => false

end Await

/-- A step of showing a message, after the message itself. -/
inductive DisplayStage
  | sleep (seconds : Double)
  | countdown (seconds : Double)
  | next
deriving DecidableEq, Repr

/-- How an action goes on once its wait is over. -/
inductive Resumption
  /-- It ends with this code. -/
  | code (result : Int)
  /-- It ends with the code that the wait brought. -/
  | answer
  | display (rest : List DisplayStage)
  /-- The wait brought the index of the device that is bound to the role. -/
  | bind (candidates : List Device) (role : String)

/-- What comes of taking an action. -/
inductive Outcome
  | done (code : Int)
  | fails (e : ScenarioError)
  | waits (await : Await) (resumption : Resumption)

inductive TaskStatus
  | entering (point : Point)
  | waiting (point : Point) (await : Await) (resumption : Resumption)
  | ended

/-- The walk of a branch. `done` is the signal of its end, and `token` is the epoch of the run that it
belongs to: it stops once that token is cancelled. -/
structure Task where
  branch : String
  done : Nat
  token : Nat
  status : TaskStatus

namespace Task

def hasEnded (t : Task) : Bool :=
  match t.status with
  | .ended => true
  | _ => false

def await? (t : Task) : Option Await :=
  match t.status with
  | .waiting _ a _ => some a
  | _ => none

end Task

end FieldStudy
