import FieldStudy.Run.Execute

/-!
# Walking a branch

One step of a task: it enters a point and takes the action there, or it goes on with an action whose wait is
over. A task ends where there is no successor, where it joins its own branch, at a failure, and when its token is
cancelled. The end of the main branch stops the run, and so does a failure.
-/

namespace FieldStudy.Run

def setStatus (r : Run) (i : Nat) (status : TaskStatus) : Run :=
  { r with tasks := r.tasks.modify i fun t => { t with status } }

/-- The status of a task that waits, and its timer if it has a deadline. -/
def suspend (r : Run) (i : Nat) (p : Point) (a : Await) (resumption : Resumption) : Run :=
  let r := match a.deadline? with
    | some deadline => { r with agenda := r.agenda.addTimer deadline (r.taskId i) }
    | none => r
  r.setStatus i (.waiting p a resumption)

/-- The end of a branch that has run out of nodes. -/
def finishBranch (r : Run) (s : Setup) (t : Task) : Run :=
  let r := r.resolve t.done 0
  if t.branch = mainBranch then r.stop s none else r

/-- The end of a branch by a failure; cancellation has no effect. -/
def failBranch (r : Run) (s : Setup) (t : Task) (e : ScenarioError) : Run :=
  match e with
  | .cancelled => r
  | e => (r.resolve t.done 0).stop s (some e)

/-- Takes a task on by what its action has come to. -/
def follow (r : Run) (s : Setup) (i : Nat) (t : Task) (p : Point) (node : Node) :
    Outcome → Run
  | .done code =>
    match node.successor? code with
    | some next => r.setStatus i (.entering ⟨next, some code⟩)
    | none => (r.finishBranch s t).setStatus i .ended
  | .fails e => (r.failBranch s t e).setStatus i .ended
  | .waits a resumption => r.suspend i p a resumption

/-- Whether a task of this token may take actions. -/
def isLive (r : Run) (token : Nat) : Bool := !r.isCancelled token && r.state = .running

/-- Enters a point and takes the action of its node. The point is noted in any case. -/
def enter (r : Run) (s : Setup) (i : Nat) (t : Task) (p : Point) : Run :=
  let r := { r with point := some p }
  if !r.isLive t.token then r.setStatus i .ended
  else match s.definition.node? p.node with
    | none => (r.finishBranch s t).setStatus i .ended
    | some node =>
      match Action.ofNode node with
      | .error e => r.follow s i t p node (.fails e)
      | .ok action =>
        if action.endsBranch t.branch then (r.resolve t.done 0).setStatus i .ended
        else
          let (outcome, r) := r.execute s ⟨t.branch, p.node, node, t.token⟩ action
          r.follow s i t p node outcome

/-- Takes a task out of its wait and goes on with the action. -/
def leaveWait (r : Run) (s : Setup) (i : Nat) (t : Task) (p : Point) (a : Await)
    (resumption : Resumption) (result : Except ScenarioError Int) : Run :=
  let r := { r with agenda := r.agenda.dropTimers (r.taskId i) }.endWait a
  let (outcome, r) := r.proceed s result resumption
  match s.definition.node? p.node with
  | some node => r.follow s i t p node outcome
  | none => r.setStatus i .ended

/-- One step of a task, unless it has ended or its wait is not over. -/
def step? (r : Run) (s : Setup) (i : Nat) : Option Run :=
  r.tasks[i]?.bind fun t =>
    match t.status with
    | .entering p => some (r.enter s i t p)
    | .waiting p a resumption =>
      (r.waitResult? t.token a).map (r.leaveWait s i t p a resumption)
    | .ended => none

end FieldStudy.Run
