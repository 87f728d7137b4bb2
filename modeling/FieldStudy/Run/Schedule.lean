import FieldStudy.Run.Ensemble

/-!
# The order of steps

The tasks in line take turns, each until it waits or ends. The clock stands still meanwhile; then it goes on
to the next deadline. A walk that never waits is cut off after `stepLimit` steps.
-/

namespace FieldStudy.Ensemble

def stepLimit : Nat := 10000000

def withAgenda (x : Ensemble) (f : Agenda → Agenda) : Ensemble := { x with agenda := f x.agenda }

/-- One move of the first task in line. A task that has found many waits over in one turn gives way before it
looks at the next one. -/
def move (x : Ensemble) (id : TaskId) : Ensemble :=
  let waiting := x.isWaiting id
  if waiting && Agenda.turnLimit ≤ x.agenda.spent then x.withAgenda .giveWay
  else match x.step? id with
    | some y => if waiting then y.withAgenda (·.spend 1) else y
    | none => x.withAgenda .endTurn

/-- Lets the tasks in line run, at most so many moves. -/
def settleWithin : Nat → Ensemble → Ensemble
  | 0, x => x
  | n + 1, x =>
    match x.agenda.ready with
    | id :: _ => settleWithin n (x.move id)
    | [] => if x.agenda.yielded.isEmpty then x else settleWithin n (x.withAgenda .rejoin)

/-- Lets the tasks in line run until each of them waits or has ended. -/
def settle (x : Ensemble) : Ensemble := settleWithin stepLimit x

/-! ## Time -/

/-- The next time to go to: a deadline of a task or of the host, but none beyond the end. -/
def nextTime (x : Ensemble) (own : Option Nat) (last : Nat) : Nat :=
  (x.agenda.nextDeadline?.toList ++ own.toList).foldl min last

/-- Lets the runs go on until the test gives an answer, but not beyond a time. The test is made when all tasks wait,
and first of all when the clock has moved. `own` is a deadline that the test depends on. -/
def waitFor (test : Ensemble → Option α) (own : Option Nat) (last : Nat) :
    Nat → Ensemble → Option α × Ensemble
  | 0, x => (none, x)
  | n + 1, x =>
    match test x with
    | some answer => (some answer, x)
    | none =>
      if last ≤ x.clock then (none, x)
      else
        let x := x.settle
        match test x with
        | some answer => (some answer, x)
        | none =>
          let next := max x.clock (x.nextTime own last)
          waitFor test own last n (x.withAgenda (·.reach next))

/-- Lets so many milliseconds pass. -/
def advance (x : Ensemble) (ms : Nat) : Ensemble :=
  ((waitFor (fun _ => (none : Option Unit)) none (x.clock + ms) stepLimit x).2).settle

/-- Waits for the end of the current run, at most so many milliseconds: whether it has ended. -/
def awaitEnd (x : Ensemble) (ms : Nat) : Bool × Ensemble :=
  let (ended, x) :=
    waitFor (·.current?.bind (·.run.finished)) none (x.clock + ms) stepLimit x
  (ended.isSome, x.settle)

/-! ## Actions outside of branches -/

/-- Goes on with an action of the host on the current run. -/
def proceed (x : Ensemble) (a : Await) (resumption : Resumption)
    (result : Except ScenarioError Int) : Option Outcome × Ensemble :=
  x.act fun s r => (r.endWait a).proceed s result resumption

/-- Gives up a wait of the host. -/
def abandon (x : Ensemble) : Await → Ensemble
  | .prompt id => (x.act fun _ r => ((), { r with prompts := r.prompts.desert id })).2
  | _ => x

/-- Waits for an action to end, at most until a time. -/
def completeBy (token last : Nat) :
    Nat → Option Outcome × Ensemble → Except ScenarioError (Option Int) × Ensemble
  | _, (none, x) => (.ok none, x)
  | _, (some (.done code), x) => (.ok (some code), x)
  | _, (some (.fails e), x) => (.error e, x)
  | 0, (some (.waits _ _), x) => (.ok none, x)
  | n + 1, (some (.waits a resumption), x) =>
    match waitFor (·.current?.bind (·.run.waitResult? token a)) a.deadline? last stepLimit x with
    | (some result, x) => completeBy token last n (x.proceed a resumption result)
    | (none, x) => (.ok none, x.abandon a)

/-- The name that messages give to a node that no branch has come to. -/
def looseNode : String := "exec"

/-- Takes the action of a node on behalf of the host, in an epoch of its own. It has so many milliseconds; without an
answer in that time it is given up. -/
def perform (x : Ensemble) (node : Node) (branch : String) (cancelled : Bool) (ms : Nat) :
    Except ScenarioError (Option Int) × Ensemble :=
  match Action.ofNode node with
  | .error e => (.error e, x)
  | .ok action =>
    let (token, x) := x.act fun _ r => r.issueToken cancelled
    let token := token.getD 0
    let v : Visit := ⟨branch, looseNode, node, token⟩
    let (result, x) :=
      completeBy token (x.clock + ms) stepLimit (x.act fun s r => r.execute s v action)
    (result, x.settle)

end FieldStudy.Ensemble
