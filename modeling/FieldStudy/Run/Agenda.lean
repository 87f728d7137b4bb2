/-!
# Agendas

Whose turn it is. Tasks that may go on stand in line, and the clock stands still while they run; once all of them
wait it goes on to the next deadline.
-/

namespace FieldStudy

/-- A task, by the number of its run and its own number there. -/
structure TaskId where
  run : Nat
  task : Nat
deriving DecidableEq, Repr

structure Agenda where
  /-- Milliseconds since the beginning. -/
  clock : Nat := 0
  /-- The tasks that are to go on, in turn. -/
  ready : List TaskId := []
  /-- Tasks that gave way and go on when the line is empty. -/
  yielded : List TaskId := []
  /-- How much the first task in line has used up of its turn. -/
  spent : Nat := 0
  /-- Deadlines with the tasks that wait for them, in order of registration. -/
  timers : List (Nat × TaskId) := []
deriving DecidableEq, Repr

namespace Agenda

/-! ## Turns -/

/-- How many waits a task may find over before it gives way to others. -/
def turnLimit : Nat := 128

/-- Puts a task in line unless it is. -/
def enqueue (a : Agenda) (id : TaskId) : Agenda :=
  if a.ready.contains id then a else { a with ready := a.ready ++ [id] }

theorem mem_ready_enqueue (a : Agenda) (id other : TaskId) :
    other ∈ (a.enqueue id).ready ↔ other ∈ a.ready ∨ other = id := by
  unfold enqueue
  split
  · next h =>
    have : id ∈ a.ready := by simpa using h
    exact ⟨Or.inl, fun ho => ho.elim (fun h => h) fun he => he ▸ this⟩
  · simp

@[simp] theorem clock_enqueue (a : Agenda) (id : TaskId) : (a.enqueue id).clock = a.clock := by
  unfold enqueue; split <;> rfl

@[simp] theorem timers_enqueue (a : Agenda) (id : TaskId) : (a.enqueue id).timers = a.timers := by
  unfold enqueue; split <;> rfl

/-- Ends the turn of the first task in line. -/
def endTurn (a : Agenda) : Agenda := { a with ready := a.ready.drop 1, spent := 0 }

/-- Ends the turn of the first task in line, which is to have another one. -/
def giveWay (a : Agenda) : Agenda :=
  { a.endTurn with yielded := a.yielded ++ a.ready.take 1 }

/-- Puts those in line that gave way. -/
def rejoin (a : Agenda) : Agenda := { a.yielded.foldl enqueue a with yielded := [] }

def spend (a : Agenda) (amount : Nat) : Agenda := { a with spent := a.spent + amount }

/-! ## Deadlines -/

def addTimer (a : Agenda) (deadline : Nat) (id : TaskId) : Agenda :=
  { a with timers := a.timers ++ [(deadline, id)] }

/-- Takes the deadlines of a task away. -/
def dropTimers (a : Agenda) (id : TaskId) : Agenda :=
  { a with timers := a.timers.filter (·.2 != id) }

def nextDeadline? (a : Agenda) : Option Nat := (a.timers.map (·.1)).min?

/-- Puts the clock to a time, and in line the tasks whose deadline it reaches. -/
def reach (a : Agenda) (time : Nat) : Agenda :=
  (a.timers.filter (·.1 ≤ time)).foldl (fun a (_, id) => a.enqueue id) { a with clock := time }

@[simp] theorem clock_reach (a : Agenda) (time : Nat) : (a.reach time).clock = time := by
  have h (due : List (Nat × TaskId)) (b : Agenda) :
      (due.foldl (fun a (_, id) => a.enqueue id) b).clock = b.clock := by
    induction due generalizing b with
    | nil => rfl
    | cons d rest ih => simp [ih]
  exact h _ _

end Agenda

end FieldStudy
