import Mathlib.Data.List.Basic
import FieldStudy.Proofs.Run.Moves

/-!
# Turns

What one step of a task comes to.  It is told before the step by `Run.turn?`, and the step itself is the work on the
action (`Run.Worked`) with what follows from its outcome (`Run.close`), so that nobody has to open a step again
(`Run.step_cases`).
-/

namespace FieldStudy

/-- What a step of a task comes to at its point. -/
inductive Turn
  /-- The task ends where it is, because its epoch has ended. -/
  | dropped
  /-- There is no such node. -/
  | lost
  /-- The node joins the branch with itself. -/
  | ownJoin
  /-- The action of the node comes to an end, to a failure or to a wait. -/
  | acted (node : Node) (outcome : Outcome)

namespace Turn

/-- The code that the action ends with. -/
def code? : Turn → Option Int
  | .acted _ (.done code) => some code
  | _ => none

/-- Whether the branch has come to its end: there is no successor or no such node, it joins itself, or its action
has failed.  An action that is cancelled has not failed. -/
def isEnd : Turn → Bool
  | .dropped => false
  | .lost | .ownJoin => true
  | .acted node (.done code) => (node.successor? code).isNone
  | .acted _ (.fails e) => e ≠ .cancelled
  | .acted _ (.waits _ _) => false

/-- How the task stands afterwards. -/
def status (p : Point) : Turn → TaskStatus
  | .acted node (.done code) =>
    match node.successor? code with
    | some next => .entering ⟨next, some code⟩
    | none => .ended
  | .acted _ (.waits a resumption) => .waiting p a resumption
  | _ => .ended

end Turn

namespace Run

/-! ## Actions that are taken -/

/-- The action that a task which enters a point is going to take. -/
def action? (s : Setup) (r : Run) (t : Task) (p : Point) : Option Action :=
  if r.isLive t.token then
    (s.definition.node? p.node).bind fun node =>
      match Action.ofNode node with
      | .ok a => if a.endsBranch t.branch then none else some a
      | .error _ => none
  else none

/-- The action that a move is going to take. -/
def taken? (s : Setup) (r : Run) : Move → Option Action
  | .step i =>
    r.tasks[i]?.bind fun t =>
      match t.status with
      | .entering p => r.action? s t p
      | _ => none
  | _ => none

/-! ## Turns of tasks -/

/-- The turn of a task that enters a point. -/
def entry (s : Setup) (r : Run) (t : Task) (p : Point) : Turn :=
  if !r.isLive t.token then .dropped
  else match s.definition.node? p.node with
    | none => .lost
    | some node =>
      match Action.ofNode node with
      | .error e => .acted node (.fails e)
      | .ok a =>
        if a.endsBranch t.branch then .ownJoin
        else .acted node (({ r with point := some p } : Run).execute s ⟨t.branch, p.node, node, t.token⟩ a).1

/-- The run when a task has left its wait. -/
def awake (r : Run) (i : Nat) (a : Await) : Run :=
  { r with agenda := r.agenda.dropTimers (r.taskId i) }.endWait a

lemma modifies_awake (r : Run) (i : Nat) (a : Await) : Modifies [.prompts, .agenda] r (r.awake i a) := by
  have hset : Modifies [.prompts, .agenda] r { r with agenda := r.agenda.dropTimers (r.taskId i) } := by
    intro f hf
    cases f <;> first | rfl | simp at hf
  exact hset.trans ((modifies_endWait _ a).mono (by decide))

/-- The turn of a task that goes on after a wait. -/
def sequel (s : Setup) (r : Run) (i : Nat) (p : Point) (a : Await) (resumption : Resumption)
    (result : Except ScenarioError Int) : Turn :=
  match s.definition.node? p.node with
  | some node => .acted node ((r.awake i a).proceed s result resumption).1
  | none => .dropped

/-- The next turn of a task, with its point; nothing if it has ended or its wait is not over. -/
def turn? (s : Setup) (r : Run) (i : Nat) : Option (Point × Turn) :=
  r.tasks[i]?.bind fun t =>
    match t.status with
    | .entering p => some (p, r.entry s t p)
    | .waiting p a resumption =>
      (r.waitResult? t.token a).map fun result => (p, r.sequel s i p a resumption result)
    | .ended => none

/-- The code that the action of a task ends with in its next step. -/
def code? (s : Setup) (r : Run) (i : Nat) : Option Int := (r.turn? s i).bind (·.2.code?)

/-- The next step of a task is the end of its branch. -/
def endsBranch (s : Setup) (r : Run) (i : Nat) : Bool := (r.turn? s i).any (·.2.isEnd)

/-! ## The step in two parts -/

/-- The part of a step that is the work on the action. -/
inductive Worked (s : Setup) (r : Run) (i : Nat) (t : Task) : Point → Turn → Run → Prop
  /-- No action is taken at the point that is entered. -/
  | enters {p : Point} (hstatus : t.status = .entering p) (hnone : r.action? s t p = none) :
      Worked s r i t p (r.entry s t p) { r with point := some p }
  | takes {p : Point} {node : Node} {a : Action} (hstatus : t.status = .entering p)
      (hnode : s.definition.node? p.node = some node) (haction : r.action? s t p = some a) :
      Worked s r i t p
        (.acted node (({ r with point := some p } : Run).execute s ⟨t.branch, p.node, node, t.token⟩ a).1)
        (({ r with point := some p } : Run).execute s ⟨t.branch, p.node, node, t.token⟩ a).2
  | goesOn {p : Point} {a : Await} {resumption : Resumption} {result : Except ScenarioError Int}
      (hstatus : t.status = .waiting p a resumption) (hresult : r.waitResult? t.token a = some result) :
      Worked s r i t p (r.sequel s i p a resumption result) ((r.awake i a).proceed s result resumption).2

/-- The part of a step that follows from its turn. -/
def close (s : Setup) (r : Run) (i : Nat) (t : Task) (p : Point) : Turn → Run
  | .dropped => r.setStatus i .ended
  | .lost => (r.finishBranch s t).setStatus i .ended
  | .ownJoin => (r.resolve t.done 0).setStatus i .ended
  | .acted node outcome => r.follow s i t p node outcome

variable {r r' : Run} {s : Setup} {i : Nat} {t : Task}

lemma live_of_action? {p : Point} {a : Action} (h : r.action? s t p = some a) : r.isLive t.token = true := by
  rw [action?] at h
  split at h
  · assumption
  · cases h

/-- An action is taken in a run that goes on, by a task whose epoch has not ended. -/
lemma of_isLive {token : Nat} (h : r.isLive token = true) : r.state = .running ∧ r.isCancelled token = false := by
  rw [isLive] at h
  obtain ⟨hcancelled, hrunning⟩ := Bool.and_eq_true_iff.mp h
  exact ⟨of_decide_eq_true hrunning, by simpa using hcancelled⟩

lemma action?_eq_some_iff {p : Point} {a : Action} :
    r.action? s t p = some a ↔ r.isLive t.token = true ∧
      ∃ node, s.definition.node? p.node = some node ∧ Action.ofNode node = .ok a ∧
        a.endsBranch t.branch = false := by
  rw [action?]
  cases hlive : r.isLive t.token with
  | false => simp
  | true =>
    rw [if_pos rfl, Option.bind_eq_some_iff]
    constructor
    · rintro ⟨node, hnode, h⟩
      cases hok : Action.ofNode node with
      | error e => simp [hok] at h
      | ok b =>
        simp only [hok, Option.ite_none_left_eq_some, Option.some.injEq] at h
        obtain ⟨hends, rfl⟩ := h
        exact ⟨rfl, node, hnode, hok, by simpa using hends⟩
    · rintro ⟨-, node, hnode, hok, hends⟩
      exact ⟨node, hnode, by simp [hok, hends]⟩

lemma entry_of_action? {p : Point} {node : Node} {a : Action} (hnode : s.definition.node? p.node = some node)
    (haction : r.action? s t p = some a) :
    r.entry s t p =
      .acted node (({ r with point := some p } : Run).execute s ⟨t.branch, p.node, node, t.token⟩ a).1 := by
  obtain ⟨hlive, node', hnode', hok, hends⟩ := action?_eq_some_iff.mp haction
  obtain rfl : node' = node := Option.some.inj (hnode'.symm.trans hnode)
  simp [entry, hlive, hnode, hok, hends]

lemma taken?_step_iff {a : Action} : r.taken? s (.step i) = some a ↔
    ∃ t p, r.tasks[i]? = some t ∧ t.status = .entering p ∧ r.action? s t p = some a := by
  rw [taken?, Option.bind_eq_some_iff]
  refine exists_congr ?_
  intro t
  constructor
  · rintro ⟨ht, h⟩
    cases hstatus : t.status with
    | entering p =>
      rw [hstatus] at h
      exact ⟨p, ht, rfl, h⟩
    | waiting p b resumption => simp [hstatus] at h
    | ended => simp [hstatus] at h
  · rintro ⟨p, ht, hstatus, h⟩
    rw [hstatus]
    exact ⟨ht, h⟩

/-- Only a step takes an action. -/
lemma step_of_taken? {m : Move} {a : Action} (h : r.taken? s m = some a) : ∃ i, m = .step i := by
  cases m with
  | step i => exact ⟨i, rfl⟩
  | _ => cases h

lemma turn?_entering {p : Point} (s : Setup) (ht : r.tasks[i]? = some t) (hstatus : t.status = .entering p) :
    r.turn? s i = some (p, r.entry s t p) := by
  simp [turn?, ht, hstatus]

lemma turn?_waiting {p : Point} {a : Await} {resumption : Resumption} (s : Setup) (ht : r.tasks[i]? = some t)
    (hstatus : t.status = .waiting p a resumption) :
    r.turn? s i = (r.waitResult? t.token a).map fun result => (p, r.sequel s i p a resumption result) := by
  simp [turn?, ht, hstatus]

lemma turn?_ended (s : Setup) (ht : r.tasks[i]? = some t) (hstatus : t.status = .ended) :
    r.turn? s i = none := by
  simp [turn?, ht, hstatus]

/-- Whoever has no turn takes no action. -/
lemma taken?_of_turn? (h : r.turn? s i = none) : r.taken? s (.step i) = none := by
  refine Option.eq_none_iff_forall_ne_some.mpr ?_
  intro a ha
  obtain ⟨t, p, ht, hstatus, -⟩ := taken?_step_iff.mp ha
  rw [turn?_entering s ht hstatus] at h
  cases h

/-- Where no action is taken only the point is noted. -/
lemma enter_of_action?_eq_none (i : Nat) {p : Point} (hnone : r.action? s t p = none) :
    r.enter s i t p = ({ r with point := some p } : Run).close s i t p (r.entry s t p) := by
  rw [action?] at hnone
  rw [enter, entry, show ({ r with point := some p } : Run).isLive t.token = r.isLive t.token from rfl]
  cases hlive : r.isLive t.token with
  | false => rfl
  | true =>
    rw [hlive, if_pos rfl] at hnone
    cases hnode : s.definition.node? p.node with
    | none => rfl
    | some node =>
      rw [hnode, Option.bind_some] at hnone
      cases hok : Action.ofNode node with
      | error e => simp [hok, close]
      | ok a =>
        have hends : a.endsBranch t.branch = true := by simpa [hok] using hnone
        simp [hok, hends, close]

lemma enter_of_action? (i : Nat) {p : Point} {node : Node} {a : Action} (hnode : s.definition.node? p.node = some node)
    (haction : r.action? s t p = some a) :
    r.enter s i t p =
      (({ r with point := some p } : Run).execute s ⟨t.branch, p.node, node, t.token⟩ a).2.close s i t p
        (.acted node (({ r with point := some p } : Run).execute s ⟨t.branch, p.node, node, t.token⟩ a).1) := by
  obtain ⟨hlive, node', hnode', hok, hends⟩ := action?_eq_some_iff.mp haction
  obtain rfl : node' = node := Option.some.inj (hnode'.symm.trans hnode)
  rw [enter, show ({ r with point := some p } : Run).isLive t.token = true from hlive]
  simp [hnode, hok, hends, close]

/-- Entering a point is the work on its action and then what follows. -/
lemma enter_eq_close (s : Setup) (i : Nat) {p : Point} (hstatus : t.status = .entering p) :
    ∃ q, r.Worked s i t p (r.entry s t p) q ∧ r.enter s i t p = q.close s i t p (r.entry s t p) := by
  cases haction : r.action? s t p with
  | none => exact ⟨_, .enters hstatus haction, enter_of_action?_eq_none i haction⟩
  | some a =>
    obtain ⟨-, node, hnode, -⟩ := action?_eq_some_iff.mp haction
    rw [entry_of_action? hnode haction]
    exact ⟨_, .takes hstatus hnode haction, enter_of_action? i hnode haction⟩

/-- Leaving a wait is the work on the rest of the action and then what follows. -/
lemma leaveWait_eq_close (r : Run) (s : Setup) (i : Nat) (t : Task) (p : Point) (a : Await)
    (resumption : Resumption) (result : Except ScenarioError Int) :
    r.leaveWait s i t p a resumption result =
      ((r.awake i a).proceed s result resumption).2.close s i t p (r.sequel s i p a resumption result) := by
  rw [leaveWait, sequel]
  cases s.definition.node? p.node <;> rfl

/-- The step that takes an action: the work on it, and then the branch goes on. -/
lemma after_of_taken? {b : Action} (h : r.taken? s (.step i) = some b) :
    ∃ t p node, r.tasks[i]? = some t ∧ t.status = .entering p ∧ s.definition.node? p.node = some node ∧
      let e := ({ r with point := some p } : Run).execute s ⟨t.branch, p.node, node, t.token⟩ b
      r.turn? s i = some (p, .acted node e.1) ∧ r.after s (.step i) = e.2.follow s i t p node e.1 := by
  obtain ⟨t, p, ht, hstatus, haction⟩ := taken?_step_iff.mp h
  obtain ⟨-, node, hnode, -⟩ := action?_eq_some_iff.mp haction
  refine ⟨t, p, node, ht, hstatus, hnode, ?_, ?_⟩
  · rw [turn?_entering s ht hstatus, entry_of_action? hnode haction]
  · rw [after, step?_entering s ht hstatus, Option.getD_some, enter_of_action? i hnode haction, close]

/-- The step that goes on with an action: the work on what is left of it, and then the branch goes on. -/
lemma after_of_waitResult? {p : Point} {a : Await} {resumption : Resumption} {result : Except ScenarioError Int}
    {node : Node} (ht : r.tasks[i]? = some t) (hstatus : t.status = .waiting p a resumption)
    (hnode : s.definition.node? p.node = some node) (hresult : r.waitResult? t.token a = some result) :
    let e := (r.awake i a).proceed s result resumption
    r.turn? s i = some (p, .acted node e.1) ∧ r.after s (.step i) = e.2.follow s i t p node e.1 := by
  refine ⟨?_, ?_⟩
  · rw [turn?_waiting s ht hstatus, hresult, Option.map_some, sequel, hnode]
  · rw [after, step?_waiting s ht hstatus, hresult, Option.map_some, Option.getD_some, leaveWait_eq_close, sequel,
      hnode, close]

/-- What a step does: the work on the action and then what follows. -/
lemma step_cases (h : r.step? s i = some r') :
    ∃ t p turn q, r.tasks[i]? = some t ∧ r.turn? s i = some (p, turn) ∧ r.Worked s i t p turn q ∧
      r' = q.close s i t p turn := by
  obtain ⟨t, ht, -⟩ := Option.bind_eq_some_iff.mp h
  cases hstatus : t.status with
  | entering p =>
    rw [step?_entering s ht hstatus] at h
    obtain rfl := Option.some.inj h
    obtain ⟨q, hworked, hclose⟩ := r.enter_eq_close s i hstatus
    exact ⟨t, p, _, q, ht, turn?_entering s ht hstatus, hworked, hclose⟩
  | waiting p a resumption =>
    rw [step?_waiting s ht hstatus] at h
    obtain ⟨result, hresult, rfl⟩ := Option.map_eq_some_iff.mp h
    exact ⟨t, p, _, _, ht, by rw [turn?_waiting s ht hstatus, hresult, Option.map_some], .goesOn hstatus hresult,
      r.leaveWait_eq_close s i t p a resumption result⟩
  | ended => simp [step?_ended s ht hstatus] at h

/-! ## What steps leave alone -/

/-- The fields that a step can change: all but the tokens given out and the number of the run. -/
def stepFields : List RunField := stopFields ++ actionFields ++ [.point, .branches, .tasks]

lemma modifies_execute_step (r : Run) (s : Setup) (v : Visit) (a : Action) :
    Modifies stepFields r (r.execute s v a).2 := by
  by_cases hfork : ∃ branch, a = .fork branch
  · obtain ⟨branch, rfl⟩ := hfork
    show Modifies stepFields r (r.fork v branch).2
    rw [fork]
    split
    · exact .refl _ r
    · intro f hf
      cases f <;> first | rfl | simp [stepFields, actionFields, eventFields] at hf
  · by_cases habort : ∃ info, a = .abort info
    · obtain ⟨info, rfl⟩ := habort
      exact ((r.modifies_updateMetadata _).mono (by decide)).trans ((modifies_stop _ s _).mono (by decide))
    · exact (r.modifies_execute s v (fun branch h => hfork ⟨branch, h⟩) fun info h => habort ⟨info, h⟩).mono (by decide)

lemma Worked.modifies {p : Point} {turn : Turn} {q : Run} (h : r.Worked s i t p turn q) : Modifies stepFields r q := by
  have hpoint (p : Point) : Modifies stepFields r { r with point := some p } := by
    intro f hf
    cases f <;> first | rfl | simp [stepFields] at hf
  cases h with
  | enters => exact hpoint p
  | takes => exact (hpoint p).trans (modifies_execute_step _ s _ _)
  | goesOn => exact ((r.modifies_awake i _).mono (by decide)).trans ((modifies_proceed _ s _ _).mono (by decide))

lemma modifies_finishBranch (r : Run) (s : Setup) (t : Task) : Modifies stepFields r (r.finishBranch s t) := by
  have hresolve : Modifies stepFields r (r.resolve t.done 0) := (r.modifies_resolve t.done 0).mono (by decide)
  rw [finishBranch]
  split
  · exact hresolve.trans ((modifies_stop _ s none).mono (by decide))
  · exact hresolve

lemma modifies_failBranch (r : Run) (s : Setup) (t : Task) (e : ScenarioError) :
    Modifies stepFields r (r.failBranch s t e) := by
  cases e with
  | cancelled => exact .refl _ r
  | _ => exact ((r.modifies_resolve t.done 0).mono (by decide)).trans ((modifies_stop _ s _).mono (by decide))

lemma modifies_close (r : Run) (s : Setup) (i : Nat) (t : Task) (p : Point) (turn : Turn) :
    Modifies stepFields r (r.close s i t p turn) := by
  have hset (q : Run) (status : TaskStatus) : Modifies stepFields q (q.setStatus i status) := by
    intro f hf
    cases f <;> first | rfl | simp [stepFields] at hf
  cases turn with
  | dropped => exact hset r _
  | lost => exact (r.modifies_finishBranch s t).trans (hset _ _)
  | ownJoin => exact ((r.modifies_resolve t.done 0).mono (by decide)).trans (hset _ _)
  | acted node outcome =>
    cases outcome with
    | done code =>
      rw [close, follow]
      split
      · exact hset r _
      · exact (r.modifies_finishBranch s t).trans (hset _ _)
    | fails e => exact (r.modifies_failBranch s t e).trans (hset _ _)
    | waits a resumption =>
      rw [close, follow, suspend]
      split
      · intro f hf
        cases f <;> first | rfl | simp [stepFields, stopFields, haltFields] at hf
      · exact hset r _

lemma modifies_step (h : r.step? s i = some r') : Modifies stepFields r r' := by
  obtain ⟨t, p, turn, q, -, -, hworked, rfl⟩ := step_cases h
  exact hworked.modifies.trans (q.modifies_close s i t p turn)

/-- A task has a turn exactly when it can take a step. -/
lemma turn?_isSome (r : Run) (s : Setup) (i : Nat) : (r.turn? s i).isSome = (r.step? s i).isSome := by
  cases ht : r.tasks[i]? with
  | none => simp [turn?, step?, ht]
  | some t =>
    cases hstatus : t.status with
    | entering p => rw [turn?_entering s ht hstatus, step?_entering s ht hstatus]; rfl
    | waiting p a resumption =>
      rw [turn?_waiting s ht hstatus, step?_waiting s ht hstatus, Option.isSome_map, Option.isSome_map]
    | ended => rw [turn?_ended s ht hstatus, step?_ended s ht hstatus]; rfl

end Run

end FieldStudy
