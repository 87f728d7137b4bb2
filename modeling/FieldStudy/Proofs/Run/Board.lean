import Mathlib.Data.List.Basic
import Mathlib.Tactic.Common
import FieldStudy.Proofs.Run.Turns

/-!
# Signals and tasks

The board of a run is the part that says which signals there are, who is known by which of them, and where each task
stands.  What a move does to it is a sequence of a few deeds (`Run.board_after`), which are told from the turn of the
task.  So whatever is to be said about events, ends of branches and walks is proved for deeds.
-/

namespace FieldStudy

/-- Signals with the names that they are known by, and the tasks. -/
structure Board where
  signals : Signals
  events : Dict Nat
  branches : Dict Nat
  tasks : List Task

/-- What an operation does to the board. -/
inductive Deed
  | create (event : String)
  | reset (event : String)
  | set (event : String)
  /-- A branch begins, under a new signal for its end. -/
  | fork (branch : String) (token : Nat) (p : Point)
  /-- The main branch goes on, under its former signal unless that is resolved. -/
  | resume (token : Nat) (p : Point)
  /-- The branch of a task has come to its end. -/
  | finish (task : Nat)
  | turn (task : Nat) (status : TaskStatus)
  /-- No event and no branch is known any more. -/
  | clear

namespace Board

def resolve (b : Board) (signal : Nat) : Board := { b with signals := b.signals.resolve signal 0 }

/-- Makes a name known by a new signal. -/
def renewEvent (b : Board) (name : String) : Board :=
  { b with signals := b.signals.create, events := b.events.insert name b.signals.next }

def fork (b : Board) (branch : String) (token : Nat) (p : Point) : Board :=
  { b with
    signals := b.signals.create
    branches := b.branches.insert branch b.signals.next
    tasks := b.tasks ++ [⟨branch, b.signals.next, token, .entering p⟩] }

/-- The signal that the main branch keeps when it goes on. -/
def kept? (b : Board) : Option Nat :=
  (b.branches.get? Run.mainBranch).filter fun done => !b.signals.isResolved done

def after (b : Board) : Deed → Board
  | .create name => if b.events.contains name then b else b.renewEvent name
  | .reset name => if b.events.contains name then b.renewEvent name else b
  | .set name =>
    match b.events.get? name with
    | some signal => b.resolve signal
    | none => b
  | .fork branch token p => b.fork branch token p
  | .resume token p =>
    match b.kept? with
    | some done => { b with tasks := b.tasks ++ [⟨Run.mainBranch, done, token, .entering p⟩] }
    | none => b.fork Run.mainBranch token p
  | .finish i =>
    match b.tasks[i]? with
    | some t => b.resolve t.done
    | none => b
  | .turn i status => { b with tasks := b.tasks.modify i fun t => { t with status } }
  | .clear => { b with events := [], branches := [] }

def afterAll (b : Board) (deeds : List Deed) : Board := deeds.foldl after b

@[simp] lemma afterAll_nil (b : Board) : b.afterAll [] = b := rfl

@[simp] lemma afterAll_cons (b : Board) (d : Deed) (rest : List Deed) :
    b.afterAll (d :: rest) = (b.after d).afterAll rest := rfl

lemma afterAll_append (b : Board) (deeds others : List Deed) :
    b.afterAll (deeds ++ others) = (b.afterAll deeds).afterAll others :=
  List.foldl_append

/-! ## What a deed leaves as it is -/

lemma task_after {b : Board} {i : Nat} {t : Task} {d : Deed} (ht : b.tasks[i]? = some t)
    (hd : ∀ status, d ≠ .turn i status) : (b.after d).tasks[i]? = some t := by
  have hlength : i < b.tasks.length := (List.getElem?_eq_some_iff.mp ht).1
  have happend (u : Task) : (b.tasks ++ [u])[i]? = some t := by rw [List.getElem?_append_left hlength, ht]
  cases d with
  | create name => rw [after]; split <;> exact ht
  | reset name => rw [after]; split <;> exact ht
  | set name => rw [after]; split <;> exact ht
  | fork branch token p => exact happend _
  | resume token p => rw [after]; split <;> exact happend _
  | finish j => rw [after]; split <;> exact ht
  | turn j status =>
    have hne : j ≠ i := fun h => hd status (h ▸ rfl)
    simp [after, hne, ht]
  | clear => exact ht

/-- Only its own turn changes how a task stands. -/
lemma task_afterAll {b : Board} {i : Nat} {t : Task} {deeds : List Deed} (ht : b.tasks[i]? = some t)
    (hdeeds : ∀ status, .turn i status ∉ deeds) : (b.afterAll deeds).tasks[i]? = some t := by
  induction deeds generalizing b with
  | nil => exact ht
  | cons d rest ih =>
    refine ih (task_after ht fun status h => hdeeds status ?_) fun status h => hdeeds status ?_
    · exact h ▸ List.mem_cons_self
    · exact List.mem_cons_of_mem d h

end Board

/-! ## The deeds of a move -/

/-- The deeds of an action at a node. -/
def Action.deeds (node : Node) (token : Nat) : Action → List Deed
  | .fork branch => (node.successor? 1).toList.map fun entry => .fork branch token ⟨entry, none⟩
  | .event .create a => a.names.map .create
  | .event .reset a => a.names.map .reset
  | .event .set a => a.names.map .set
  | _ => []

def Turn.deeds (i : Nat) (p : Point) (turn : Turn) : List Deed :=
  (if turn.isEnd then [.finish i] else []) ++ [.turn i (turn.status p)]

namespace Run

def board (r : Run) : Board := ⟨r.signals, r.events, r.branches, r.tasks⟩

/-- The deeds of the action that a task is going to take. -/
def actionDeeds (s : Setup) (r : Run) (i : Nat) : List Deed :=
  match r.tasks[i]? with
  | some t =>
    match t.status with
    | .entering p =>
      match r.action? s t p, s.definition.node? p.node with
      | some a, some node => a.deeds node t.token
      | _, _ => []
    | _ => []
  | none => []

def deeds (s : Setup) (r : Run) : Move → List Deed
  | .start =>
    if r.state = .stopped then
      .clear :: match (r.start s).1 with
        | .ok () => [.fork mainBranch r.tokens ⟨s.entry, none⟩]
        | .error _ => []
    else []
  | .resume => if r.state = .paused then [.resume r.tokens (r.point.getD ⟨s.entry, none⟩)] else []
  | .step i =>
    match r.turn? s i with
    | some (p, turn) => r.actionDeeds s i ++ turn.deeds i p
    | none => []
  | _ => []

variable {r : Run} {s : Setup} {i : Nat}

lemma actionDeeds_of_taken? {a : Action} (h : r.taken? s (.step i) = some a) :
    ∃ t p node, r.tasks[i]? = some t ∧ t.status = .entering p ∧ s.definition.node? p.node = some node ∧
      r.actionDeeds s i = a.deeds node t.token := by
  obtain ⟨t, p, ht, hstatus, haction⟩ := taken?_step_iff.mp h
  obtain ⟨-, node, hnode, -⟩ := action?_eq_some_iff.mp haction
  exact ⟨t, p, node, ht, hstatus, hnode, by simp [actionDeeds, ht, hstatus, haction, hnode]⟩

lemma actionDeeds_of_none (h : r.taken? s (.step i) = none) : r.actionDeeds s i = [] := by
  rw [actionDeeds]
  split
  · next t ht =>
    split
    · next p hstatus =>
      have haction : r.action? s t p = none := by simpa [taken?, ht, hstatus] using h
      rw [haction]
    · rfl
  · rfl

lemma turn_notMem_actionDeeds (r : Run) (s : Setup) (i j : Nat) (status : TaskStatus) :
    .turn j status ∉ r.actionDeeds s i := by
  rw [actionDeeds]
  split
  · split
    · split
      · next a node _ _ =>
        cases a with
        | event op b => cases op <;> simp [Action.deeds]
        | _ => simp [Action.deeds]
      · exact List.not_mem_nil
    · exact List.not_mem_nil
  · exact List.not_mem_nil

/-! ## Operations on the board -/

/-- The fields that make up the board. -/
def boardFields : List RunField := [.signals, .events, .branches, .tasks]

/-- Who keeps off signals and tasks keeps the board. -/
lemma Modifies.board {fs : List RunField} {r r' : Run} (h : Modifies fs r r')
    (hfs : ∀ f ∈ boardFields, f ∉ fs) : r'.board = r.board := by
  have hsignals : r'.signals = r.signals := h .signals (hfs _ (by decide))
  have hevents : r'.events = r.events := h .events (hfs _ (by decide))
  have hbranches : r'.branches = r.branches := h .branches (hfs _ (by decide))
  have htasks : r'.tasks = r.tasks := h .tasks (hfs _ (by decide))
  rw [Run.board, Run.board, hsignals, hevents, hbranches, htasks]

variable (r : Run) (s : Setup)

/-- Stopping leaves signals and tasks as they are. -/
lemma board_stop (error : Option ScenarioError) : (r.stop s error).board = r.board :=
  (r.modifies_stop s error).board (by decide)

lemma board_resolve (signal : Nat) : (r.resolve signal 0).board = r.board.resolve signal :=
  (modifies_wake { r with signals := r.signals.resolve signal 0 } _).board (by decide)

lemma board_finishBranch (t : Task) : (r.finishBranch s t).board = r.board.resolve t.done := by
  rw [finishBranch]
  split
  · exact (board_stop _ s none).trans (r.board_resolve t.done)
  · exact r.board_resolve t.done

lemma board_failBranch (t : Task) {e : ScenarioError} (he : e ≠ .cancelled) :
    (r.failBranch s t e).board = r.board.resolve t.done := by
  cases e with
  | cancelled => exact absurd rfl he
  | _ => exact (board_stop _ s _).trans (r.board_resolve t.done)

lemma board_spawn (branch : String) (done token : Nat) (p : Point) :
    (r.spawn branch done token p).board =
      { r.board with tasks := r.tasks ++ [⟨branch, done, token, .entering p⟩] } :=
  (modifies_enqueue { r with tasks := r.tasks ++ [⟨branch, done, token, .entering p⟩] } r.tasks.length).board
    (by decide)

lemma board_spawnBranch (branch : String) (token : Nat) (p : Point) :
    (r.spawnBranch branch token p).board = r.board.fork branch token p :=
  board_spawn (r.registerBranch branch).2 branch _ token p

lemma board_setStatus (i : Nat) (status : TaskStatus) :
    (r.setStatus i status).board = r.board.after (.turn i status) := rfl

lemma board_suspend (i : Nat) (p : Point) (a : Await) (resumption : Resumption) :
    (r.suspend i p a resumption).board = r.board.after (.turn i (.waiting p a resumption)) := by
  rw [suspend]
  split <;> rfl

/-! ## Events -/

lemma board_createEvent (name : String) : (r.createEvent name).board = r.board.after (.create name) := by
  rw [createEvent, Board.after, show r.board.events = r.events from rfl]
  split <;> rfl

lemma board_resetEvent (name : String) : (r.resetEvent name).board = r.board.after (.reset name) := by
  rw [resetEvent, Board.after, show r.board.events = r.events from rfl]
  split <;> rfl

lemma board_setEvent (name : String) : (r.setEvent name).board = r.board.after (.set name) := by
  rw [setEvent, Board.after, show r.board.events = r.events from rfl]
  cases r.events.get? name with
  | none => rfl
  | some signal => exact r.board_resolve signal

/-- An operation on each of some names is one deed after another. -/
lemma board_foldl {f : Run → String → Run} {deed : String → Deed}
    (hf : ∀ r name, (f r name).board = r.board.after (deed name)) (names : List String) :
    (names.foldl f r).board = r.board.afterAll (names.map deed) := by
  induction names generalizing r with
  | nil => rfl
  | cons name rest ih => rw [List.foldl_cons, ih, hf, List.map_cons, Board.afterAll_cons]

/-- What an action does to the board. -/
lemma board_execute (v : Visit) (a : Action) :
    (r.execute s v a).2.board = r.board.afterAll (a.deeds v.node v.token) := by
  by_cases hfork : ∃ branch, a = .fork branch
  · obtain ⟨branch, rfl⟩ := hfork
    show (r.fork v branch).2.board = _
    rw [fork, Action.deeds]
    cases v.node.successor? 1 with
    | none => rfl
    | some entry => exact r.board_spawnBranch branch v.token ⟨entry, none⟩
  · by_cases hevent : ∃ op b, a = .event op b
    · obtain ⟨op, b, rfl⟩ := hevent
      cases op with
      | create => exact r.board_foldl board_createEvent b.names
      | reset => exact r.board_foldl board_resetEvent b.names
      | set => exact r.board_foldl board_setEvent b.names
      | wait => exact congrArg board (r.waitEvents_run false b)
      | waitAll => exact congrArg board (r.waitEvents_run true b)
    · have hnone : a.deeds v.node v.token = [] := by
        cases a with
        | fork branch => exact absurd ⟨branch, rfl⟩ hfork
        | event op b => exact absurd ⟨op, b, rfl⟩ hevent
        | _ => rfl
      rw [hnone, Board.afterAll_nil]
      by_cases habort : ∃ info, a = .abort info
      · obtain ⟨info, rfl⟩ := habort
        exact board_stop (r.updateMetadata fun m => { m with abort := some info }) s _
      · exact (r.modifies_execute_quiet s v (fun branch h => hfork ⟨branch, h⟩) (fun info h => habort ⟨info, h⟩)
          fun op b h => hevent ⟨op, b, h⟩).board (by decide)

/-! ## Steps -/

lemma board_awake (i : Nat) (a : Await) : (r.awake i a).board = r.board :=
  (modifies_endWait { r with agenda := r.agenda.dropTimers (r.taskId i) } a).board (by decide)

variable {r s}

/-- The work on an action is the deeds of the action that is taken. -/
lemma Worked.board {i : Nat} {t : Task} {p : Point} {turn : Turn} {q : Run} (h : r.Worked s i t p turn q)
    (ht : r.tasks[i]? = some t) : q.board = r.board.afterAll (r.actionDeeds s i) := by
  rw [actionDeeds, ht]
  cases h with
  | enters hstatus hnone => simp [hstatus, hnone, Run.board]
  | takes hstatus hnode haction =>
    rw [board_execute]
    simp [hstatus, hnode, haction, Run.board]
  | @goesOn a resumption result hstatus hresult =>
    have hproceed := ((r.awake i a).modifies_proceed s result resumption).board (by decide)
    simp [hstatus, hproceed, board_awake]

lemma afterAll_deeds_end {b : Board} {i : Nat} {t : Task} {p : Point} {turn : Turn} (ht : b.tasks[i]? = some t)
    (hend : turn.isEnd = true) :
    b.afterAll (turn.deeds i p) = (b.resolve t.done).after (.turn i (turn.status p)) := by
  simp [Turn.deeds, hend, Board.after, ht]

lemma afterAll_deeds_on {b : Board} {i : Nat} {p : Point} {turn : Turn} (hend : turn.isEnd = false) :
    b.afterAll (turn.deeds i p) = b.after (.turn i (turn.status p)) := by
  simp [Turn.deeds, hend]

lemma board_follow {i : Nat} {t u : Task} {p : Point} {node : Node} {outcome : Outcome}
    (hu : r.tasks[i]? = some u) (hdone : u.done = t.done) :
    (r.follow s i t p node outcome).board = r.board.afterAll ((Turn.acted node outcome).deeds i p) := by
  have hub : r.board.tasks[i]? = some u := hu
  cases outcome with
  | done code =>
    rw [follow]
    cases hnext : node.successor? code with
    | some next =>
      rw [afterAll_deeds_on (by simp [Turn.isEnd, hnext])]
      simp [Turn.status, hnext, board_setStatus]
    | none =>
      rw [afterAll_deeds_end hub (by simp [Turn.isEnd, hnext]), hdone]
      simp [Turn.status, hnext, board_setStatus, board_finishBranch]
  | fails e =>
    rw [follow]
    by_cases he : e = .cancelled
    · subst he
      rw [afterAll_deeds_on rfl]
      rfl
    · rw [afterAll_deeds_end hub (by simpa [Turn.isEnd] using he), hdone, board_setStatus,
        board_failBranch r s t he]
      rfl
  | waits a resumption =>
    rw [follow, board_suspend, afterAll_deeds_on rfl]
    rfl

lemma board_close {i : Nat} {t u : Task} {p : Point} {turn : Turn} (hu : r.tasks[i]? = some u)
    (hdone : u.done = t.done) : (r.close s i t p turn).board = r.board.afterAll (turn.deeds i p) := by
  have hub : r.board.tasks[i]? = some u := hu
  cases turn with
  | dropped => rfl
  | lost =>
    rw [close, board_setStatus, board_finishBranch, afterAll_deeds_end hub rfl, hdone]
    rfl
  | ownJoin =>
    rw [close, board_setStatus, board_resolve, afterAll_deeds_end hub rfl, hdone]
    rfl
  | acted node outcome => exact board_follow hu hdone

/-- The work on an action keeps every task in its place. -/
lemma Worked.task {i : Nat} {t : Task} {p : Point} {turn : Turn} {q : Run} (h : r.Worked s i t p turn q)
    (ht : r.tasks[i]? = some t) : q.tasks[i]? = some t := by
  have htasks : q.tasks = (r.board.afterAll (r.actionDeeds s i)).tasks := congrArg Board.tasks (h.board ht)
  rw [htasks]
  exact Board.task_afterAll ht fun status => r.turn_notMem_actionDeeds s i i status

lemma board_step {r' : Run} {i : Nat} (h : r.step? s i = some r') :
    r'.board = r.board.afterAll (r.deeds s (.step i)) := by
  obtain ⟨t, p, turn, q, ht, hturn, hworked, rfl⟩ := step_cases h
  rw [deeds, hturn, Board.afterAll_append, ← hworked.board ht]
  exact board_close (hworked.task ht) rfl

/-! ## All moves -/

lemma board_reset (r : Run) (s : Setup) : (r.reset s).board = r.board.after .clear := by
  have hclear := r.modifies_clearPrompts.board (by decide)
  have hfiles := (modifies_releaseFiles r.clearPrompts).board (by decide)
  have hboard : r.clearPrompts.releaseFiles.board = r.board := hfiles.trans hclear
  rw [← hboard]
  rfl

lemma board_start (r : Run) (s : Setup) : (r.start s).2.board = r.board.afterAll (r.deeds s .start) := by
  rw [deeds]
  by_cases hstate : r.state = .stopped
  · obtain ⟨q, hq, hstart⟩ := start_of_stopped s hstate
    have hfolder := hq.board (by decide)
    have htoken : q.token = r.tokens := (hq .token (by decide)).trans (congrArg Course.token (r.course_reset s))
    rw [board_reset] at hfolder
    rw [if_pos hstate, Board.afterAll_cons, ← hfolder]
    obtain ⟨e, hstart⟩ | hstart := hstart
    · rw [hstart]
      exact (modifies_cancel q).board (by decide)
    · have hspawn := board_spawnBranch (({ q with finished := none } : Run).emit (.state .running)) mainBranch
        q.token ⟨s.entry, none⟩
      rw [hstart, ← htoken]
      exact hspawn
  · rw [start, if_pos hstate, if_neg hstate]
    rfl

lemma board_branchSignal (r : Run) (token : Nat) (p : Point) :
    ((r.branchSignal mainBranch).2.spawn mainBranch (r.branchSignal mainBranch).1 token p).board =
      r.board.after (.resume token p) := by
  rw [board_spawn, Board.after, Board.kept?, branchSignal, show r.board.branches = r.branches from rfl]
  cases r.branches.get? mainBranch with
  | none => rfl
  | some done =>
    rw [Option.filter_some, show r.board.signals = r.signals from rfl]
    cases hresolved : r.signals.isResolved done <;> simp [hresolved, Board.fork, board, registerBranch, createSignal]

lemma board_resume (r : Run) (s : Setup) : (r.resume s).board = r.board.afterAll (r.deeds s .resume) := by
  rw [deeds, resume]
  by_cases hstate : r.state = .paused
  · have hpoint (q : Run) : (q.branchSignal mainBranch).2.point = q.point := by
      rw [branchSignal]
      split
      · split <;> rfl
      · rfl
    have htoken (q : Run) : (q.branchSignal mainBranch).2.token = q.token :=
      congrArg Course.token (q.course_branchSignal mainBranch)
    rw [if_neg (not_not_intro hstate), if_pos hstate]
    dsimp only
    rw [hpoint, htoken]
    exact board_branchSignal (({ r with state := .running } : Run).renew.emit (.state .running)) r.tokens
      (r.point.getD ⟨s.entry, none⟩)
  · rw [if_pos hstate, if_neg hstate]
    rfl

/-- What a move does to the board is its deeds. -/
theorem board_after (r : Run) (s : Setup) (m : Move) :
    (r.after s m).board = r.board.afterAll (r.deeds s m) := by
  cases m with
  | start => exact r.board_start s
  | pause => exact (r.modifies_pause s).board (by decide)
  | resume => exact r.board_resume s
  | stop error => exact r.board_stop s error
  | answer id a => exact (r.modifies_answer id a).board (by decide)
  | sample role sensor timestamp values => exact (r.modifies_sample role sensor timestamp values).board (by decide)
  | step i =>
    rw [after]
    cases h : r.step? s i with
    | none =>
      have hturn : r.turn? s i = none := by
        rw [← Option.isNone_iff_eq_none, ← Option.not_isSome, turn?_isSome, h]
        rfl
      rw [deeds, hturn]
      rfl
    | some r' => exact board_step h
  | others shared => rfl

end Run

end FieldStudy
