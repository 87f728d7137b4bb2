import Mathlib.Data.List.Basic
import Mathlib.Tactic.Common
import FieldStudy.Proofs.Run.Solitary

/-!
# Executions of nodes

The main walk of a run is told as the list of the executions that have come to an end (`Run.executions`).  What they
come to is a matter of where the walk begins and of what the host answers, and not of times and interruptions:
`Run.Walked` follows the walk on bare runs, and whoever gets the same answers has the same executions
(`Run.Walked.unique`).
-/

namespace FieldStudy

/-- An execution of a node that has come to an end. -/
structure Execution where
  node : String
  /-- The answers to the prompts that it has waited for. -/
  answers : List Answer
  /-- The code, or the failure. -/
  result : Except ScenarioError Int
deriving DecidableEq

/-- What has been seen of the main walk. -/
structure Tally where
  /-- The answers that the execution under way has been given. -/
  answers : List Answer := []
  done : List Execution := []

/-- Notes what an execution has come to: its result, or else the answers so far. -/
def Tally.note (T : Tally) (node : String) (answers : List Answer) : Option (Except ScenarioError Int) → Tally
  | some result => ⟨[], T.done ++ [⟨node, answers, result⟩]⟩
  | none => ⟨answers, T.done⟩

/-- The result of an action that has come to an end. -/
def Outcome.result? : Outcome → Option (Except ScenarioError Int)
  | .done code => some (.ok code)
  | .fails e => some (.error e)
  | .waits _ _ => none

def Turn.result? : Turn → Option (Except ScenarioError Int)
  | .acted _ o => o.result?
  | _ => none

namespace Run

variable {r q : Run} {s : Setup} {i : Nat} {t : Task}

/-! ## Counting executions -/

/-- The answers that the execution of a task has been given when the task takes its next step. -/
def heard (r : Run) (answers : List Answer) : TaskStatus → List Answer
  | .waiting _ (.prompt id) _ => answers ++ (r.prompts.answer? id).toList
  | .waiting _ _ _ => answers
  | _ => []

/-- What a move adds: the end of an execution by a step of the main branch, or an answer that it has been given.
Whoever belongs to an epoch that has ended is not counted, and an execution begins with no answers. -/
def tally (s : Setup) (r : Run) (T : Tally) : Move → Tally
  | .step i =>
    match r.tasks[i]? with
    | some t =>
      if r.isLive t.token && t.branch = mainBranch then
        match r.turn? s i with
        | some (p, turn) => T.note p.node (r.heard T.answers t.status) turn.result?
        | none => T
      else T
    | none => T
  | _ => T

def tallyAll (s : Setup) : Run → Tally → List Move → Tally
  | _, T, [] => T
  | r, T, m :: rest => tallyAll s (r.after s m) (r.tally s T m) rest

/-- The executions of the main walk that come to an end in some moves. -/
def executions (s : Setup) (r : Run) (moves : List Move) : List Execution := (r.tallyAll s {} moves).done

lemma heard_waiting (r : Run) (answers : List Answer) (p : Point) (a : Await) (resumption : Resumption) :
    r.heard answers (.waiting p a resumption) = answers ++ r.heard [] (.waiting p a resumption) := by
  cases a <;> simp [heard]

lemma tallyAll_snoc {T : Tally} (moves : List Move) (m : Move) :
    r.tallyAll s T (moves ++ [m]) = (r.afterAll s moves).tally s (r.tallyAll s T moves) m := by
  induction moves generalizing r T with
  | nil => rfl
  | cons m' rest ih => exact ih

/-! ## Executions on bare runs -/

/-- The work on a node that is entered, up to the end of its action or the first wait; nothing if there is no such node,
or if it joins the main branch with itself. -/
def opening (s : Setup) (c : Run) (p : Point) : Option (Node × Outcome × Run) :=
  (s.definition.node? p.node).bind fun node =>
    match Action.ofNode node with
    | .error e => some (node, .fails e, c)
    | .ok a => if a.endsBranch mainBranch then none else some (node, c.execute s ⟨mainBranch, p.node, node, 0⟩ a)

lemma node_of_opening {c : Run} {p : Point} {node : Node} {x : Outcome × Run} (h : opening s c p = some (node, x)) :
    s.definition.node? p.node = some node := by
  obtain ⟨node', hnode, h⟩ := Option.bind_eq_some_iff.mp h
  split at h
  · obtain rfl := (Prod.mk.inj (Option.some.inj h)).1
    exact hnode
  · split at h
    · cases h
    · obtain rfl := (Prod.mk.inj (Option.some.inj h)).1
      exact hnode

/-- What a wait comes to that the host has no part in, as long as nobody else goes on. -/
def passing? (c : Run) : Await → Option Int
  | .time _ => some 0
  | .prompt _ => none
  | .signals all ids deadline => if c.signals.meets all ids then some 0 else deadline.map fun _ => 1

/-- What a wait comes to: nothing is asked, or an answer is given. -/
inductive Yields (c : Run) : Await → List Answer → Except ScenarioError Int → Prop
  | passes {a : Await} {v : Int} (hv : c.passing? a = some v) : Yields c a [] (.ok v)
  | hears (id : Nat) (a : Answer) : Yields c (.prompt id) [a] a.result

lemma Yields.of_passing {c : Run} {a : Await} {v : Int} {given : List Answer} {result : Except ScenarioError Int}
    (h : c.Yields a given result) (hv : c.passing? a = some v) : given = [] ∧ result = .ok v := by
  cases h with
  | passes hv' => exact ⟨rfl, congrArg Except.ok (Option.some.inj (hv'.symm.trans hv))⟩
  | hears => cases hv

lemma Yields.of_prompt {c : Run} {id : Nat} {given : List Answer} {result : Except ScenarioError Int}
    (h : c.Yields (.prompt id) given result) : ∃ a, given = [a] ∧ result = a.result := by
  cases h with
  | passes hv => cases hv
  | hears id a => exact ⟨a, rfl, rfl⟩

/-- The rest of an execution that is given some answers, up to its end. -/
inductive Concludes (s : Setup) : List Answer → Outcome × Run → Outcome × Run → Prop
  | ends {o : Outcome} (q : Run) (ho : o.IsEnd) : Concludes s [] (o, q) (o, q)
  | passes {a : Await} {resumption : Resumption} {q : Run} {v : Int} {answers : List Answer} {y : Outcome × Run}
      (hv : q.passing? a = some v) (h : Concludes s answers (q.proceed s (.ok v) resumption) y) :
      Concludes s answers (.waits a resumption, q) y
  | hears {id : Nat} {resumption : Resumption} {q : Run} {a : Answer} {answers : List Answer} {y : Outcome × Run}
      (h : Concludes s answers (q.proceed s a.result resumption) y) :
      Concludes s (a :: answers) (.waits (.prompt id) resumption, q) y

lemma Yields.concludes {c : Run} {a : Await} {given answers : List Answer} {result : Except ScenarioError Int}
    {resumption : Resumption} {y : Outcome × Run} (h : c.Yields a given result)
    (hrest : Concludes s answers (c.proceed s result resumption) y) :
    Concludes s (given ++ answers) (.waits a resumption, c) y := by
  cases h with
  | passes hv => exact .passes hv hrest
  | hears id a => exact .hears hrest

/-- The answers determine what an execution comes to. -/
lemma Concludes.unique {answers : List Answer} {x y z : Outcome × Run} (h : Concludes s answers x y)
    (h' : Concludes s answers x z) : y = z := by
  induction h with
  | ends q ho =>
    cases h' with
    | ends => rfl
    | passes => exact ho.elim
  | passes hv _ ih =>
    cases h' with
    | ends _ ho => exact ho.elim
    | passes hv' h' =>
      obtain rfl := Option.some.inj (hv.symm.trans hv')
      exact ih h'
    | hears => cases hv
  | hears _ ih =>
    cases h' with
    | passes hv => cases hv
    | hears h' => exact ih h'

/-! ## Walks on bare runs -/

/-- Where the walk goes on after an execution; nowhere once the run has stopped. -/
def followed (node : Node) (o : Outcome) (state : RunState) : Option Point :=
  match o with
  | .done code => if state = .running then (node.successor? code).map fun next => ⟨next, some code⟩ else none
  | _ => none

/-- The walk that begins at a point of a bare run: the executions, the point where it goes on, and the bare run then. -/
inductive Walked (s : Setup) (c₀ : Run) (p₀ : Point) : List Execution → Option Point → Run → Prop
  | begins : Walked s c₀ p₀ [] (some p₀) c₀.bare
  | goesOn {es : List Execution} {p : Point} {c q : Run} {node : Node} {x : Outcome × Run} {answers : List Answer}
      {o : Outcome} {result : Except ScenarioError Int} (h : Walked s c₀ p₀ es (some p) c)
      (hopening : opening s c p = some (node, x)) (hconcludes : Concludes s answers x (o, q))
      (hresult : o.result? = some result) :
      Walked s c₀ p₀ (es ++ [⟨p.node, answers, result⟩]) (followed node o q.state) q.bare

lemma followed_eq_some {node : Node} {o : Outcome} {state : RunState} {p : Point} (h : followed node o state = some p) :
    ∃ code, o = .done code ∧ node.successor? code = some p.node := by
  cases o with
  | done code =>
    rw [followed] at h
    split at h
    · obtain ⟨next, hnext, rfl⟩ := Option.map_eq_some_iff.mp h
      exact ⟨code, rfl, hnext⟩
    · cases h
  | fails e => cases h
  | waits a resumption => cases h

/-- An execution is of the successor that the one before has chosen. -/
lemma Walked.successor {c₀ c : Run} {p₀ : Point} {es : List Execution} {e e' : Execution} {place : Option Point}
    (h : Walked s c₀ p₀ (es ++ [e, e']) place c) :
    ∃ node code, s.definition.node? e.node = some node ∧ e.result = .ok code ∧
      node.successor? code = some e'.node := by
  generalize hall : es ++ [e, e'] = all at h
  cases h with
  | begins => simp at hall
  | @goesOn before p _ _ _ _ _ _ _ hbefore _ _ _ =>
    rw [List.append_cons es e [e']] at hall
    obtain ⟨rfl, hlast⟩ := List.append_inj' hall rfl
    obtain rfl := List.singleton_inj.mp hlast
    generalize hall' : es ++ [e] = all', hplace : some p = place' at hbefore
    cases hbefore with
    | begins => simp at hall'
    | @goesOn _ _ _ _ node _ _ o _ _ hopening _ hresult =>
      obtain ⟨rfl, hlast⟩ := List.append_inj' hall' rfl
      obtain rfl := List.singleton_inj.mp hlast
      obtain ⟨code, rfl, hnext⟩ := followed_eq_some hplace.symm
      exact ⟨node, code, node_of_opening hopening, (Option.some.inj hresult).symm, hnext⟩

/-- The answers determine the executions and what lasts of them. -/
theorem Walked.unique {c₀ : Run} {p₀ : Point} {es es' : List Execution} {place place' : Option Point} {c c' : Run}
    (h : Walked s c₀ p₀ es place c) (h' : Walked s c₀ p₀ es' place' c')
    (hanswers : es.map Execution.answers = es'.map Execution.answers) : es = es' ∧ place = place' ∧ c = c' := by
  induction h generalizing es' place' c' with
  | begins =>
    cases h' with
    | begins => exact ⟨rfl, rfl, rfl⟩
    | goesOn => simp at hanswers
  | goesOn _ hopening hconcludes hresult ih =>
    cases h' with
    | begins => simp at hanswers
    | goesOn h' hopening' hconcludes' hresult' =>
      rw [List.map_append, List.map_append] at hanswers
      obtain ⟨hinit, hlast⟩ := List.append_inj' hanswers rfl
      obtain ⟨rfl, hplace, rfl⟩ := ih h' hinit
      obtain rfl := Option.some.inj hplace
      obtain ⟨rfl, rfl⟩ := Prod.mk.inj (Option.some.inj (hopening.symm.trans hopening'))
      obtain rfl : _ = _ := (List.cons.inj hlast).1
      obtain ⟨rfl, rfl⟩ := Prod.mk.inj (hconcludes.unique hconcludes')
      obtain rfl := Option.some.inj (hresult.symm.trans hresult')
      exact ⟨rfl, rfl, rfl⟩

/-! ## Steps and bare runs -/

/-- What the work on an action comes to is what it comes to on a bare run. -/
structure Renders (r : Run) (x y : Outcome × Run) : Prop where
  same : Same x y
  state : y.2.state = x.2.state
  /-- As long as it waits nothing lasts of the action. -/
  waits : ∀ a resumption, x.1 = .waits a resumption → x.2.bare = r.bare ∧ x.2.state = .running
  ends : x.1.IsEnd ∨ ∃ a resumption, x.1 = .waits a resumption
  /-- An abort has closed what was open. -/
  halted : x.2.state = .running ∨ (x.2.state = .stopped ∧ x.2.lasting = x.2.lasting.closed)

@[simp] lemma bare_bare (r : Run) : r.bare.bare = r.bare := by
  have hmetadata : r.metadata.timeless.timeless = r.metadata.timeless := by
    simp [Metadata.timeless, Dict.mapValues]
  have hwriters : (r.writers.mapValues RecordWriter.bare).mapValues RecordWriter.bare =
      r.writers.mapValues RecordWriter.bare := by
    simp [Dict.mapValues, RecordWriter.bare]
  have hlog : (r.log.map FileLogger.bare).map FileLogger.bare = r.log.map FileLogger.bare := by
    cases r.log <;> rfl
  show ({ r.bare with
      metadata := r.metadata.timeless.timeless
      writers := (r.writers.mapValues RecordWriter.bare).mapValues RecordWriter.bare
      log := (r.log.map FileLogger.bare).map FileLogger.bare
      files := r.files.bare.bare } : Run) = r.bare
  rw [hmetadata, hwriters, hlog, FileStore.bare_bare]
  rfl

lemma lasting_bare (r : Run) : r.bare.lasting = r.lasting := lasting_congr r.bare_bare

lemma Comes.ends_or_waits {x : Outcome × Run} (h : Comes r x) :
    x.1.IsEnd ∨ ∃ a resumption, x.1 = .waits a resumption := by
  cases h with
  | ends ho => exact .inl ho
  | waits resumption => exact .inr ⟨_, resumption, rfl⟩
  | asks resumption => exact .inr ⟨_, resumption, rfl⟩

lemma Comes.renders {x y : Outcome × Run} (h : Comes r x) (hsame : Same x y) (hx : x.2.state = .running)
    (hy : y.2.state = .running) : Renders r x y where
  same := hsame
  state := hy.trans hx.symm
  waits a resumption hwaits := by
    obtain ⟨o, q⟩ := x
    obtain rfl : o = .waits a resumption := hwaits
    exact ⟨h.bare, hx⟩
  ends := h.ends_or_waits
  halted := .inl hx

lemma renders_execute (hbackend : s.backend.Plain) {c : Run} (h : r.bare = c.bare) (hr : r.state = .running)
    (hc : c.state = .running) (v : Visit) (token : Nat) {a : Action} (hfork : ∀ branch, a ≠ .fork branch) :
    Renders r (r.execute s v a) (c.execute s { v with token } a) := by
  have hsame := same_execute hbackend h hr hc v token hfork
  by_cases habort : ∃ info, a = .abort info
  · obtain ⟨info, rfl⟩ := habort
    have hstopped (q : Run) (v : Visit) : (q.execute s v (.abort info)).2.state = .stopped :=
      state_stop (q.updateMetadata fun m => { m with abort := some info }) s (some (.aborted info))
    have hnoted : (r.updateMetadata fun m => { m with abort := some info }).state ≠ .stopped := by
      simp [updateMetadata, hr]
    refine ⟨hsame, (hstopped c _).trans (hstopped r v).symm, fun _ _ hwaits => (by cases hwaits), .inl trivial,
      .inr ⟨hstopped r v, ?_⟩⟩
    have hclosed := lasting_stop s (some (.aborted info)) hnoted
    show ((r.updateMetadata _).stop s _).lasting = ((r.updateMetadata _).stop s _).lasting.closed
    rw [hclosed, Lasting.closed_closed]
  · have hstate (q : Run) (v : Visit) : (q.execute s v a).2.state = q.state :=
      q.modifies_execute s v hfork (fun info hinfo => habort ⟨info, hinfo⟩) .state (by decide)
    exact (comes_execute hbackend r v hfork fun info hinfo => habort ⟨info, hinfo⟩).renders hsame
      ((hstate r v).trans hr) ((hstate c _).trans hc)

lemma renders_proceed (hbackend : s.backend.Plain) {c : Run} (h : r.bare = c.bare) (hr : r.state = .running)
    (hc : c.state = .running) {result : Except ScenarioError Int} (hresult : result ≠ .error .cancelled)
    (resumption : Resumption) : Renders r (r.proceed s result resumption) (c.proceed s result resumption) := by
  have hstate (q : Run) : (q.proceed s result resumption).2.state = q.state :=
    q.modifies_proceed s result resumption .state (by decide)
  exact (comes_proceed hbackend r hresult resumption).renders (same_proceed hbackend h result resumption)
    ((hstate r).trans hr) ((hstate c).trans hc)

/-- The node joins the main branch with itself. -/
def OwnJoin (s : Setup) (p : Point) : Prop :=
  ∃ node a, s.definition.node? p.node = some node ∧ Action.ofNode node = .ok a ∧ a.endsBranch mainBranch = true

lemma ofNode_ne {node : Node} {e : ScenarioError} (h : Action.ofNode node = .error e) : e ≠ .cancelled := by
  rw [Action.ofNode] at h
  split at h
  · cases h
  · obtain rfl := Except.error.inj h
    exact ScenarioError.noConfusion

/-- The main branch enters a point. -/
lemma Worked.opening (hforks : s.definition.ForkFree) (hbackend : s.backend.Plain) {p : Point} {turn : Turn}
    (h : r.Worked s i t p turn q) (hstatus : t.status = .entering p) (hlive : r.isLive t.token = true)
    (hmain : t.branch = mainBranch) :
    (opening s r.bare p = none ∧ q = { r with point := some p } ∧ (turn = .lost ∨ (turn = .ownJoin ∧ OwnJoin s p))) ∨
      ∃ node o x, opening s r.bare p = some (node, x) ∧ turn = .acted node o ∧ Renders r (o, q) x := by
  have hrunning : r.state = .running := (of_isLive hlive).1
  cases h with
  | enters _ hnone =>
    rw [action?, if_pos hlive] at hnone
    rw [entry, if_neg (by simp [hlive])]
    cases hnode : s.definition.node? p.node with
    | none => exact .inl ⟨by simp [Run.opening, hnode], rfl, .inl rfl⟩
    | some node =>
      cases hok : Action.ofNode node with
      | error e =>
        refine .inr ⟨node, .fails e, (.fails e, r.bare), by simp [Run.opening, hnode, hok], by simp [hok], ?_⟩
        have hstate : r.bare.state = ({ r with point := some p } : Run).state := hrunning.symm
        exact ⟨⟨rfl, r.bare_bare.symm⟩, hstate, fun _ _ hwaits => (by cases hwaits), .inl (ofNode_ne hok),
          .inl hrunning⟩
      | ok a =>
        have hends : a.endsBranch mainBranch = true := by simpa [hnode, hok, hmain] using hnone
        exact .inl ⟨by simp [Run.opening, hnode, hok, hends], rfl,
          .inr ⟨by simp [hok, hmain, hends], node, a, hnode, hok, hends⟩⟩
  | @takes node a _ hnode haction =>
    obtain ⟨-, node', hnode', hok, hends⟩ := action?_eq_some_iff.mp haction
    obtain rfl : node' = node := Option.some.inj (hnode'.symm.trans hnode)
    rw [hmain] at hends
    refine .inr ⟨node', _, r.bare.execute s ⟨mainBranch, p.node, node', 0⟩ a,
      by simp [Run.opening, hnode, hok, hends], rfl, ?_⟩
    have hrenders := renders_execute (r := { r with point := some p }) (c := r.bare) hbackend r.bare_bare.symm
      hrunning rfl
      ⟨t.branch, p.node, node', t.token⟩ 0 (hforks.action hnode hok)
    rw [hmain] at hrenders ⊢
    exact ⟨hrenders.same, hrenders.state, hrenders.waits, hrenders.ends, hrenders.halted⟩
  | goesOn hwaiting => rw [hstatus] at hwaiting; cases hwaiting

/-- A wait comes to what it comes to for a bare run that waits in the same way. -/
lemma yields_of_waitResult? {c : Run} {a b : Await} {token : Nat} {result : Except ScenarioError Int}
    (hresult : r.waitResult? token a = some result) (hlive : r.isCancelled token = false)
    (hheard : ∀ id, a = .prompt id → r.prompts.Hears id) (hzero : ∀ id v, r.signals.value? id = some v → v = 0)
    (hshape : b.shape = a.shape) (hsignals : r.signals = c.signals) (p : Point) (resumption : Resumption) :
    c.Yields b (r.heard [] (.waiting p a resumption)) result ∧ result ≠ .error .cancelled := by
  cases a with
  | time deadline =>
    rw [waitResult?, hlive, if_neg Bool.false_ne_true] at hresult
    split at hresult
    · obtain rfl := Option.some.inj hresult
      cases b with
      | time deadline' => exact ⟨.passes rfl, by simp⟩
      | _ => cases hshape
    · cases hresult
  | signals all ids deadline =>
    rw [waitResult?_signals hlive hzero] at hresult
    obtain ⟨v, hv, rfl⟩ := Option.map_eq_some_iff.mp hresult
    cases b with
    | signals all' ids' deadline' =>
      obtain ⟨rfl, rfl, hdeadline⟩ := Await.signals.inj hshape
      refine ⟨.passes ?_, by simp⟩
      rw [answer?] at hv
      rw [passing?, ← hsignals]
      split at hv
      · next hmeets => rw [if_pos hmeets, hv]
      · next hmeets =>
        rw [if_neg hmeets]
        split at hv
        · rw [← hv]
          cases deadline with
          | none => simp at *
          | some d => cases deadline' <;> simp_all
        · cases hv
    | _ => cases hshape
  | prompt id =>
    rw [waitResult?, hlive, if_neg Bool.false_ne_true] at hresult
    obtain ⟨answer, hanswer, rfl⟩ : ∃ answer, r.prompts.answer? id = some answer ∧ result = answer.result := by
      cases hanswer : r.prompts.answer? id with
      | none =>
        have hpending : r.prompts.isPending id = true := (hheard id rfl).resolve_right (by simp [hanswer])
        simp [hanswer, hpending] at hresult
      | some answer => cases answer <;> exact ⟨_, rfl, by simpa [hanswer, Answer.result] using hresult.symm⟩
    cases b with
    | prompt id' =>
      refine ⟨?_, by cases answer <;> simp [Answer.result]⟩
      rw [heard, hanswer]
      exact .hears id' answer
    | _ => cases hshape

/-- The main branch goes on after a wait, as a bare run does that waits in the same way. -/
lemma Worked.passing (hbackend : s.backend.Plain) {p : Point} {turn : Turn} {a b : Await} {resumption : Resumption}
    {node : Node} {c : Run} (h : r.Worked s i t p turn q) (hstatus : t.status = .waiting p a resumption)
    (hlive : r.isLive t.token = true) (hnode : s.definition.node? p.node = some node)
    (hheard : ∀ id, a = .prompt id → r.prompts.Hears id) (hzero : ∀ id v, r.signals.value? id = some v → v = 0)
    (hshape : b.shape = a.shape) (hbare : r.bare = c.bare) (hc : c.state = .running) :
    ∃ o result, turn = .acted node o ∧ c.Yields b (r.heard [] t.status) result ∧
      Renders r (o, q) (c.proceed s result resumption) := by
  obtain ⟨hrunning, hcancelled⟩ := of_isLive hlive
  cases h with
  | enters hentering => rw [hstatus] at hentering; cases hentering
  | takes hentering => rw [hstatus] at hentering; cases hentering
  | @goesOn a' resumption' result hwaiting hresult =>
    obtain ⟨-, rfl, rfl⟩ := TaskStatus.waiting.inj (hwaiting.symm.trans hstatus)
    have hawake : (r.awake i a').bare = r.bare :=
      (modifies_endWait { r with agenda := r.agenda.dropTimers (r.taskId i) } a').bare (by decide)
    have hstate : (r.awake i a').state = .running :=
      (modifies_endWait { r with agenda := r.agenda.dropTimers (r.taskId i) } a' .state (by decide)).trans hrunning
    have hsignals : r.signals = c.signals := (congrArg signals hbare :)
    obtain ⟨hyields, hne⟩ := yields_of_waitResult? hresult hcancelled hheard hzero hshape hsignals p resumption'
    have hrenders := renders_proceed hbackend (hawake.trans hbare) hstate hc hne resumption'
    have hturn : r.sequel s i p a' resumption' result =
        .acted node ((r.awake i a').proceed s result resumption').1 := by rw [sequel, hnode]
    rw [hstatus]
    exact ⟨_, result, hturn, hyields, hrenders.same, hrenders.state,
      fun a res hwaits => (hrenders.waits a res hwaits).imp_left (·.trans hawake), hrenders.ends, hrenders.halted⟩

end Run

end FieldStudy
