import Mathlib.Data.List.Basic
import Mathlib.Logic.Relation
import FieldStudy.Proofs.Run.Modifies
import FieldStudy.Run.Ensemble

/-!
# The moves of a run

Between two steps of a branch the host may start, pause, resume or stop the run, answer a prompt or bring a
sample, other runs may go on and time may pass.  `Run.after` is one such move, and `Run.afterAll` takes moves in
any order.

What a move does to the state, the tokens and the tasks of a run is composed of four elementary changes
(`Course.Change`), so that an invariant of these fields needs four cases and not one for each action.
-/

namespace FieldStudy

/-- What can happen to a run from outside or by one of its tasks. -/
inductive Move
  | start
  | pause
  | resume
  | stop (error : Option ScenarioError)
  | answer (id : Nat) (a : Answer)
  | sample (role sensor : String) (timestamp : UInt64) (values : List Single)
  /-- One step of a task; nothing if it has ended or its wait is not over. -/
  | step (task : Nat)
  /-- Other runs go on and time passes: what the runs share comes back changed. -/
  | others (shared : Ensemble)

/-- A move is one of other runs or one of the run. -/
lemma Move.others_or_own (m : Move) : (∃ shared, m = .others shared) ∨ ∀ shared, m ≠ .others shared := by
  cases m with
  | others shared => exact .inl ⟨shared, rfl⟩
  | _ => exact .inr fun _ => Move.noConfusion

/-- Whether a move begins a walk from outside: the entry node is entered, or the last point is entered again. -/
def Move.begins : Move → Bool
  | .start | .resume => true
  | _ => false

namespace Run

def after (s : Setup) (r : Run) : Move → Run
  | .start => (r.start s).2
  | .pause => r.pause s
  | .resume => r.resume s
  | .stop error => r.stop s error
  | .answer id a => (r.answer id a).2
  | .sample role sensor timestamp values => r.sample role sensor timestamp values
  | .step i => (r.step? s i).getD r
  | .others shared => shared.lend r

def afterAll (s : Setup) (r : Run) (moves : List Move) : Run := moves.foldl (after s) r

@[simp] lemma afterAll_nil (s : Setup) (r : Run) : r.afterAll s [] = r := rfl

@[simp] lemma afterAll_cons (s : Setup) (r : Run) (m : Move) (moves : List Move) :
    r.afterAll s (m :: moves) = (r.after s m).afterAll s moves := rfl

lemma afterAll_append (s : Setup) (r : Run) (moves others : List Move) :
    r.afterAll s (moves ++ others) = (r.afterAll s moves).afterAll s others :=
  List.foldl_append

/-! ## Histories -/

/-- At some move along the way this holds of the run before it and of the move. -/
def Happens (s : Setup) (P : Run → Move → Prop) : Run → List Move → Prop
  | _, [] => False
  | r, m :: rest => P r m ∨ Happens s P (r.after s m) rest

variable {s : Setup} {P : Run → Move → Prop} {r : Run}

@[simp] lemma happens_nil : ¬ r.Happens s P [] := fun h => h

lemma happens_append (moves others : List Move) :
    r.Happens s P (moves ++ others) ↔ r.Happens s P moves ∨ (r.afterAll s moves).Happens s P others := by
  induction moves generalizing r with
  | nil => simp
  | cons m rest ih =>
    rw [List.cons_append, Happens, Happens, ih, afterAll_cons, or_assoc]

lemma happens_iff {moves : List Move} : r.Happens s P moves ↔
    ∃ before m rest, moves = before ++ m :: rest ∧ P (r.afterAll s before) m := by
  induction moves generalizing r with
  | nil => simp
  | cons m rest ih =>
    rw [Happens, ih]
    constructor
    · rintro (h | ⟨before, m', rest', rfl, h⟩)
      · exact ⟨[], m, rest, rfl, h⟩
      · exact ⟨m :: before, m', rest', rfl, h⟩
    · rintro ⟨_ | ⟨m', before⟩, m'', rest', hmoves, h⟩
      · obtain ⟨rfl, -⟩ := List.cons.inj hmoves
        exact .inl h
      · obtain ⟨rfl, rfl⟩ := List.cons.inj hmoves
        exact .inr ⟨before, m'', rest', rfl, h⟩

/-- What happens along the way is told by the run before each move. -/
lemma happens_congr {Q : Run → Move → Prop} {moves : List Move}
    (h : ∀ before m rest, moves = before ++ m :: rest → (P (r.afterAll s before) m ↔ Q (r.afterAll s before) m)) :
    r.Happens s P moves ↔ r.Happens s Q moves := by
  rw [happens_iff, happens_iff]
  refine exists_congr fun before => exists_congr fun m => exists_congr fun rest => ?_
  exact and_congr_right fun hmoves => h before m rest hmoves

lemma happens_snoc (moves : List Move) (m : Move) :
    r.Happens s P (moves ++ [m]) ↔ r.Happens s P moves ∨ P (r.afterAll s moves) m := by
  simp [happens_append, Happens]

@[simp] lemma afterAll_snoc (s : Setup) (r : Run) (moves : List Move) (m : Move) :
    r.afterAll s (moves ++ [m]) = (r.afterAll s moves).after s m := by
  rw [afterAll_append, afterAll_cons, afterAll_nil]

/-- What is told of some moves, one after another. -/
def along {α : Type} (f : Run → Move → List α) (s : Setup) : Run → List Move → List α
  | _, [] => []
  | r, m :: rest => f r m ++ along f s (r.after s m) rest

lemma along_append {α : Type} (f : Run → Move → List α) (moves later : List Move) :
    along f s r (moves ++ later) = along f s r moves ++ along f s (r.afterAll s moves) later := by
  induction moves generalizing r with
  | nil => rfl
  | cons m rest ih => rw [List.cons_append, along, along, ih, afterAll_cons, List.append_assoc]

lemma along_snoc {α : Type} (f : Run → Move → List α) (moves : List Move) (m : Move) :
    along f s r (moves ++ [m]) = along f s r moves ++ f (r.afterAll s moves) m := by
  rw [along_append, along, along, List.append_nil]

end Run

/-- Who stands otherwise is still the same task. -/
lemma Task.mem_modify_status {tasks : List Task} {i : Nat} {status : TaskStatus} {t : Task}
    (h : t ∈ tasks.modify i fun t => { t with status }) : ∃ u ∈ tasks, ∃ status, t = { u with status } := by
  obtain ⟨j, hj⟩ := List.mem_iff_getElem?.mp h
  rw [List.getElem?_modify] at hj
  obtain ⟨u, hu, htu⟩ := Option.map_eq_some_iff.mp hj
  refine ⟨u, List.mem_of_getElem? hu, ?_⟩
  rw [← htu]
  split
  · exact ⟨status, rfl⟩
  · exact ⟨u.status, rfl⟩

/-! ## Courses -/

/-- The part of a run that says which tasks go on. -/
structure Course where
  state : RunState
  token : Nat
  tokens : Nat
  cancelled : List Nat
  tasks : List Task

namespace Course

/-- An elementary change of a course. -/
inductive Change : Course → Course → Prop
  /-- A task goes on, waits or ends. -/
  | status (c : Course) (i : Nat) (status : TaskStatus) :
      Change c { c with tasks := c.tasks.modify i fun t => { t with status } }
  /-- A task is added, in the current epoch or in that of another task. -/
  | spawn (c : Course) (t : Task)
      (h : (c.state = .running ∧ t.token = c.token) ∨ ∃ u ∈ c.tasks, u.token = t.token) :
      Change c { c with tasks := c.tasks ++ [t] }
  /-- An epoch begins. -/
  | renew (c : Course) (h : c.state ≠ .running) :
      Change c { c with state := .running, token := c.tokens, tokens := c.tokens + 1 }
  /-- The current epoch ends. -/
  | halt (c : Course) (state : RunState) (h : state ≠ .running) :
      Change c { c with state, cancelled := c.token :: c.cancelled }

/-- Elementary changes one after another. -/
def Leads : Course → Course → Prop := Relation.ReflTransGen Change

namespace Leads

variable {c c₁ c₂ : Course}

lemma refl (c : Course) : Leads c c := Relation.ReflTransGen.refl

lemma of_eq (h : c₁ = c) : Leads c c₁ := h ▸ refl c

lemma single (h : Change c c₁) : Leads c c₁ := Relation.ReflTransGen.single h

lemma trans (h : Leads c c₁) (h' : Leads c₁ c₂) : Leads c c₂ := Relation.ReflTransGen.trans h h'

end Leads

end Course

namespace Run

def course (r : Run) : Course := ⟨r.state, r.token, r.tokens, r.cancelled, r.tasks⟩

/-- The fields that make up the course. -/
def courseFields : List RunField := [.state, .token, .tokens, .cancelled, .tasks]

/-- Who keeps off the state, the tokens and the tasks keeps the course. -/
lemma Modifies.course {fs : List RunField} {r r' : Run} (h : Modifies fs r r')
    (hfs : ∀ f ∈ courseFields, f ∉ fs) : r'.course = r.course := by
  have hstate : r'.state = r.state := h .state (hfs _ (by decide))
  have htoken : r'.token = r.token := h .token (hfs _ (by decide))
  have htokens : r'.tokens = r.tokens := h .tokens (hfs _ (by decide))
  have hcancelled : r'.cancelled = r.cancelled := h .cancelled (hfs _ (by decide))
  have htasks : r'.tasks = r.tasks := h .tasks (hfs _ (by decide))
  rw [Run.course, Run.course, hstate, htoken, htokens, hcancelled, htasks]

/-! ## Ends of epochs -/

lemma course_setStatus (r : Run) (i : Nat) (status : TaskStatus) :
    r.course.Leads (r.setStatus i status).course :=
  .single (.status r.course i status)

lemma course_cancel (r : Run) :
    r.cancel.course = { r.course with cancelled := r.token :: r.cancelled } :=
  (modifies_wake { r with cancelled := r.token :: r.cancelled } _).course (by decide)

/-- The state falls to one in which nothing goes on, and the epoch ends. -/
lemma course_halted (r : Run) {state : RunState} (h : state ≠ .running) :
    r.course.Leads ({ r with state }.cancel).course := by
  rw [course_cancel]
  exact .single (.halt r.course state h)

lemma course_halt (r : Run) : r.course.Leads r.halt.course := by
  have hclear := (({ r with state := .stopped }.cancel).modifies_clearPrompts).course (by decide)
  exact (r.course_halted (by decide)).trans (.of_eq hclear)

lemma course_stop (r : Run) (s : Setup) (error : Option ScenarioError) :
    r.course.Leads (r.stop s error).course := by
  by_cases hstate : r.state = .stopped
  · rw [stop, if_pos hstate]
    exact .refl _
  · rw [r.stop_eq s error hstate]
    have hreleased := (r.halt.modifies_released s).course (by decide)
    have hreported := ((r.halt.released s).modifies_reported error).course (by decide)
    exact r.course_halt.trans (.of_eq (hreported.trans hreleased))

lemma course_finishBranch (r : Run) (s : Setup) (t : Task) :
    r.course.Leads (r.finishBranch s t).course := by
  have hresolve := (r.modifies_resolve t.done 0).course (by decide)
  rw [finishBranch]
  split
  · exact (Course.Leads.of_eq hresolve).trans (course_stop _ s none)
  · exact .of_eq hresolve

lemma course_failBranch (r : Run) (s : Setup) (t : Task) (e : ScenarioError) :
    r.course.Leads (r.failBranch s t e).course := by
  have hresolve := (r.modifies_resolve t.done 0).course (by decide)
  cases e with
  | cancelled => exact .refl _
  | _ => exact (Course.Leads.of_eq hresolve).trans (course_stop _ s _)

/-! ## Beginnings of epochs -/

lemma course_spawn (r : Run) (branch : String) (done token : Nat) (p : Point) :
    (r.spawn branch done token p).course =
      { r.course with tasks := r.tasks ++ [⟨branch, done, token, .entering p⟩] } :=
  (modifies_enqueue { r with tasks := r.tasks ++ [⟨branch, done, token, .entering p⟩] }
    r.tasks.length).course (by decide)

lemma course_spawnBranch (r : Run) (branch : String) (token : Nat) (p : Point) :
    ∃ done, (r.spawnBranch branch token p).course =
      { r.course with tasks := r.tasks ++ [⟨branch, done, token, .entering p⟩] } := by
  have hregister := (r.modifies_registerBranch branch).course (by decide)
  have htasks : (r.registerBranch branch).2.tasks = r.tasks := congrArg Course.tasks hregister
  have hspawn := course_spawn (r.registerBranch branch).2 branch (r.registerBranch branch).1 token p
  rw [hregister, htasks] at hspawn
  exact ⟨_, hspawn⟩

lemma modifies_createFolder (r : Run) (s : Setup) : Modifies [.files] r (r.createFolder s).2 := by
  rw [createFolder]
  split
  · exact .refl _ r
  · split
    · intro f hf
      cases f <;> first | rfl | simp at hf
    · split <;>
      · intro f hf
        cases f <;> first | rfl | simp at hf

lemma course_reset (r : Run) (s : Setup) :
    (r.reset s).course =
      { r.course with state := .running, token := r.tokens, tokens := r.tokens + 1 } := by
  have h : r.clearPrompts.releaseFiles.course = r.course :=
    (modifies_releaseFiles _).course (by decide) |>.trans (r.modifies_clearPrompts.course (by decide))
  have htokens : r.clearPrompts.releaseFiles.tokens = r.tokens := congrArg Course.tokens h
  have hcancelled : r.clearPrompts.releaseFiles.cancelled = r.cancelled := congrArg Course.cancelled h
  have htasks : r.clearPrompts.releaseFiles.tasks = r.tasks := congrArg Course.tasks h
  rw [← htokens, course, course, ← hcancelled, ← htasks]
  rfl

/-- A walk of a new epoch has begun: the last task, which is about to enter a point under a fresh token. -/
def Begins (r r' : Run) : Prop :=
  ∃ t : Task, t.token = r.tokens ∧ r'.course =
    { r.course with
      state := .running, token := r.tokens, tokens := r.tokens + 1, tasks := r.tasks ++ [t] }

lemma Begins.leads {r r' : Run} (h : r.Begins r') (hstate : r.state ≠ .running) :
    r.course.Leads r'.course := by
  obtain ⟨t, htoken, hcourse⟩ := h
  rw [hcourse]
  exact (Course.Leads.single (.renew r.course hstate)).trans (.single (.spawn _ t (.inl ⟨rfl, htoken⟩)))

/-- Starting a run that has stopped: its folder is made and the main branch begins, or it stays stopped. -/
lemma start_of_stopped {r : Run} (s : Setup) (hstopped : r.state = .stopped) :
    ∃ q, Modifies [.files] (r.reset s) q ∧
      ((∃ e, r.start s = (.error (.io e), { q.cancel with state := .stopped })) ∨
        r.start s = (.ok (), (({ q with finished := none } : Run).emit (.state .running)).spawnBranch mainBranch
          q.token ⟨s.entry, none⟩)) := by
  have hfolder := (r.reset s).modifies_createFolder s
  rw [start, if_neg (not_not_intro hstopped)]
  cases hmade : (r.reset s).createFolder s with
  | mk result q =>
    rw [hmade] at hfolder
    refine ⟨q, hfolder, ?_⟩
    cases result with
    | error e => exact .inl ⟨e, rfl⟩
    | ok _ => exact .inr rfl

/-- Starting begins a walk, or leaves the tasks as they are. -/
lemma start_cases (r : Run) (s : Setup) :
    ((r.start s).2.tasks = r.tasks ∧ r.course.Leads (r.start s).2.course) ∨
      (r.state = .stopped ∧ r.Begins (r.start s).2) := by
  by_cases hstopped : r.state = .stopped
  · obtain ⟨q, hq, hstart⟩ := start_of_stopped s hstopped
    have hfolder := hq.course (by decide)
    rw [course_reset] at hfolder
    obtain ⟨e, hstart⟩ | hstart := hstart
    · -- The folder cannot be made: the new epoch ends at once.
      left
      have hcancel := congrArg (fun c : Course => { c with state := .stopped }) q.course_cancel
      have hcourse : ({ q.cancel with state := .stopped } : Run).course =
          { q.course with state := .stopped, cancelled := q.course.token :: q.course.cancelled } := hcancel
      rw [hfolder] at hcourse
      rw [hstart]
      refine ⟨(congrArg Course.tasks hcourse).trans rfl, ?_⟩
      rw [hcourse]
      have hrunning : r.course.state ≠ .running := by
        show r.state ≠ .running
        simp [hstopped]
      exact (Course.Leads.single (.renew r.course hrunning)).trans
        (.single (.halt _ .stopped (by decide)))
    · right
      have hemit : (({ q with finished := none } : Run).emit (.state .running)).course = q.course := rfl
      have htoken : q.token = r.tokens := congrArg Course.token hfolder
      have htasks : (({ q with finished := none } : Run).emit (.state .running)).tasks = r.tasks :=
        congrArg Course.tasks (hemit.trans hfolder)
      obtain ⟨done, hspawn⟩ := course_spawnBranch (({ q with finished := none } : Run).emit (.state .running))
        mainBranch q.token ⟨s.entry, none⟩
      rw [hemit, hfolder, htasks] at hspawn
      rw [hstart]
      exact ⟨hstopped, _, htoken, hspawn⟩
  · rw [start, if_pos hstopped]
    exact .inl ⟨rfl, .refl _⟩

lemma course_branchSignal (r : Run) (branch : String) : (r.branchSignal branch).2.course = r.course := by
  have hregister := (r.modifies_registerBranch branch).course (by decide)
  rw [branchSignal]
  split
  · split
    · exact hregister
    · rfl
  · exact hregister

/-- Resuming begins a walk, unless the run is not paused. -/
lemma resume_cases (r : Run) (s : Setup) :
    r.resume s = r ∨ (r.state = .paused ∧ r.Begins (r.resume s)) := by
  rw [resume]
  split
  · exact .inl rfl
  · next hstate =>
    right
    have hpaused : r.state = .paused := by simpa using hstate
    have hrenew : (({ r with state := .running } : Run).renew.emit (.state .running)).course =
        { r.course with state := .running, token := r.tokens, tokens := r.tokens + 1 } := rfl
    have hsignal := course_branchSignal (({ r with state := .running } : Run).renew.emit (.state .running))
      mainBranch
    dsimp only
    generalize hq : (({ r with state := .running } : Run).renew.emit (.state .running)).branchSignal
      mainBranch = q at hsignal
    rw [hrenew] at hsignal
    have htoken : q.2.token = r.tokens := congrArg Course.token hsignal
    have htasks : q.2.tasks = r.tasks := congrArg Course.tasks hsignal
    have hspawn := course_spawn q.2 mainBranch q.1 q.2.token (q.2.point.getD ⟨s.entry, none⟩)
    rw [hsignal, htasks] at hspawn
    exact ⟨hpaused, _, htoken, hspawn⟩

lemma course_pause (r : Run) (s : Setup) : r.course.Leads (r.pause s).course := by
  rw [pause]
  split
  · exact .refl _
  · have hsaved := (({ r with state := .paused }.cancel).modifies_saveMetadata s).course (by decide)
    exact (r.course_halted (by decide)).trans (.of_eq hsaved)

/-! ## Steps of tasks -/

lemma step?_entering {r : Run} {i : Nat} {t : Task} {p : Point} (s : Setup) (ht : r.tasks[i]? = some t)
    (hstatus : t.status = .entering p) : r.step? s i = some (r.enter s i t p) := by
  simp [step?, ht, hstatus]

lemma step?_waiting {r : Run} {i : Nat} {t : Task} {p : Point} {a : Await} {resumption : Resumption}
    (s : Setup) (ht : r.tasks[i]? = some t) (hstatus : t.status = .waiting p a resumption) :
    r.step? s i = (r.waitResult? t.token a).map (r.leaveWait s i t p a resumption) := by
  simp [step?, ht, hstatus]

lemma step?_ended {r : Run} {i : Nat} {t : Task} (s : Setup) (ht : r.tasks[i]? = some t)
    (hstatus : t.status = .ended) : r.step? s i = none := by
  simp [step?, ht, hstatus]

/-- A fork adds a task under the token of its branch, an abort ends the epoch, other actions do neither. -/
lemma course_execute (r : Run) (s : Setup) (v : Visit) (a : Action) (hv : ∃ t ∈ r.tasks, t.token = v.token) :
    r.course.Leads (r.execute s v a).2.course := by
  by_cases hfork : ∃ branch, a = .fork branch
  · obtain ⟨branch, rfl⟩ := hfork
    show r.course.Leads (r.fork v branch).2.course
    rw [fork]
    split
    · exact .refl _
    · next entry _ =>
      obtain ⟨done, hspawn⟩ := r.course_spawnBranch branch v.token ⟨entry, none⟩
      dsimp only
      rw [hspawn]
      exact .single (.spawn _ _ (.inr hv))
  · by_cases habort : ∃ info, a = .abort info
    · obtain ⟨info, rfl⟩ := habort
      exact course_stop (r.updateMetadata fun m => { m with abort := some info }) s _
    · exact .of_eq ((r.modifies_execute s v (fun branch h => hfork ⟨branch, h⟩)
        fun info h => habort ⟨info, h⟩).course (by decide))

lemma course_suspend (r : Run) (i : Nat) (p : Point) (a : Await) (resumption : Resumption) :
    r.course.Leads (r.suspend i p a resumption).course := by
  rw [suspend]
  split
  · exact course_setStatus { r with agenda := _ } i _
  · exact r.course_setStatus i _

lemma course_follow (r : Run) (s : Setup) (i : Nat) (t : Task) (p : Point) (node : Node)
    (outcome : Outcome) : r.course.Leads (r.follow s i t p node outcome).course := by
  cases outcome with
  | done code =>
    rw [follow]
    split
    · exact r.course_setStatus i _
    · exact (r.course_finishBranch s t).trans (course_setStatus _ i .ended)
  | fails e => exact (r.course_failBranch s t e).trans (course_setStatus _ i .ended)
  | waits a resumption => exact r.course_suspend i p a resumption

lemma course_enter (r : Run) (s : Setup) (i : Nat) {t : Task} (p : Point) (ht : t ∈ r.tasks) :
    r.course.Leads (r.enter s i t p).course := by
  have hpoint : ({ r with point := some p } : Run).course = r.course := rfl
  rw [← hpoint, enter]
  dsimp only
  generalize hq : ({ r with point := some p } : Run) = q
  have hmem : t ∈ q.tasks := by
    rw [← hq]
    exact ht
  split
  · exact q.course_setStatus i .ended
  · split
    · exact (q.course_finishBranch s t).trans (course_setStatus _ i .ended)
    · next node _ =>
      split
      · exact q.course_follow s i t p node _
      · next action _ =>
        split
        · exact (Course.Leads.of_eq ((q.modifies_resolve t.done 0).course (by decide))).trans
            (course_setStatus _ i .ended)
        · exact (q.course_execute s ⟨t.branch, p.node, node, t.token⟩ action ⟨t, hmem, rfl⟩).trans
            (course_follow _ s i t p node _)

lemma course_leaveWait (r : Run) (s : Setup) (i : Nat) (t : Task) (p : Point) (a : Await)
    (resumption : Resumption) (result : Except ScenarioError Int) :
    r.course.Leads (r.leaveWait s i t p a resumption result).course := by
  have hend := (({ r with agenda := r.agenda.dropTimers (r.taskId i) } : Run).modifies_endWait a).course
    (by decide)
  rw [leaveWait]
  dsimp only
  generalize ({ r with agenda := r.agenda.dropTimers (r.taskId i) } : Run).endWait a = q at hend
  have hproceed := (q.modifies_proceed s result resumption).course (by decide)
  have hq : r.course.Leads (q.proceed s result resumption).2.course := .of_eq (hproceed.trans hend)
  split
  · exact hq.trans (course_follow _ s i t p _ _)
  · exact hq.trans (course_setStatus _ i .ended)

lemma course_step {r r' : Run} {s : Setup} {i : Nat} (h : r.step? s i = some r') :
    r.course.Leads r'.course := by
  obtain ⟨t, ht, -⟩ := Option.bind_eq_some_iff.mp h
  cases hstatus : t.status with
  | entering p =>
    rw [step?_entering s ht hstatus] at h
    obtain rfl := Option.some.inj h
    exact r.course_enter s i p (List.mem_of_getElem? ht)
  | waiting p a resumption =>
    rw [step?_waiting s ht hstatus] at h
    obtain ⟨result, _, rfl⟩ := Option.map_eq_some_iff.mp h
    exact r.course_leaveWait s i t p a resumption result
  | ended => simp [step?_ended s ht hstatus] at h

/-! ## All moves -/

/-- Every move is composed of elementary changes. -/
lemma course_after (r : Run) (s : Setup) (m : Move) : r.course.Leads (r.after s m).course := by
  cases m with
  | start =>
    obtain ⟨_, hleads⟩ | ⟨hstate, hbegins⟩ := r.start_cases s
    · exact hleads
    · exact hbegins.leads (by simp [hstate])
  | pause => exact r.course_pause s
  | resume =>
    obtain hsame | ⟨hstate, hbegins⟩ := r.resume_cases s
    · exact .of_eq (congrArg course hsame)
    · exact hbegins.leads (by simp [hstate])
  | stop error => exact r.course_stop s error
  | answer id a => exact .of_eq ((r.modifies_answer id a).course (by decide))
  | sample role sensor timestamp values =>
    exact .of_eq ((r.modifies_sample role sensor timestamp values).course (by decide))
  | step i =>
    show r.course.Leads ((r.step? s i).getD r).course
    cases h : r.step? s i with
    | none => exact .refl _
    | some r' => exact course_step h
  | others shared => exact .of_eq rfl

lemma course_afterAll (r : Run) (s : Setup) (moves : List Move) :
    r.course.Leads (r.afterAll s moves).course := by
  induction moves generalizing r with
  | nil => exact .refl _
  | cons m rest ih => exact (r.course_after s m).trans (ih _)

end Run

end FieldStudy
