import Mathlib.Data.List.Basic
import Mathlib.Logic.Relation
import FieldStudy.Proofs.Run.Turns

/-!
# Standing in line

What a move of a run does to its tasks and to the agenda is composed of a few elementary changes (`Queue.Change`): tasks
are put in line, at its end, and the task that takes a step notes a deadline or changes its status.  Nobody is taken out
of the line, nobody is moved within it, and the clock stands still.
-/

namespace FieldStudy

/-- The part of a run that says who stands in line. -/
structure Queue where
  number : Nat
  tasks : List Task
  agenda : Agenda

namespace Queue

/-- An elementary change, while a certain task may take a step. -/
inductive Change (walker : Option Nat) : Queue → Queue → Prop
  /-- A task is put in line unless it is. -/
  | call (q : Queue) {i : Nat} (hi : i < q.tasks.length) :
      Change walker q { q with agenda := q.agenda.enqueue ⟨q.number, i⟩ }
  /-- A task is added and put in line. -/
  | spawn (q : Queue) (t : Task) :
      Change walker q { q with tasks := q.tasks ++ [t], agenda := q.agenda.enqueue ⟨q.number, q.tasks.length⟩ }
  /-- Who takes a step notes a deadline. -/
  | note (q : Queue) (deadline : Nat) {i : Nat} (hi : walker = some i) :
      Change walker q { q with agenda := q.agenda.addTimer deadline ⟨q.number, i⟩ }
  | drop (q : Queue) (id : TaskId) : Change walker q { q with agenda := q.agenda.dropTimers id }
  /-- Who takes a step goes on, waits or ends. -/
  | status (q : Queue) (status : TaskStatus) {i : Nat} (hi : walker = some i) :
      Change walker q { q with tasks := q.tasks.modify i fun t => { t with status } }

/-- Elementary changes one after another. -/
def Leads (walker : Option Nat) : Queue → Queue → Prop := Relation.ReflTransGen (Change walker)

namespace Leads

variable {walker : Option Nat} {q q₁ q₂ : Queue}

lemma refl (q : Queue) : Leads walker q q := Relation.ReflTransGen.refl

lemma of_eq (h : q₁ = q) : Leads walker q q₁ := by
  rw [h]
  exact refl q

lemma single (h : Change walker q q₁) : Leads walker q q₁ := Relation.ReflTransGen.single h

lemma trans (h : Leads walker q q₁) (h' : Leads walker q₁ q₂) : Leads walker q q₂ := Relation.ReflTransGen.trans h h'

lemma clock (h : Leads walker q q₁) : q₁.agenda.clock = q.agenda.clock := by
  induction h with
  | refl => rfl
  | tail _ hchange ih =>
    refine Eq.trans ?_ ih
    cases hchange with
    | call hi => exact Agenda.clock_enqueue _ _
    | spawn t => exact Agenda.clock_enqueue _ _
    | note deadline hi => rfl
    | drop id => rfl
    | status status hi => rfl

end Leads

end Queue

/-- The task that takes a step in a move. -/
def Move.walker? : Move → Option Nat
  | .step i => some i
  | _ => none

namespace Run

variable {r r' : Run} {s : Setup} {i : Nat} {t : Task} {walker : Option Nat}

def queue (r : Run) : Queue := ⟨r.number, r.tasks, r.agenda⟩

lemma Modifies.queue {fs : List RunField} (h : Modifies fs r r') (hnumber : .number ∉ fs) (htasks : .tasks ∉ fs)
    (hagenda : .agenda ∉ fs) : r'.queue = r.queue := by
  have hn : r'.number = r.number := h .number hnumber
  have ht : r'.tasks = r.tasks := h .tasks htasks
  have ha : r'.agenda = r.agenda := h .agenda hagenda
  rw [Run.queue, Run.queue, hn, ht, ha]

lemma queue_foldl {α : Type} {f : Run → α → Run} (hf : ∀ (r : Run) a, r.queue.Leads walker (f r a).queue) (as : List α)
    (r : Run) : r.queue.Leads walker (as.foldl f r).queue := by
  induction as generalizing r with
  | nil => exact .refl _
  | cons a rest ih => exact (hf r a).trans (ih _)

/-! ## Waking tasks -/

lemma queue_wake (r : Run) (concerns : Task → Await → Bool) : r.queue.Leads walker (r.wake concerns).queue := by
  have hwake (f : Run → Task × Nat → Run) (hf : ∀ q e, f q e = q ∨ f q e = q.enqueue e.2)
      (entries : List (Task × Nat)) (q : Run) (hentries : ∀ e ∈ entries, e.2 < q.tasks.length) :
      q.queue.Leads walker (entries.foldl f q).queue := by
    induction entries generalizing q with
    | nil => exact .refl _
    | cons e rest ih =>
      have hlater : ∀ e' ∈ rest, e'.2 < q.tasks.length := fun e' he' => hentries e' (List.mem_cons_of_mem e he')
      rw [List.foldl_cons]
      obtain hsame | hcalled := hf q e
      · rw [hsame]
        exact ih q hlater
      · rw [hcalled]
        exact (Queue.Leads.single (.call q.queue (hentries e (by simp)))).trans (ih (q.enqueue e.2) hlater)
  refine hwake _ ?_ r.tasks.zipIdx r ?_
  · rintro q ⟨t, i⟩
    dsimp only
    split
    · split
      · exact .inr rfl
      · exact .inl rfl
    · exact .inl rfl
  · rintro ⟨t, i⟩ he
    exact (List.getElem?_eq_some_iff.mp (List.mk_mem_zipIdx_iff_getElem?.mp he)).1

lemma queue_resolve (r : Run) (signal : Nat) (value : Int) : r.queue.Leads walker (r.resolve signal value).queue :=
  queue_wake { r with signals := r.signals.resolve signal value } _

lemma queue_cancel (r : Run) : r.queue.Leads walker r.cancel.queue :=
  queue_wake { r with cancelled := r.token :: r.cancelled } _

lemma queue_clearPrompts (r : Run) : r.queue.Leads walker r.clearPrompts.queue :=
  queue_wake { r with prompts := r.prompts.clear } _

lemma queue_setEvent (r : Run) (name : String) : r.queue.Leads walker (r.setEvent name).queue := by
  rw [setEvent]
  split
  · exact r.queue_resolve _ 0
  · exact .refl _

/-! ## Ends of runs and of branches -/

lemma queue_stop (r : Run) (s : Setup) (error : Option ScenarioError) :
    r.queue.Leads walker (r.stop s error).queue := by
  by_cases hstate : r.state = .stopped
  · rw [stop, if_pos hstate]
    exact .refl _
  · have hcancel : r.queue.Leads walker ({ r with state := .stopped } : Run).cancel.queue :=
      queue_cancel { r with state := .stopped }
    have hhalt : r.queue.Leads walker r.halt.queue :=
      hcancel.trans (({ r with state := .stopped } : Run).cancel.queue_clearPrompts)
    have hreleased := (r.halt.modifies_released s).queue (by decide) (by decide) (by decide)
    have hreported := ((r.halt.released s).modifies_reported error).queue (by decide) (by decide) (by decide)
    rw [r.stop_eq s error hstate]
    exact hhalt.trans (.of_eq (hreported.trans hreleased))

lemma queue_finishBranch (r : Run) (s : Setup) (t : Task) : r.queue.Leads walker (r.finishBranch s t).queue := by
  rw [finishBranch]
  split
  · exact (r.queue_resolve t.done 0).trans (queue_stop _ s none)
  · exact r.queue_resolve t.done 0

lemma queue_failBranch (r : Run) (s : Setup) (t : Task) (e : ScenarioError) :
    r.queue.Leads walker (r.failBranch s t e).queue := by
  cases e with
  | cancelled => exact .refl _
  | _ => exact (r.queue_resolve t.done 0).trans (queue_stop _ s _)

/-! ## Beginnings of branches -/

lemma queue_spawn (r : Run) (branch : String) (done token : Nat) (p : Point) :
    r.queue.Leads walker (r.spawn branch done token p).queue :=
  .single (.spawn r.queue ⟨branch, done, token, .entering p⟩)

lemma queue_spawnBranch (r : Run) (branch : String) (token : Nat) (p : Point) :
    r.queue.Leads walker (r.spawnBranch branch token p).queue :=
  queue_spawn (r.registerBranch branch).2 branch _ token p

lemma queue_start (r : Run) (s : Setup) : r.queue.Leads walker (r.start s).2.queue := by
  have hreset : r.queue.Leads walker (r.reset s).queue :=
    r.queue_clearPrompts.trans
      (.of_eq (r.clearPrompts.modifies_releaseFiles.queue (by decide) (by decide) (by decide)))
  have hfolder := ((r.reset s).modifies_createFolder s).queue (by decide) (by decide) (by decide)
  rw [start]
  split
  · exact .refl _
  · split
    · next q hq =>
      rw [hq] at hfolder
      exact (hreset.trans (.of_eq hfolder)).trans q.queue_cancel
    · next q hq =>
      rw [hq] at hfolder
      exact (hreset.trans (.of_eq hfolder)).trans
        (queue_spawnBranch (({ q with finished := none } : Run).emit (.state .running)) mainBranch _ _)

lemma queue_resume (r : Run) (s : Setup) : r.queue.Leads walker (r.resume s).queue := by
  have hsignal (q : Run) : (q.branchSignal mainBranch).2.queue = q.queue := by
    rw [branchSignal]
    split
    · split <;> rfl
    · rfl
  rw [resume]
  split
  · exact .refl _
  · exact (Queue.Leads.of_eq (hsignal (({ r with state := .running } : Run).renew.emit (.state .running)))).trans
      (queue_spawn _ mainBranch _ _ _)

lemma queue_pause (r : Run) (s : Setup) : r.queue.Leads walker (r.pause s).queue := by
  have hsaved := (({ r with state := .paused } : Run).cancel.modifies_saveMetadata s).queue
    (by decide) (by decide) (by decide)
  rw [pause]
  split
  · exact .refl _
  · exact (queue_cancel { r with state := .paused }).trans (.of_eq hsaved)

/-! ## Steps -/

lemma queue_execute (r : Run) (s : Setup) (v : Visit) (a : Action) :
    r.queue.Leads walker (r.execute s v a).2.queue := by
  by_cases hfork : ∃ branch, a = .fork branch
  · obtain ⟨branch, rfl⟩ := hfork
    show r.queue.Leads walker (r.fork v branch).2.queue
    rw [fork]
    split
    · exact .refl _
    · exact r.queue_spawnBranch branch v.token _
  · by_cases hevent : ∃ op b, a = .event op b
    · obtain ⟨op, b, rfl⟩ := hevent
      cases op with
      | create => exact queue_foldl (fun r name => .of_eq (by rw [createEvent]; split <;> rfl)) b.names r
      | reset => exact queue_foldl (fun r name => .of_eq (by rw [resetEvent]; split <;> rfl)) b.names r
      | set => exact queue_foldl queue_setEvent b.names r
      | wait => exact .of_eq (congrArg queue (r.waitEvents_run false b))
      | waitAll => exact .of_eq (congrArg queue (r.waitEvents_run true b))
    · by_cases habort : ∃ info, a = .abort info
      · obtain ⟨info, rfl⟩ := habort
        exact queue_stop (r.updateMetadata fun m => { m with abort := some info }) s _
      · exact .of_eq ((r.modifies_execute_quiet s v (fun branch h => hfork ⟨branch, h⟩)
          (fun info h => habort ⟨info, h⟩) fun op b h => hevent ⟨op, b, h⟩).queue (by decide) (by decide) (by decide))

lemma queue_worked {p : Point} {turn : Turn} {q : Run} (h : r.Worked s i t p turn q) :
    r.queue.Leads walker q.queue := by
  cases h with
  | enters => exact .refl _
  | takes => exact queue_execute { r with point := some p } s _ _
  | @goesOn a resumption result =>
    have hdropped : r.queue.Leads walker ({ r with agenda := r.agenda.dropTimers (r.taskId i) } : Run).queue :=
      .single (.drop r.queue (r.taskId i))
    have hawake := (modifies_endWait { r with agenda := r.agenda.dropTimers (r.taskId i) } a).queue
      (by decide) (by decide) (by decide)
    have hproceed := ((r.awake i a).modifies_proceed s result resumption).queue (by decide) (by decide) (by decide)
    exact hdropped.trans (.of_eq (hproceed.trans hawake))

lemma queue_setStatus (r : Run) (i : Nat) (status : TaskStatus) :
    r.queue.Leads (some i) (r.setStatus i status).queue :=
  .single (.status r.queue status rfl)

lemma queue_suspend (r : Run) (i : Nat) (p : Point) (a : Await) (resumption : Resumption) :
    r.queue.Leads (some i) (r.suspend i p a resumption).queue := by
  rw [suspend]
  split
  · next deadline _ =>
    exact (Queue.Leads.single (.note r.queue deadline rfl)).trans
      (queue_setStatus { r with agenda := r.agenda.addTimer deadline (r.taskId i) } i _)
  · exact r.queue_setStatus i _

lemma queue_close (r : Run) (s : Setup) (i : Nat) (t : Task) (p : Point) (turn : Turn) :
    r.queue.Leads (some i) (r.close s i t p turn).queue := by
  cases turn with
  | dropped => exact r.queue_setStatus i _
  | lost => exact (r.queue_finishBranch s t).trans (queue_setStatus _ i _)
  | ownJoin => exact (r.queue_resolve t.done 0).trans (queue_setStatus _ i _)
  | acted node outcome =>
    cases outcome with
    | done code =>
      rw [close, follow]
      split
      · exact r.queue_setStatus i _
      · exact (r.queue_finishBranch s t).trans (queue_setStatus _ i _)
    | fails e => exact (r.queue_failBranch s t e).trans (queue_setStatus _ i _)
    | waits a resumption => exact r.queue_suspend i p a resumption

/-- Of the tasks that stand in line at most the one that takes a step is changed by a move. -/
lemma queue_after (r : Run) (s : Setup) {m : Move} (hm : ∀ shared, m ≠ .others shared) :
    r.queue.Leads m.walker? (r.after s m).queue := by
  cases m with
  | start => exact r.queue_start s
  | pause => exact r.queue_pause s
  | resume => exact r.queue_resume s
  | stop error => exact r.queue_stop s error
  | answer id a =>
    rw [after, answer]
    split
    · exact queue_wake { r with prompts := r.prompts.answer id a } _
    · exact .refl _
  | sample role sensor timestamp values =>
    exact .of_eq ((r.modifies_sample role sensor timestamp values).queue (by decide) (by decide) (by decide))
  | step i =>
    rw [after]
    cases h : r.step? s i with
    | none => exact .refl _
    | some r' =>
      obtain ⟨t, p, turn, q, -, -, hworked, rfl⟩ := step_cases h
      exact (queue_worked hworked).trans (q.queue_close s i t p turn)
  | others shared => exact absurd rfl (hm shared)

/-- Time passes only while other runs go on. -/
lemma clock_after (r : Run) (s : Setup) {m : Move} (hm : ∀ shared, m ≠ .others shared) :
    (r.after s m).clock = r.clock :=
  (r.queue_after s hm).clock

end Run

end FieldStudy
