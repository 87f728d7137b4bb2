import Mathlib.Data.List.Basic
import Mathlib.Tactic.Common
import FieldStudy.Proofs.Run.Branches
import FieldStudy.Proofs.Run.Reports

/-!
# The end of the main branch

A run whose main branch has come to its end is stopped, and how it ended has been told; so is a run that a task has
aborted.  The one exception is a main branch that joins itself: its signal is resolved, but the run goes on, and
with no other task it never ends by itself (`Run.end_of_main`).
-/

namespace FieldStudy.Run

variable {s : Setup} {r r' q : Run} {i : Nat} {t : Task}

/-! ## Verdicts -/

/-- Whether a run goes on, and how the latest one has ended. -/
def verdict (r : Run) : RunState × Option StopReason := (r.state, r.finished)

/-- The run has stopped, and how has been told. -/
structure Settled (r : Run) : Prop where
  state : r.state = .stopped
  finished : r.finished.isSome = true

/-- The verdict is as it was, or the run has stopped. -/
def Settles (r r' : Run) : Prop := r'.verdict = r.verdict ∨ r'.Settled

lemma Settled.of_verdict (h : r.Settled) (hsame : r'.verdict = r.verdict) : r'.Settled := by
  obtain ⟨hstate, hfinished⟩ := Prod.mk.inj hsame
  exact ⟨hstate.trans h.state, hfinished ▸ h.finished⟩

lemma Settles.trans (h : Settles r q) (h' : Settles q r') : Settles r r' := by
  obtain hsame' | hsettled' := h'
  · obtain hsame | hsettled := h
    · exact .inl (hsame'.trans hsame)
    · exact .inr (hsettled.of_verdict hsame')
  · exact .inr hsettled'

lemma Settles.stopped (h : Settles r r') (hr : r.state = .stopped) : r'.state = .stopped :=
  h.elim (fun hsame => (congrArg Prod.fst hsame).trans hr) (·.state)

lemma Settles.settled (h : Settles r r') (hr : r.Settled) : r'.Settled := h.elim hr.of_verdict id

lemma Modifies.verdict {fs : List RunField} (h : Modifies fs r r') (hstate : RunField.state ∉ fs)
    (hfinished : RunField.finished ∉ fs) : r'.verdict = r.verdict := by
  have hs : r'.state = r.state := h .state hstate
  have hf : r'.finished = r.finished := h .finished hfinished
  rw [Run.verdict, hs, hf, Run.verdict]

/-- A run that goes on and is stopped is settled. -/
lemma settled_stop (s : Setup) (error : Option ScenarioError) (hstate : r.state ≠ .stopped) :
    (r.stop s error).Settled := by
  have hdown : (r.halt.released s).state = .stopped :=
    (r.halt.modifies_released s .state (by decide)).trans r.halt_quiet.2
  rw [r.stop_eq s error hstate]
  generalize r.halt.released s = q at hdown
  exact ⟨hdown, rfl⟩

lemma settles_stop (r : Run) (s : Setup) (error : Option ScenarioError) : Settles r (r.stop s error) := by
  by_cases hstate : r.state = .stopped
  · rw [stop, if_pos hstate]
    exact .inl rfl
  · exact .inr (settled_stop s error hstate)

/-! ## Steps -/

lemma settles_resolve (r : Run) (signal : Nat) (value : Int) : Settles r (r.resolve signal value) :=
  .inl ((r.modifies_resolve signal value).verdict (by decide) (by decide))

lemma settles_close (r : Run) (s : Setup) (i : Nat) (t : Task) (p : Point) (turn : Turn) :
    Settles r (r.close s i t p turn) := by
  have hended (q : Run) : Settles q (q.setStatus i .ended) := .inl rfl
  have hfinish : Settles r (r.finishBranch s t) := by
    rw [finishBranch]
    split
    · exact (r.settles_resolve t.done 0).trans (settles_stop _ s none)
    · exact r.settles_resolve t.done 0
  cases turn with
  | dropped => exact hended r
  | lost => exact hfinish.trans (hended _)
  | ownJoin => exact (r.settles_resolve t.done 0).trans (hended _)
  | acted node outcome =>
    cases outcome with
    | done code =>
      rw [close, follow]
      split
      · exact .inl rfl
      · exact hfinish.trans (hended _)
    | fails e =>
      refine Settles.trans ?_ (hended _)
      cases e with
      | cancelled => exact .inl rfl
      | _ => exact (r.settles_resolve t.done 0).trans (settles_stop _ s _)
    | waits a resumption =>
      rw [close, follow, suspend]
      split
      · exact .inl rfl
      · exact .inl rfl

lemma settles_worked {p : Point} {turn : Turn} (h : r.Worked s i t p turn q) : Settles r q := by
  cases h with
  | enters => exact .inl rfl
  | @takes node a hstatus hnode haction =>
    by_cases hfork : ∃ branch, a = .fork branch
    · obtain ⟨branch, rfl⟩ := hfork
      left
      show (fork _ _ branch).2.verdict = r.verdict
      rw [fork]
      split
      · rfl
      · rfl
    · by_cases habort : ∃ info, a = .abort info
      · obtain ⟨info, rfl⟩ := habort
        have hnoted : Settles r (({ r with point := some p } : Run).updateMetadata fun m =>
            { m with abort := some info }) := .inl rfl
        exact hnoted.trans (settles_stop _ s _)
      · have hact := modifies_execute ({ r with point := some p } : Run) s ⟨t.branch, p.node, node, t.token⟩
          (fun branch h => hfork ⟨branch, h⟩) (fun info h => habort ⟨info, h⟩)
        exact .inl (hact.verdict (by decide) (by decide))
  | @goesOn a resumption result hstatus hresult =>
    have hend := ({ r with agenda := r.agenda.dropTimers (r.taskId i) } : Run).modifies_endWait a
    have hproceed := (r.awake i a).modifies_proceed s result resumption
    exact .inl ((hproceed.verdict (by decide) (by decide)).trans (hend.verdict (by decide) (by decide)))

/-- A step leaves the verdict as it was, or stops the run. -/
lemma settles_step (h : r.step? s i = some r') : Settles r r' := by
  obtain ⟨t, p, turn, q, -, -, hworked, rfl⟩ := step_cases h
  exact (settles_worked hworked).trans (q.settles_close s i t p turn)

lemma state_stop (r : Run) (s : Setup) (error : Option ScenarioError) : (r.stop s error).state = .stopped := by
  by_cases hstate : r.state = .stopped
  · rw [stop, if_pos hstate]
    exact hstate
  · exact (settled_stop s error hstate).state

/-- What follows from the end of a main branch stops the run, unless the branch joins itself. -/
lemma state_close_of_isEnd (hmain : t.branch = mainBranch) (p : Point) {turn : Turn} (hend : turn.isEnd = true)
    (hother : turn ≠ .ownJoin) : (r.close s i t p turn).state = .stopped := by
  have hfinish : (r.finishBranch s t).state = .stopped := by
    rw [finishBranch, if_pos hmain]
    exact state_stop _ s none
  cases turn with
  | dropped => cases hend
  | lost => exact hfinish
  | ownJoin => exact absurd rfl hother
  | acted node outcome =>
    cases outcome with
    | done code =>
      have hnone : node.successor? code = none := by simpa [Turn.isEnd] using hend
      rw [close, follow, hnone]
      exact hfinish
    | fails e =>
      cases e with
      | cancelled => simp [Turn.isEnd] at hend
      | _ => exact state_stop _ s _
    | waits a resumption => cases hend

lemma after_step_eq {p : Point} {turn : Turn} (ht : r.tasks[i]? = some t) (hturn : r.turn? s i = some (p, turn)) :
    ∃ q, r.Worked s i t p turn q ∧ r.after s (.step i) = q.close s i t p turn := by
  obtain ⟨r', h⟩ : ∃ r', r.step? s i = some r' := by
    rw [← Option.isSome_iff_exists, ← turn?_isSome, hturn]
    rfl
  obtain ⟨t', p', turn', q, ht', hturn', hworked, hclose⟩ := step_cases h
  obtain rfl : t' = t := Option.some.inj (ht'.symm.trans ht)
  obtain ⟨rfl, rfl⟩ := Prod.mk.inj (Option.some.inj (hturn'.symm.trans hturn))
  refine ⟨q, hworked, ?_⟩
  rw [after, h, ← hclose]
  rfl

/-- A main branch that joins itself leaves the verdict as it was. -/
lemma verdict_of_ownJoin {p : Point} (ht : r.tasks[i]? = some t) (hturn : r.turn? s i = some (p, .ownJoin)) :
    (r.after s (.step i)).verdict = r.verdict := by
  obtain ⟨q, hworked, hafter⟩ := after_step_eq ht hturn
  have hq : q.verdict = r.verdict := by
    generalize hown : Turn.ownJoin = turn at hworked
    cases hworked with
    | enters => rfl
    | takes => cases hown
    | goesOn =>
      rw [sequel] at hown
      split at hown <;> cases hown
  have hresolve := (q.modifies_resolve t.done 0).verdict (by decide) (by decide)
  rw [hafter, ← hq, ← hresolve]
  rfl

/-- A branch can join itself in a run that goes on only. -/
lemma running_of_ownJoin {p : Point} (ht : r.tasks[i]? = some t) (hturn : r.turn? s i = some (p, .ownJoin)) :
    r.state = .running := by
  cases hstatus : t.status with
  | entering p' =>
    rw [turn?_entering s ht hstatus, entry] at hturn
    by_cases hlive : r.isLive t.token = true
    · exact (of_isLive hlive).1
    · simp [hlive] at hturn
  | waiting p' a resumption =>
    rw [turn?_waiting s ht hstatus] at hturn
    obtain ⟨result, -, hpair⟩ := Option.map_eq_some_iff.mp hturn
    have hsequel := congrArg Prod.snd hpair
    dsimp only at hsequel
    rw [sequel] at hsequel
    split at hsequel <;> cases hsequel
  | ended => simp [turn?_ended s ht hstatus] at hturn

/-! ## All moves -/

/-- How the latest run has ended is told as long as no other one is under way. -/
def Announced (r : Run) : Prop := r.state = .stopped ↔ r.finished.isSome = true

lemma Announced.of_settles (hr : r.Announced) (h : Settles r r') : r'.Announced := by
  obtain hsame | hsettled := h
  · obtain ⟨hstate, hfinished⟩ := Prod.mk.inj hsame
    rw [Announced, hstate, hfinished]
    exact hr
  · exact iff_of_true hsettled.state hsettled.finished

/-- A start that succeeds takes the verdict away, and one that fails leaves it. -/
lemma verdict_start (r : Run) (s : Setup) (hstate : r.state = .stopped) :
    ((r.start s).1.isOk = true ∧ (r.start s).2.verdict = (.running, none)) ∨
      ((r.start s).1.isOk = false ∧ (r.start s).2.verdict = r.verdict) := by
  have hclear := r.modifies_clearPrompts.verdict (by decide) (by decide)
  have hfiles := r.clearPrompts.modifies_releaseFiles.verdict (by decide) (by decide)
  have hreset : (r.reset s).finished = r.finished := congrArg Prod.snd (hfiles.trans hclear)
  obtain ⟨q, hq, hstart⟩ := start_of_stopped s hstate
  obtain ⟨hrunning, hfinished⟩ := Prod.mk.inj (hq.verdict (by decide) (by decide))
  obtain ⟨e, hstart⟩ | hstart := hstart
  · have hcancel := congrArg Prod.snd (q.modifies_cancel.verdict (by decide) (by decide))
    rw [hstart]
    exact .inr ⟨rfl, Prod.ext hstate.symm (hcancel.trans (hfinished.trans hreset))⟩
  · rw [hstart]
    exact .inl ⟨rfl, Prod.ext hrunning rfl⟩

lemma verdict_begins (h : r.begins s .start = true) : (r.after s .start).verdict = (.running, none) := by
  obtain ⟨hstate, hok⟩ := Bool.and_eq_true_iff.mp h
  obtain ⟨-, hbegun⟩ | ⟨hfails, -⟩ := r.verdict_start s (of_decide_eq_true hstate)
  · exact hbegun
  · rw [hfails] at hok
    cases hok

lemma verdict_pause (s : Setup) (h : r.state = .running) : (r.pause s).verdict = (.paused, r.finished) := by
  have hcancel := ({ r with state := .paused } : Run).modifies_cancel.verdict (by decide) (by decide)
  have hsaved := (({ r with state := .paused } : Run).cancel.modifies_saveMetadata s).verdict (by decide) (by decide)
  rw [pause, if_neg (not_not_intro h)]
  exact hsaved.trans hcancel

lemma verdict_resume (s : Setup) (h : r.state = .paused) : (r.resume s).verdict = (.running, r.finished) := by
  have hsignal := (({ r with state := .running } : Run).renew.emit (.state .running)).quiet_branchSignal mainBranch
  have hfinished : ((({ r with state := .running } : Run).renew.emit (.state .running)).branchSignal
      mainBranch).2.finished = r.finished := by
    rw [branchSignal]
    split
    · split <;> rfl
    · rfl
  rw [resume, if_neg (not_not_intro h)]
  exact Prod.ext hsignal.state hfinished

/-- What a move other than a start does to the verdict. -/
lemma settles_after (r : Run) (s : Setup) {m : Move} (hstart : m ≠ .start) (hpause : m ≠ .pause)
    (hresume : m ≠ .resume) : Settles r (r.after s m) := by
  cases m with
  | start => exact absurd rfl hstart
  | pause => exact absurd rfl hpause
  | resume => exact absurd rfl hresume
  | stop error => exact r.settles_stop s error
  | answer id a => exact .inl ((r.modifies_answer id a).verdict (by decide) (by decide))
  | sample role sensor timestamp values =>
    exact .inl ((r.modifies_sample role sensor timestamp values).verdict (by decide) (by decide))
  | step i =>
    rw [after]
    cases h : r.step? s i with
    | none => exact .inl rfl
    | some r' => exact settles_step h
  | others shared => exact .inl rfl

/-- A run that has stopped goes on only by a start. -/
lemma state_after_of_stopped (s : Setup) (hstopped : r.state = .stopped) {m : Move} (hstart : m ≠ .start) :
    (r.after s m).state = .stopped := by
  cases m with
  | start => exact absurd rfl hstart
  | pause => rw [after, pause, if_pos (by simp [hstopped]), hstopped]
  | resume => rw [after, resume, if_pos (by simp [hstopped]), hstopped]
  | _ => exact (r.settles_after s (by simp) (by simp) (by simp)).stopped hstopped

/-- No move hides how the latest run has ended, and none tells it too early. -/
lemma announced_after (hr : r.Announced) (m : Move) : (r.after s m).Announced := by
  have hnone (h : r.state ≠ .stopped) : r.finished = none := by
    simpa [Announced, h] using hr
  have hkept {q : Run} (state : RunState) (hstate : state ≠ .stopped) (h : r.state ≠ .stopped)
      (hq : q.verdict = (state, r.finished)) : q.Announced := by
    obtain ⟨hs, hf⟩ := Prod.mk.inj hq
    rw [Announced, hs, hf, hnone h]
    exact iff_of_false hstate (by simp)
  by_cases hstart : m = .start
  · subst hstart
    by_cases hstate : r.state = .stopped
    · obtain ⟨-, hbegun⟩ | ⟨-, hsame⟩ := r.verdict_start s hstate
      · obtain ⟨hs, hf⟩ := Prod.mk.inj hbegun
        rw [Announced, after, hs, hf]
        exact iff_of_false (by decide) (by simp)
      · exact hr.of_settles (.inl hsame)
    · rw [after, start, if_pos hstate]
      exact hr
  · by_cases hpause : m = .pause
    · subst hpause
      by_cases hstate : r.state = .running
      · exact hkept .paused (by decide) (by simp [hstate]) (verdict_pause s hstate)
      · rw [after, pause, if_pos hstate]
        exact hr
    · by_cases hresume : m = .resume
      · subst hresume
        by_cases hstate : r.state = .paused
        · exact hkept .running (by decide) (by simp [hstate]) (verdict_resume s hstate)
        · rw [after, resume, if_pos hstate]
          exact hr
      · exact hr.of_settles (r.settles_after s hstart hpause hresume)

/-- A run that has stopped stays so until it is started again. -/
lemma settled_after (hr : r.Settled) {m : Move} (hbegins : r.begins s m = false) : (r.after s m).Settled := by
  cases m with
  | start =>
    obtain ⟨hok, -⟩ | ⟨-, hsame⟩ := r.verdict_start s hr.state
    · rw [begins, hr.state, hok] at hbegins
      cases hbegins
    · exact hr.of_verdict hsame
  | pause =>
    rw [after, pause, if_pos (by simp [hr.state])]
    exact hr
  | resume =>
    rw [after, resume, if_pos (by simp [hr.state])]
    exact hr
  | _ => exact (r.settles_after s (by simp) (by simp) (by simp)).settled hr

/-- The current run goes on through these moves: none of them starts another one. -/
def NoneBegins (s : Setup) (r : Run) (moves : List Move) : Prop :=
  ¬ r.Happens s (fun q m => q.begins s m = true) moves

lemma announced_afterAll (hr : r.Announced) (moves : List Move) : (r.afterAll s moves).Announced := by
  induction moves generalizing r with
  | nil => exact hr
  | cons m rest ih => exact ih (announced_after hr m)

lemma settled_afterAll (hr : r.Settled) {moves : List Move} (hsame : r.NoneBegins s moves) :
    (r.afterAll s moves).Settled := by
  induction moves generalizing r with
  | nil => exact hr
  | cons m rest ih =>
    obtain ⟨hfirst, hrest⟩ := not_or.mp hsame
    exact ih (settled_after hr (by simpa using hfirst)) hrest

/-! ## The main branch -/

/-- A main branch comes to its end, other than by joining itself, or the run is aborted. -/
def EndsRun (s : Setup) (r : Run) (m : Move) : Prop :=
  (∃ i t p turn, m = .step i ∧ r.tasks[i]? = some t ∧ t.branch = mainBranch ∧ r.turn? s i = some (p, turn) ∧
    turn.isEnd = true ∧ turn ≠ .ownJoin) ∨
  ∃ info, r.taken? s m = some (.abort info)

lemma state_of_endsRun {m : Move} (h : r.EndsRun s m) : (r.after s m).state = .stopped := by
  obtain ⟨i, t, p, turn, rfl, ht, hmain, hturn, hend, hother⟩ | ⟨info, htaken⟩ := h
  · obtain ⟨q, -, hafter⟩ := after_step_eq ht hturn
    rw [hafter]
    exact state_close_of_isEnd hmain p hend hother
  · obtain ⟨i, rfl⟩ := step_of_taken? htaken
    obtain ⟨t, p, node, -, -, -, -, hafter⟩ := after_of_taken? htaken
    rw [hafter]
    exact (settles_close _ s i t p (.acted node _)).stopped (state_stop _ s _)

lemma step?_of_isIdle (hidle : r.isIdle = true) (s : Setup) (i : Nat) : r.step? s i = none := by
  cases ht : r.tasks[i]? with
  | none => simp [step?, ht]
  | some t =>
    have hended := List.all_eq_true.mp hidle t (List.mem_of_getElem? ht)
    cases hstatus : t.status with
    | ended => exact step?_ended s ht hstatus
    | _ => simp [Task.hasEnded, hstatus] at hended

/-- A run that goes on with no task left goes on until the host pauses or stops it. -/
lemma running_of_isIdle (hidle : r.isIdle = true) (hrunning : r.state = .running) {moves : List Move}
    (hhost : ∀ m ∈ moves, m ≠ .pause ∧ ∀ error, m ≠ .stop error) :
    (r.afterAll s moves).verdict = r.verdict := by
  have hafter {m : Move} {r : Run} (hidle : r.isIdle = true) (hrunning : r.state = .running)
      (hpause : m ≠ .pause) (hstop : ∀ error, m ≠ .stop error) :
      (r.after s m).verdict = r.verdict ∧ (r.after s m).tasks = r.tasks := by
    cases m with
    | start => rw [after, start, if_pos (by simp [hrunning])]; exact ⟨rfl, rfl⟩
    | pause => exact absurd rfl hpause
    | resume => rw [after, resume, if_pos (by simp [hrunning])]; exact ⟨rfl, rfl⟩
    | stop error => exact absurd rfl (hstop error)
    | answer id a =>
      exact ⟨(r.modifies_answer id a).verdict (by decide) (by decide), r.modifies_answer id a .tasks (by decide)⟩
    | sample role sensor timestamp values =>
      have hsample := r.modifies_sample role sensor timestamp values
      exact ⟨hsample.verdict (by decide) (by decide), hsample .tasks (by decide)⟩
    | step i => rw [after, step?_of_isIdle hidle s i]; exact ⟨rfl, rfl⟩
    | others shared => exact ⟨rfl, rfl⟩
  induction moves generalizing r with
  | nil => rfl
  | cons m rest ih =>
    obtain ⟨hpause, hstop⟩ := hhost m (by simp)
    obtain ⟨hverdict, htasks⟩ := hafter hidle hrunning hpause hstop
    have hidle' : (r.after s m).isIdle = true := by rw [isIdle, htasks]; exact hidle
    have hrunning' : (r.after s m).state = .running := (congrArg Prod.fst hverdict).trans hrunning
    exact (ih hidle' hrunning' fun m' hm' => hhost m' (List.mem_cons_of_mem m hm')).trans hverdict

/-- A run is stopped, and how it ended has been told, from the step on in which its main branch comes to its end or
it is aborted.  An action to which the backend has replied that it was cancelled ends in silence, which does not count
as an end.  Apart from that only where a main branch joins itself the run goes on: nothing is told, and if no other task
is left then nothing but the host will ever pause or stop it. -/
theorem end_of_main (x : Ensemble) (s : Setup) (before : List Move)
    (hbegins : ((x.newRun s).afterAll s before).begins s .start = true) (moves : List Move)
    (hsame : (((x.newRun s).afterAll s before).after s .start).NoneBegins s moves) :
    let first := ((x.newRun s).afterAll s before).after s .start
    let r := first.afterAll s moves
    (first.Happens s (EndsRun s) moves → r.state = .stopped ∧ r.finished.isSome = true) ∧
    ∀ i t p, r.tasks[i]? = some t → r.turn? s i = some (p, .ownJoin) →
      let q := r.after s (.step i)
      q.state = .running ∧ q.finished = none ∧
      (q.isIdle = true → ∀ later, (∀ m ∈ later, m ≠ .pause ∧ ∀ error, m ≠ .stop error) →
        (q.afterAll s later).state = .running ∧ (q.afterAll s later).finished = none) := by
  intro first r
  have hannounced : first.Announced := by
    obtain ⟨hstate, hok⟩ := Bool.and_eq_true_iff.mp hbegins
    obtain ⟨-, hbegun⟩ | ⟨hfails, -⟩ := ((x.newRun s).afterAll s before).verdict_start s (of_decide_eq_true hstate)
    · obtain ⟨hs, hf⟩ := Prod.mk.inj hbegun
      rw [Announced, show first.state = .running from hs, show first.finished = none from hf]
      exact iff_of_false (by decide) (by simp)
    · rw [hfails] at hok
      cases hok
  refine ⟨fun hends => ?_, fun i t p ht hturn => ?_⟩
  · obtain ⟨walked, m, rest, rfl, hend⟩ := happens_iff.mp hends
    have hstopped := state_of_endsRun hend
    have hsettled : ((first.afterAll s walked).after s m).Settled :=
      ⟨hstopped, (announced_after (announced_afterAll hannounced walked) m).mp hstopped⟩
    have hrest : ((first.afterAll s walked).after s m).NoneBegins s rest := by
      intro hlater
      exact hsame ((happens_append _ _).mpr (.inr (.inr hlater)))
    have hfinal := settled_afterAll hsettled hrest
    rw [← afterAll_cons, ← afterAll_append] at hfinal
    exact ⟨hfinal.state, hfinal.finished⟩
  · intro q
    have hrunning := running_of_ownJoin ht hturn
    have hnone : r.finished = none := by
      have hr := announced_afterAll (s := s) hannounced moves
      simpa [Announced, hrunning, r] using hr
    obtain ⟨hstate, hfinished⟩ := Prod.mk.inj (verdict_of_ownJoin ht hturn)
    refine ⟨hstate.trans hrunning, hfinished.trans hnone, fun hidle later hhost => ?_⟩
    obtain ⟨hs, hf⟩ := Prod.mk.inj (running_of_isIdle (s := s) hidle (hstate.trans hrunning) hhost)
    exact ⟨hs.trans (hstate.trans hrunning), hf.trans (hfinished.trans hnone)⟩

/-- One answer has no successor, and after the other one the main branch joins itself. -/
theorem end_of_main_choice :
    let nodes : Dict Node :=
      [("a", { Node.ofPrimitive .waitOption with next := [some "j"] }),
        ("j", { Node.ofPrimitive .join with arguments := .obj [("branch_name", .str "main")] })]
    let s : Setup := { definition := { scenarioId := 1, content := { entry := "a", nodes } }, folder := [] }
    let x : Ensemble := { files := {} }
    let answered (value : Int) : Run :=
      ((x.newRun s).after s .start).afterAll s [.step 0, .answer 1 (.value value), .step 0]
    let joined := (answered 0).after s (.step 0)
    (x.newRun s).begins s .start = true ∧
      ((answered 1).state = .stopped ∧ (answered 1).finished.isSome = true) ∧
      joined.state = .running ∧ joined.finished = none ∧
      (joined.afterAll s [.answer 1 (.value 0), .step 0, .start]).state = .running ∧
      (joined.afterAll s [.answer 1 (.value 0), .step 0, .start]).finished = none := by
  intro nodes s x answered joined
  have hbegins : (x.newRun s).begins s .start = true := by decide +kernel
  have hsame (value : Int) : ((x.newRun s).after s .start).NoneBegins s
      [.step 0, .answer 1 (.value value), .step 0] := by simp [NoneBegins, Happens, begins]
  obtain ⟨hended, -⟩ := end_of_main x s [] hbegins _ (hsame 1)
  obtain ⟨-, hjoins⟩ := end_of_main x s [] hbegins _ (hsame 0)
  let asked := ((x.newRun s).after s .start).afterAll s [.step 0, .answer 1 (.value 1)]
  have hlast : asked.endsBranch s 0 = true := by decide +kernel
  have hcode : asked.code? s 0 = some 1 := by decide +kernel
  have hmain : asked.tasks[0]?.map (·.branch) = some mainBranch := by decide +kernel
  obtain ⟨p, turn, hturn, hend⟩ := endsBranch_iff.mp hlast
  obtain ⟨t, ht, hbranch⟩ := Option.map_eq_some_iff.mp hmain
  have hother : turn ≠ .ownJoin := by
    rintro rfl
    rw [code?, hturn] at hcode
    cases hcode
  have hjoining : (answered 0).endsBranch s 0 = true := by decide +kernel
  have hwalker : (answered 0).tasks[0]?.map (·.branch) = some mainBranch := by decide +kernel
  have hnot : joined.state ≠ .stopped := by decide +kernel
  have hidle : joined.isIdle = true := by decide +kernel
  obtain ⟨p', turn', hturn', hend'⟩ := endsBranch_iff.mp hjoining
  obtain ⟨u, hu, hubranch⟩ := Option.map_eq_some_iff.mp hwalker
  obtain rfl : turn' = .ownJoin := by
    by_contra hother'
    exact hnot (state_of_endsRun (.inl ⟨0, u, p', turn', rfl, hu, hubranch, hturn', hend', hother'⟩))
  obtain ⟨hrunning, hnone, hlater⟩ := hjoins 0 u p' hu hturn'
  obtain ⟨hstays, hsilent⟩ := hlater hidle [.answer 1 (.value 0), .step 0, .start] (by simp)
  have hwalked : ((x.newRun s).after s .start).Happens s (EndsRun s) [.step 0, .answer 1 (.value 1), .step 0] :=
    .inr (.inr (.inl (.inl ⟨0, t, p, turn, rfl, ht, hbranch, hturn, hend, hother⟩)))
  exact ⟨hbegins, hended hwalked, hrunning, hnone, hstays, hsilent⟩

/-- A run whose main branch has come to its end, with no task left, is not stopped and its end is not told. -/
theorem ownJoin_leaves_running :
    let nodes : Dict Node :=
      [("j", { Node.ofPrimitive .join with arguments := .obj [("branch_name", .str "main")] })]
    let s : Setup := { definition := { scenarioId := 1, content := { entry := "j", nodes } }, folder := [] }
    let r := ((({ files := {} } : Ensemble).newRun s).after s .start)
    r.tasks.map (·.branch) = [mainBranch] ∧ r.endsBranch s 0 = true ∧ (r.after s (.step 0)).isIdle = true ∧
      (r.after s (.step 0)).state = .running ∧ (r.after s (.step 0)).finished = none := by
  decide +kernel

end FieldStudy.Run
