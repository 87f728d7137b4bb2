import Mathlib.Data.List.Basic
import Mathlib.Tactic.Common
import FieldStudy.Proofs.Run.Executions
import FieldStudy.Proofs.Run.Tidy

/-!
# Keeping the place of a walk

A run has one execution point, which every task sets that enters a point, also one that has been given up and goes no
further.  So a run that is paused goes on where its walk has come to if nobody else has set the execution point meanwhile
(`Run.KeepsPlace`).  Here is this condition on the moves of a run, and what is known of every reachable run of a scenario
without forks (`Run.Tame`).
-/

namespace FieldStudy

/-- The point that a task is about to enter, or where it waits. -/
def Task.point? (t : Task) : Option Point :=
  match t.status with
  | .entering p => some p
  | .waiting p _ _ => some p
  | .ended => none

namespace Run

variable {r r' q : Run} {s : Setup} {i : Nat} {t : Task} {p : Point}

/-! ## Tasks at their points -/

lemma nextPoint?_eq_some_iff : r.nextPoint? i = some p ↔ ∃ t, r.tasks[i]? = some t ∧ t.status = .entering p := by
  rw [nextPoint?, Option.bind_eq_some_iff]
  refine exists_congr fun t => and_congr_right fun _ => ?_
  cases t.status <;> simp

lemma Frozen.task_ne (h : Frozen i t r r') {j : Nat} (hj : j ≠ i) : r'.tasks[j]? = r.tasks[j]? := by
  rw [h.tasks, List.getElem?_modify_ne _ _ (Ne.symm hj)]

/-- The last task, if it may go on. -/
def walker? (r : Run) : Option Task := r.tasks.getLast?.filter fun t => r.isLive t.token

/-- Where a walk is that has been at `p`: where the task is that may go on, or still there if no task may. -/
def place (p : Point) (r : Run) : Point := (r.walker?.bind Task.point?).getD p

lemma walker?_of_last (ht : r.tasks[i]? = some t) (hi : i + 1 = r.tasks.length) (hlive : r.isLive t.token = true) :
    r.walker? = some t := by
  rw [walker?, List.getLast?_eq_getElem?, ← hi, Nat.add_sub_cancel, ht, Option.filter_some, if_pos hlive]

lemma place_of_last (ht : r.tasks[i]? = some t) (hi : i + 1 = r.tasks.length) (hlive : r.isLive t.token = true) :
    r.place p = t.point?.getD p := by
  rw [place, walker?_of_last ht hi hlive, Option.bind_some]

/-- A walk stays where it is while the run does not go on. -/
lemma place_of_state (p : Point) (hstate : r.state ≠ .running) : r.place p = p := by
  have hnone : r.walker? = none := by
    rw [walker?, Option.filter_eq_none_iff]
    intro t _
    simp [isLive, hstate]
  rw [place, hnone, Option.bind_none, Option.getD_none]

/-! ## Moves that keep the place -/

/-- What may be done to a run whose walk is at `p`.  It is resumed if the execution point is this place.  Other runs keep
their hands off the files of this one, and a new run is another matter. -/
def Permits (s : Setup) (p : Point) (r : Run) : Move → Prop
  | .resume => r.state = .paused → r.point.getD ⟨s.entry, none⟩ = p
  | .others shared => shared.files.bare = r.files.bare
  | .start => r.state ≠ .stopped
  | _ => True

/-- Whenever a run is resumed whose walk is at `p` in the beginning, the execution point is where the walk has come to. -/
def KeepsPlace (s : Setup) : Point → Run → List Move → Prop
  | _, _, [] => True
  | p, r, m :: rest => r.Permits s p m ∧ KeepsPlace s ((r.after s m).place p) (r.after s m) rest

/-- Where the walk is after some moves. -/
def placeAll (s : Setup) : Point → Run → List Move → Point
  | p, _, [] => p
  | p, r, m :: rest => placeAll s ((r.after s m).place p) (r.after s m) rest

instance decidablePermits (s : Setup) (p : Point) (r : Run) : DecidablePred (r.Permits s p)
  | .resume => inferInstanceAs (Decidable (r.state = .paused → r.point.getD ⟨s.entry, none⟩ = p))
  | .others shared => inferInstanceAs (Decidable (shared.files.bare = r.files.bare))
  | .start => inferInstanceAs (Decidable (r.state ≠ .stopped))
  | .pause | .step _ | .stop _ | .answer _ _ | .sample _ _ _ _ => inferInstanceAs (Decidable True)

instance decidableKeepsPlace (s : Setup) : (p : Point) → (r : Run) → DecidablePred (r.KeepsPlace s p)
  | _, _, [] => inferInstanceAs (Decidable True)
  | p, r, m :: rest =>
    let _ := decidableKeepsPlace s ((r.after s m).place p) (r.after s m) rest
    inferInstanceAs (Decidable (r.Permits s p m ∧ KeepsPlace s ((r.after s m).place p) (r.after s m) rest))

lemma keepsPlace_append (moves later : List Move) :
    r.KeepsPlace s p (moves ++ later) ↔
      r.KeepsPlace s p moves ∧ (r.afterAll s moves).KeepsPlace s (r.placeAll s p moves) later := by
  induction moves generalizing r p with
  | nil => simp [KeepsPlace, placeAll]
  | cons m rest ih => rw [List.cons_append, KeepsPlace, KeepsPlace, ih, afterAll_cons, placeAll, and_assoc]

lemma keepsPlace_snoc (moves : List Move) (m : Move) :
    r.KeepsPlace s p (moves ++ [m]) ↔
      r.KeepsPlace s p moves ∧ (r.afterAll s moves).Permits s (r.placeAll s p moves) m := by
  rw [keepsPlace_append, KeepsPlace, KeepsPlace, and_true]

/-! ## Reachable runs -/

/-- What is known of every reachable state of a run without forks. -/
structure Tame (r : Run) : Prop where
  sound : r.course.Sound
  lone : r.Lone
  prompted : r.Prompted
  assigned : ∃ given, r.board.Assigned given

lemma Tame.after (hforks : s.definition.ForkFree) (hbackend : s.backend.Plain) (h : r.Tame) (m : Move) :
    (r.after s m).Tame where
  sound := h.sound.leads (r.course_after s m)
  lone := lone_after hforks h.sound h.lone m
  prompted := prompted_after hforks hbackend h.sound h.lone h.prompted m
  assigned := by
    obtain ⟨given, hgiven⟩ := h.assigned
    exact ⟨_, assigned_follows hgiven [m]⟩

lemma tame_afterAll (hforks : s.definition.ForkFree) (hbackend : s.backend.Plain) (x : Ensemble) (moves : List Move) :
    ((x.newRun s).afterAll s moves).Tame where
  sound := sound_afterAll x s moves
  lone := lone_afterAll hforks x moves
  prompted := prompted_afterAll hforks hbackend x moves
  assigned := ⟨_, assigned_afterAll x s moves⟩

lemma Tame.afterAll (hforks : s.definition.ForkFree) (hbackend : s.backend.Plain) (h : r.Tame) (moves : List Move) :
    (r.afterAll s moves).Tame := by
  induction moves generalizing r with
  | nil => exact h
  | cons m rest ih => exact ih (h.after hforks hbackend m)

/-- The values of events are zero, like those of all signals. -/
lemma Tame.zero (h : r.Tame) (id : Nat) (v : Int) (hv : r.signals.value? id = some v) : v = 0 := by
  obtain ⟨given, hgiven⟩ := h.assigned
  exact hgiven.value id v hv

/-- A task that may take actions is the last one and walks the main branch. -/
lemma Tame.last (h : r.Tame) (ht : r.tasks[i]? = some t) (hlive : r.isLive t.token = true) :
    i + 1 = r.tasks.length ∧ t.branch = mainBranch :=
  h.lone i t ht (of_isLive hlive).2

lemma Modifies.isCancelled {fs : List RunField} (h : Modifies fs r r') (hfs : .cancelled ∉ fs) (token : Nat) :
    r'.isCancelled token = r.isCancelled token :=
  congrArg (·.contains token) (h .cancelled hfs)

lemma isLive_congr (hstate : r'.state = r.state) (hcancelled : r'.cancelled = r.cancelled) (token : Nat) :
    r'.isLive token = r.isLive token := by
  rw [isLive, isLive, isCancelled, isCancelled, hstate, hcancelled]

/-- In a run that does not go on every epoch has ended. -/
lemma Tame.cancelled (h : r.Tame) (hstate : r.state ≠ .running) (ht : r.tasks[i]? = some t) :
    r.isCancelled t.token = true := by
  by_contra hlive
  exact hstate (current_of_live h.sound (List.mem_of_getElem? ht) (by simpa using hlive)).1

/-- The epoch of whoever may not go on has ended. -/
lemma Tame.cancelled_of_idle (h : r.Tame) (ht : r.tasks[i]? = some t) (hidle : r.isLive t.token = false) :
    r.isCancelled t.token = true := by
  by_cases hrunning : r.state = .running
  · simpa [isLive, hrunning] using hidle
  · exact h.cancelled hrunning ht

/-! ## Signals of branches -/

/-- The end of a branch is no event. -/
lemma lasting_resolve_done {given : List SignalUse} (h : r.board.Assigned given) (ht : t ∈ r.tasks) :
    (r.resolve t.done 0).lasting = r.lasting := by
  have hresolve := r.modifies_resolve t.done 0
  refine hresolve.lasting_of_events (by decide) ?_
  have hevents : (r.resolve t.done 0).events = r.events := hresolve .events (by decide)
  have hsignals : (r.resolve t.done 0).signals = r.signals.resolve t.done 0 := modifies_wake _ _ .signals (by decide)
  funext name
  rw [eventValue?, eventValue?, hevents, hsignals]
  cases hid : r.events.get? name with
  | none => rfl
  | some id =>
    have hne : t.done ≠ id := by
      rintro rfl
      have hevent := h.event name _ hid
      rw [h.task t ht] at hevent
      cases hevent
    exact congrArg some (Signals.value?_resolve_of_ne 0 hne)

/-- What lasts of a run whose main branch has come to its end. -/
lemma lasting_ended {given : List SignalUse} (h : r.board.Assigned given) (ht : t ∈ r.tasks)
    (hhalted : r.state = .running ∨ (r.state = .stopped ∧ r.lasting = r.lasting.closed))
    (error : Option ScenarioError) :
    ((r.resolve t.done 0).stop s error).lasting = r.lasting.closed := by
  have hresolve := lasting_resolve_done h ht
  have hstate : (r.resolve t.done 0).state = r.state := r.modifies_resolve t.done 0 .state (by decide)
  obtain hrunning | ⟨hstopped, hclosed⟩ := hhalted
  · rw [lasting_stop s error (by simp [hstate, hrunning]), hresolve]
  · rw [stop, if_pos (hstate.trans hstopped), hresolve, ← hclosed]

/-- The signal of the main branch depends on what is left of a bare run. -/
lemma kept?_of_bare (h : r'.bare = r.bare) : r'.board.kept? = r.board.kept? := by
  have hbranches : r'.branches = r.branches := (congrArg branches h :)
  have hsignals : r'.signals = r.signals := (congrArg signals h :)
  show (r'.branches.get? mainBranch).filter _ = (r.branches.get? mainBranch).filter _
  rw [hbranches]
  show Option.filter (fun done => !r'.signals.isResolved done) _ = _
  rw [hsignals]
  rfl

/-! ## Work that does not stop the run -/

/-- The fields that the work on an action may change as long as it does not stop the run. -/
def workFields : List RunField := [.point, .agenda] ++ actionFields

lemma Worked.steady (hforks : s.definition.ForkFree) {turn : Turn} (h : r.Worked s i t p turn q)
    (hstate : q.state = .running) : Modifies workFields r q := by
  have hentered : Modifies workFields r { r with point := some p } := by
    intro f hf
    cases f <;> first | rfl | simp [workFields] at hf
  cases h with
  | enters => exact hentered
  | @takes node a hstatus hnode haction =>
    obtain ⟨-, node', hnode', hok, -⟩ := action?_eq_some_iff.mp haction
    obtain rfl : node' = node := Option.some.inj (hnode'.symm.trans hnode)
    have habort (info : AbortInfo) : a ≠ .abort info := by
      rintro rfl
      have hstopped : (({ r with point := some p } : Run).execute s ⟨t.branch, p.node, node', t.token⟩
          (.abort info)).2.state = .stopped := state_stop _ s (some (.aborted info))
      rw [hstopped] at hstate
      cases hstate
    have hexecute := ({ r with point := some p } : Run).modifies_execute s ⟨t.branch, p.node, node', t.token⟩
      (hforks.action hnode hok) habort
    exact hentered.trans (hexecute.mono (by decide))
  | @goesOn a resumption result hstatus hresult =>
    have hdrop : Modifies workFields r { r with agenda := r.agenda.dropTimers (r.taskId i) } := by
      intro f hf
      cases f <;> first | rfl | simp [workFields] at hf
    have hawake : Modifies workFields r (r.awake i a) := hdrop.trans ((modifies_endWait _ a).mono (by decide))
    exact hawake.trans (((r.awake i a).modifies_proceed s result resumption).mono (by decide))

end Run

end FieldStudy
