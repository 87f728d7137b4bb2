import Mathlib.Data.List.Basic
import Mathlib.Tactic.Common
import FieldStudy.Proofs.Run.ExecutionPoint

/-!
# Taking turns

A task goes on from node to node without giving way, so that the host acts only where no task is on its way to another
node, and tasks that are about to enter a point do so in the order in which they were begun (`Run.InTurn`).  An ensemble
lets its tasks run in this order (`Ensemble.driven_in_turn`).  So a task that has been given up has gone when its
successor takes its first step, and whenever a run is resumed the execution point is the place of its walk
(`Run.InTurn.keepsPlace`).
-/

namespace FieldStudy

namespace Run

variable {r r' : Run} {s : Setup} {i : Nat} {t : Task} {p : Point} {busy : Bool}

/-! ## The order of moves -/

/-- What may be done next.  `busy` says that a task has come to another node, and that it is to go on at once.  Other runs
keep their hands off the files of this one, and a new run is another matter. -/
def IsDue (busy : Bool) (r : Run) : Move → Prop
  | .step i => (busy = true → (r.nextPoint? i).isSome = true) ∧ ∀ j < i, r.nextPoint? j = none
  | .others shared => shared.files.bare = r.files.bare
  | .start => busy = false ∧ r.state ≠ .stopped
  | _ => busy = false

/-- Whether somebody is to go on at once: the task that has taken a step, if it has come to another node. -/
def busyAfter (s : Setup) (busy : Bool) (r : Run) : Move → Bool
  | .step i => ((r.after s (.step i)).nextPoint? i).isSome
  | .others _ => busy
  | _ => false

def busyAfterAll (s : Setup) : Bool → Run → List Move → Bool
  | busy, _, [] => busy
  | busy, r, m :: rest => busyAfterAll s (r.busyAfter s busy m) (r.after s m) rest

/-- Every move is made when it is its turn. -/
def InTurn (s : Setup) : Bool → Run → List Move → Prop
  | _, _, [] => True
  | busy, r, m :: rest => r.IsDue busy m ∧ InTurn s (r.busyAfter s busy m) (r.after s m) rest

lemma inTurn_snoc (moves : List Move) (m : Move) :
    r.InTurn s busy (moves ++ [m]) ↔
      r.InTurn s busy moves ∧ (r.afterAll s moves).IsDue (r.busyAfterAll s busy moves) m := by
  induction moves generalizing r busy with
  | nil => simp [InTurn, busyAfterAll]
  | cons m' rest ih => rw [List.cons_append, InTurn, InTurn, ih, afterAll_cons, busyAfterAll, and_assoc]

lemma busyAfterAll_snoc (moves : List Move) (m : Move) :
    r.busyAfterAll s busy (moves ++ [m]) = (r.afterAll s moves).busyAfter s (r.busyAfterAll s busy moves) m := by
  induction moves generalizing r busy with
  | nil => rfl
  | cons m' rest ih => exact ih

/-! ## Who stands in line -/

/-- Whoever stands in line is about to enter the place of the walk, which is the execution point as well; or, if
somebody is to go on at once, it is the task that may. -/
structure Lined (s : Setup) (p : Point) (busy : Bool) (r : Run) : Prop where
  free : busy = false → r.point.getD ⟨s.entry, none⟩ = p ∧ ∀ i next, r.nextPoint? i = some next → next = p
  held : busy = true → ∀ (i : Nat) (t : Task) (next : Point),
    r.tasks[i]? = some t → t.status = .entering next → r.isLive t.token = true

lemma nextPoint?_congr (h : r'.tasks = r.tasks) (i : Nat) : r'.nextPoint? i = r.nextPoint? i := by
  rw [nextPoint?, nextPoint?, h]

/-- What the host does between two turns. -/
lemma Lined.unmoved (h : r.Lined s p busy) (hfree : busy = false) (htasks : r'.tasks = r.tasks)
    (hpoint : r'.point = r.point) : r'.Lined s p false where
  free _ := by
    obtain ⟨hp, hline⟩ := h.free hfree
    exact ⟨hpoint ▸ hp, fun i next hnext => hline i next (nextPoint?_congr htasks i ▸ hnext)⟩
  held hbusy := absurd hbusy Bool.false_ne_true

/-- Whoever is added to the line is about to enter the place of the walk. -/
lemma Lined.resume (h : r.Lined s p busy) (hfree : busy = false) : (r.resume s).Lined s p false := by
  by_cases hpaused : r.state = .paused
  · obtain ⟨-, t, htasks, hstatus⟩ := resumed (s := s) hpaused
    obtain ⟨hp, hline⟩ := h.free hfree
    have hpoint : (r.resume s).point = r.point := r.modifies_resume s .point (by decide)
    refine ⟨fun _ => ⟨hpoint ▸ hp, fun i next hnext => ?_⟩, fun hbusy => absurd hbusy Bool.false_ne_true⟩
    obtain ⟨u, hu, hentering⟩ := nextPoint?_eq_some_iff.mp hnext
    rw [htasks] at hu
    obtain hold | hnew := Nat.lt_or_ge i r.tasks.length
    · rw [List.getElem?_append_left hold] at hu
      exact hline i next (nextPoint?_eq_some_iff.mpr ⟨u, hu, hentering⟩)
    · obtain rfl : t = u := by
        have hlength := (List.getElem?_eq_some_iff.mp hu).1
        rw [List.length_append, List.length_singleton] at hlength
        obtain rfl : i = r.tasks.length := by omega
        rwa [List.getElem?_concat_length, Option.some.injEq] at hu
      rw [hstatus] at hentering
      exact (TaskStatus.entering.inj hentering).symm.trans hp
  · rw [Run.resume, if_pos hpaused]
    exact h.unmoved hfree rfl rfl

/-- A step changes nothing about who else stands in line. -/
lemma nextPoint?_step_of_ne (hforks : s.definition.ForkFree) {j : Nat} (hj : j ≠ i) :
    (r.after s (.step i)).nextPoint? j = r.nextPoint? j := by
  have hlength := length_after_le (r := r) hforks (m := .step i) (by simp) (by simp)
  cases ht : r.tasks[j]? with
  | none =>
    have hnone : (r.after s (.step i)).tasks[j]? = none :=
      List.getElem?_eq_none (hlength.trans (List.getElem?_eq_none_iff.mp ht))
    rw [nextPoint?, nextPoint?, ht, hnone]
  | some u =>
    have hsame : (r.after s (.step i)).tasks[j]? = some u := task_after ht fun h => hj (Move.step.inj h.1).symm
    rw [nextPoint?, nextPoint?, ht, hsame]

lemma point_step (r : Run) (s : Setup) (i : Nat) :
    (r.after s (.step i)).point = (r.nextPoint? i).or r.point := by
  rw [point_after (by simp), entered?, nextPoint?]
  cases r.tasks[i]? with
  | none => rfl
  | some t => cases hstatus : t.status <;> simp [hstatus]

/-- A task that waits after a step is still at its point. -/
lemma point?_of_waits {u : Task} {next : Point} {a : Await} {resumption : Resumption} (ht : r.tasks[i]? = some t)
    (hu : (r.after s (.step i)).tasks[i]? = some u) (hstatus : u.status = .waiting next a resumption) :
    t.point? = some next := by
  cases hturn : r.turn? s i with
  | none =>
    rw [after_of_turn?_none hturn] at hu
    obtain rfl := Option.some.inj (hu.symm.trans ht)
    rw [Task.point?, hstatus]
  | some turned =>
    obtain ⟨p, turn⟩ := turned
    obtain rfl := Option.some.inj (hu.symm.trans (task_step ht hturn))
    have hnext : next = p := by
      cases turn with
      | acted node o =>
        cases o with
        | done code => cases hcode : node.successor? code <;> simp [Turn.status, hcode] at hstatus
        | fails e => simp [Turn.status] at hstatus
        | waits b resumption' => exact (TaskStatus.waiting.inj hstatus).1.symm
      | _ => simp [Turn.status] at hstatus
    rw [hnext, Task.point?]
    cases hbefore : t.status with
    | entering p' =>
      rw [turn?_entering s ht hbefore] at hturn
      rw [(Prod.mk.inj (Option.some.inj hturn)).1]
    | waiting p' b resumption' =>
      rw [turn?_waiting s ht hbefore] at hturn
      obtain ⟨_, -, hmap⟩ := Option.map_eq_some_iff.mp hturn
      rw [(Prod.mk.inj hmap).1]
    | ended =>
      rw [turn?_ended s ht hbefore] at hturn
      cases hturn

/-- A step of the task that may go on, in turn. -/
lemma Lined.goesOn (hforks : s.definition.ForkFree) (htame : r.Tame) {c c' : Run} {answers answers' : List Answer}
    (h : r.Lined s p busy) (hunder : UnderWay s c p answers r) (hdue : r.IsDue busy (.step i))
    (ht : r.tasks[i]? = some t) (hlive : r.isLive t.token = true)
    (hunder' : UnderWay s c' ((r.after s (.step i)).place p) answers' (r.after s (.step i))) :
    (r.after s (.step i)).Lined s ((r.after s (.step i)).place p) (r.busyAfter s busy (.step i)) := by
  obtain ⟨hgo, hbefore⟩ := hdue
  obtain ⟨hlast, -⟩ := htame.last ht hlive
  have hrunning' : (r.after s (.step i)).state = .running :=
    (r.settles_after s (m := .step i) (by simp) (by simp) (by simp)).elim
      (fun hsame => (congrArg Prod.fst hsame).trans (of_isLive hlive).1)
      fun hsettled => absurd hsettled.state hunder'.state
  obtain ⟨j, u, hu, hj, hopen, hstands⟩ := hunder'.walker hrunning'
  obtain ⟨status, hsame⟩ := (r.course_after s (.step i)).grows.task ht
  have hi := (List.getElem?_eq_some_iff.mp hsame).1
  have hlength := length_after_le (r := r) hforks (m := .step i) (by simp) (by simp)
  obtain rfl : j = i := by
    have : i < (r.after s (.step i)).tasks.length := hi
    omega
  have hlive' : (r.after s (.step j)).isLive u.token = true := by simp [isLive, hrunning', hopen]
  -- Nobody else stands in line.
  have hother (k : Nat) (hk : k ≠ j) : (r.after s (.step j)).nextPoint? k = none := by
    rw [nextPoint?_step_of_ne hforks hk]
    obtain hlt | hgt := Nat.lt_or_gt_of_ne hk
    · exact hbefore k hlt
    · rw [nextPoint?, List.getElem?_eq_none (by omega), Option.bind_none]
  refine ⟨fun hfree => ?_, fun _ k v next hv hentering => ?_⟩
  · have hnone : (r.after s (.step j)).nextPoint? j = none := by simpa [busyAfter] using hfree
    refine ⟨?_, fun k next hnext => ?_⟩
    · have hstill : (r.after s (.step j)).place p = p := by
        rw [place_of_last hu hj hlive', Task.point?]
        cases hstatus : u.status with
        | entering next =>
          rw [nextPoint?_eq_some_iff.mpr ⟨u, hu, hstatus⟩] at hnone
          cases hnone
        | waiting next a resumption => exact hunder.point htame ht hlive (point?_of_waits ht hu hstatus)
        | ended => rfl
      rw [hstill, point_step]
      cases hnext : r.nextPoint? j with
      | some next =>
        obtain ⟨v, hv, hstatus⟩ := nextPoint?_eq_some_iff.mp hnext
        obtain rfl := Option.some.inj (hv.symm.trans ht)
        show next = p
        exact hunder.point htame ht hlive (by rw [Task.point?, hstatus])
      | none =>
        refine (h.free ?_).1
        by_contra hbusy
        simp [hnext] at hgo
        exact hbusy hgo
    · by_cases hk : k = j
      · rw [hk, hnone] at hnext
        cases hnext
      · rw [hother k hk] at hnext
        cases hnext
  · have hkj : k = j := by
      by_contra hk
      have hnone := hother k hk
      rw [nextPoint?_eq_some_iff.mpr ⟨v, hv, hentering⟩] at hnone
      cases hnone
    subst hkj
    obtain rfl := Option.some.inj (hv.symm.trans hu)
    exact hlive'

/-- Whoever has been given up is out of line once it has taken its step. -/
lemma nextPoint?_of_idle (htame : r.Tame) (ht : r.tasks[i]? = some t) (hidle : r.isLive t.token = false) :
    (r.after s (.step i)).nextPoint? i = none := by
  rw [after]
  cases hstep : r.step? s i with
  | none =>
    rw [Option.getD_none]
    by_contra hnext
    obtain ⟨next, hnext⟩ := Option.ne_none_iff_exists'.mp hnext
    obtain ⟨u, hu, hstatus⟩ := nextPoint?_eq_some_iff.mp hnext
    rw [step?_entering s hu hstatus] at hstep
    cases hstep
  | some r' =>
    have hfrozen := frozen_step ht (htame.cancelled_of_idle ht hidle) hstep
    rw [Option.getD_some, nextPoint?, hfrozen.tasks, List.getElem?_modify_eq, ht]
    rfl

/-- A step of a task that has been given up, in turn. -/
lemma Lined.leaves (hforks : s.definition.ForkFree) (htame : r.Tame) (h : r.Lined s p busy)
    (hdue : r.IsDue busy (.step i)) (ht : r.tasks[i]? = some t) (hidle : r.isLive t.token = false) :
    (r.after s (.step i)).Lined s p (r.busyAfter s busy (.step i)) := by
  have hnone := nextPoint?_of_idle (s := s) htame ht hidle
  have hfree : busy = false := by
    by_contra hbusy
    obtain ⟨next, hnext⟩ := Option.isSome_iff_exists.mp (hdue.1 (by simpa using hbusy))
    obtain ⟨u, hu, hstatus⟩ := nextPoint?_eq_some_iff.mp hnext
    obtain rfl := Option.some.inj (hu.symm.trans ht)
    rw [h.held (by simpa using hbusy) i u next hu hstatus] at hidle
    cases hidle
  obtain ⟨hp, hline⟩ := h.free hfree
  have hbusy : r.busyAfter s busy (.step i) = false := by rw [busyAfter, hnone, Option.isSome_none]
  rw [hbusy]
  refine ⟨fun _ => ⟨?_, fun k next hnext => ?_⟩, fun h => absurd h Bool.false_ne_true⟩
  · rw [point_step]
    cases hnext : r.nextPoint? i with
    | some next => exact hline i next hnext
    | none => exact hp
  · by_cases hk : k = i
    · rw [hk, hnone] at hnext
      cases hnext
    · rw [nextPoint?_step_of_ne hforks hk] at hnext
      exact hline k next hnext

/-- One move in turn. -/
lemma Lined.after (hforks : s.definition.ForkFree) (htame : r.Tame) {c : Run} {answers : List Answer}
    (h : r.Lined s p busy) (hunder : UnderWay s c p answers r) {m : Move}
    (hdue : r.IsDue busy m) (hpermits : r.Permits s p m) (hstate : (r.after s m).state ≠ .stopped) {c' : Run}
    {answers' : List Answer} (hunder' : UnderWay s c' ((r.after s m).place p) answers' (r.after s m)) :
    (r.after s m).Lined s ((r.after s m).place p) (r.busyAfter s busy m) := by
  by_cases hstep : ∃ i, m = .step i
  · obtain ⟨i, rfl⟩ := hstep
    cases ht : r.tasks[i]? with
    | none =>
      have hnone : r.nextPoint? i = none := by rw [nextPoint?, ht, Option.bind_none]
      have hfree : busy = false := by
        by_contra hbusy
        simpa [hnone] using hdue.1 (by simpa using hbusy)
      rw [busyAfter, after_of_turn?_none (by rw [turn?, ht, Option.bind_none]), hnone, hunder.place]
      exact h.unmoved hfree rfl rfl
    | some t =>
      cases hlive : r.isLive t.token with
      | true => exact h.goesOn hforks htame hunder hdue ht hlive hunder'
      | false =>
        rw [(hunder.leaves htame ht hlive).place]
        exact h.leaves hforks htame hdue ht hlive
  · have hplace := (hunder.stays htame hpermits (fun i hi => hstep ⟨i, hi⟩) fun error herror => hstate (by
      rw [herror]
      exact r.state_stop s error)).place
    rw [hplace]
    cases m with
    | step i => exact absurd ⟨i, rfl⟩ hstep
    | start =>
      rw [Run.after, start, if_pos hunder.state]
      exact h.unmoved hdue.1 rfl rfl
    | pause =>
      have hmodifies := r.modifies_pause s
      exact h.unmoved hdue (hmodifies .tasks (by decide)) (hmodifies .point (by decide))
    | resume => exact h.resume hdue
    | stop error => exact absurd (r.state_stop s error) hstate
    | answer id a =>
      have hmodifies := r.modifies_answer id a
      exact h.unmoved hdue (hmodifies .tasks (by decide)) (hmodifies .point (by decide))
    | sample role sensor timestamp values =>
      have hmodifies := r.modifies_sample role sensor timestamp values
      exact h.unmoved hdue (hmodifies .tasks (by decide)) (hmodifies .point (by decide))
    | others shared => exact ⟨h.free, h.held⟩

lemma IsDue.permits {m : Move} (h : r.state ≠ .stopped → r.Lined s p busy) (hdue : r.IsDue busy m) :
    r.Permits s p m := by
  cases m with
  | resume => exact fun hpaused => ((h (by simp [hpaused])).free hdue).1
  | others shared => exact hdue
  | start => exact hdue.2
  | _ => trivial

/-- A run that has been stopped stays so. -/
lemma IsDue.stopped {m : Move} (hdue : r.IsDue busy m) (hstopped : r.state = .stopped) :
    (r.after s m).state = .stopped := by
  refine state_after_of_stopped s hstopped ?_
  rintro rfl
  exact hdue.2 hstopped

/-- A run whose moves are made in turn keeps its place. -/
theorem InTurn.keepsPlace (hforks : s.definition.ForkFree) (hbackend : s.backend.Plain) (htame : r.Tame) {c₀ : Run}
    {p₀ : Point} {T : Tally} (hstage : Stage s c₀ p₀ T p r) (hlined : r.state ≠ .stopped → r.Lined s p busy)
    {moves : List Move} (hmoves : r.InTurn s busy moves) : r.KeepsPlace s p moves := by
  induction moves generalizing r p busy T with
  | nil => trivial
  | cons m rest ih =>
    obtain ⟨hdue, hrest⟩ := hmoves
    have hpermits := hdue.permits hlined
    have hstage' := hstage.after hforks hbackend htame hpermits
    refine ⟨hpermits, ih (htame.after hforks hbackend m) hstage' (fun hstate => ?_) hrest⟩
    cases hstage with
    | stopped _ hstopped => exact absurd (hdue.stopped hstopped) hstate
    | underWay _ hunder =>
      cases hstage' with
      | stopped _ hstopped => exact absurd hstopped hstate
      | underWay _ hunder' => exact (hlined hunder.state).after hforks htame hunder hdue hpermits hstate hunder'

/-- A run that is begun where there has been none before, and whose moves are made in turn, keeps its place. -/
theorem keepsPlace_of_inTurn (hforks : s.definition.ForkFree) (hbackend : s.backend.Plain) (x : Ensemble)
    (hbegins : (x.newRun s).begins s .start = true) {moves : List Move}
    (hmoves : ((x.newRun s).after s .start).InTurn s false moves) :
    ((x.newRun s).after s .start).KeepsPlace s ⟨s.entry, none⟩ moves := by
  have htame := tame_afterAll hforks hbackend x []
  obtain ⟨-, hboard, -⟩ := begun htame hbegins
  have htasks : ((x.newRun s).after s .start).tasks = [⟨mainBranch, _, _, .entering ⟨s.entry, none⟩⟩] :=
    congrArg Board.tasks hboard
  have hpoint : ((x.newRun s).after s .start).point = none := point_start_of_stopped rfl
  have hlined : ((x.newRun s).after s .start).Lined s ⟨s.entry, none⟩ false := by
    refine ⟨fun _ => ⟨by rw [hpoint, Option.getD_none], fun i next hnext => ?_⟩,
      fun hbusy => absurd hbusy Bool.false_ne_true⟩
    obtain ⟨t, ht, hstatus⟩ := nextPoint?_eq_some_iff.mp hnext
    rw [htasks] at ht
    obtain rfl := List.mem_singleton.mp (List.mem_of_getElem? ht)
    exact (TaskStatus.entering.inj hstatus).symm
  exact InTurn.keepsPlace hforks hbackend (tame_afterAll hforks hbackend x [.start]) (stage_begins htame hbegins)
    (fun _ => hlined) hmoves

end Run

end FieldStudy
