import Mathlib.Data.List.Induction
import Mathlib.Tactic.Common
import FieldStudy.Proofs.Run.Interruptions
import FieldStudy.Proofs.Run.Answers

/-!
# The execution point

The point of a run is the one that any task entered last since the run was started, whether or not the task may
still go on (`Run.point_after`).  A task whose epoch ends while it is about to enter a point moves the point there
with the step that ends it, in whatever epoch that comes; a task that waits by then does not
(`Run.stale_afterAll`).  So within an epoch the point is that of its own tasks as long as no task of an earlier one
was about to enter a point when it began (`Run.execution_point_of_epoch`).
-/

namespace FieldStudy.Run

variable {r r' q : Run} {s : Setup} {i : Nat} {t : Task}

/-! ## What moves the point -/

/-- The point that a move enters, with the token of the task that does. -/
def entered? (r : Run) : Move → Option (Nat × Point)
  | .step i =>
    r.tasks[i]?.bind fun t =>
      match t.status with
      | .entering p => some (t.token, p)
      | _ => none
  | _ => none

lemma entered?_step_iff {token : Nat} {p : Point} :
    r.entered? (.step i) = some (token, p) ↔
      ∃ t, r.tasks[i]? = some t ∧ t.token = token ∧ t.status = .entering p := by
  rw [entered?, Option.bind_eq_some_iff]
  refine exists_congr fun t => and_congr_right fun _ => ?_
  cases t.status <;> simp

lemma point_execute (r : Run) (s : Setup) (v : Visit) (a : Action) : (r.execute s v a).2.point = r.point := by
  by_cases hfork : ∃ branch, a = .fork branch
  · obtain ⟨branch, rfl⟩ := hfork
    show (r.fork v branch).2.point = r.point
    rw [fork]
    split <;> rfl
  · by_cases habort : ∃ info, a = .abort info
    · obtain ⟨info, rfl⟩ := habort
      exact modifies_stop (r.updateMetadata _) s _ .point (by decide)
    · exact r.modifies_execute s v (fun branch h => hfork ⟨branch, h⟩) (fun info h => habort ⟨info, h⟩)
        .point (by decide)

lemma point_finishBranch (r : Run) (s : Setup) (t : Task) : (r.finishBranch s t).point = r.point := by
  have hresolve : (r.resolve t.done 0).point = r.point := r.modifies_resolve t.done 0 .point (by decide)
  rw [finishBranch]
  split
  · exact (modifies_stop _ s none .point (by decide)).trans hresolve
  · exact hresolve

lemma point_failBranch (r : Run) (s : Setup) (t : Task) (e : ScenarioError) :
    (r.failBranch s t e).point = r.point := by
  have hresolve : (r.resolve t.done 0).point = r.point := r.modifies_resolve t.done 0 .point (by decide)
  cases e with
  | cancelled => rfl
  | _ => exact (modifies_stop _ s _ .point (by decide)).trans hresolve

lemma point_close (r : Run) (s : Setup) (i : Nat) (t : Task) (p : Point) (turn : Turn) :
    (r.close s i t p turn).point = r.point := by
  cases turn with
  | dropped => rfl
  | lost => exact r.point_finishBranch s t
  | ownJoin => exact r.modifies_resolve t.done 0 .point (by decide)
  | acted node outcome =>
    cases outcome with
    | done code =>
      rw [close, follow]
      split
      · rfl
      · exact r.point_finishBranch s t
    | fails e => exact r.point_failBranch s t e
    | waits a resumption =>
      rw [close, follow, suspend]
      split <;> rfl

/-- The work of a step moves the point if the task enters one. -/
lemma Worked.point {p : Point} {turn : Turn} (h : r.Worked s i t p turn q) (ht : r.tasks[i]? = some t) :
    q.point = ((r.entered? (.step i)).map (·.2)).or r.point := by
  have hentered (hstatus : t.status = .entering p) : r.entered? (.step i) = some (t.token, p) :=
    entered?_step_iff.mpr ⟨t, ht, rfl, hstatus⟩
  cases h with
  | enters hstatus => rw [hentered hstatus]; rfl
  | takes hstatus => rw [hentered hstatus]; exact point_execute _ s _ _
  | @goesOn a resumption result hstatus =>
    have hnone : r.entered? (.step i) = none := by simp [entered?, ht, hstatus]
    rw [hnone]
    exact (modifies_proceed _ s result resumption .point (by decide)).trans
      (r.modifies_awake i a .point (by decide))

/-- A new start takes the point away, even if the folder cannot be made. -/
lemma point_start_of_stopped (hstopped : r.state = .stopped) : (r.start s).2.point = none := by
  obtain ⟨q, hq, hstart⟩ := start_of_stopped s hstopped
  have hpoint : q.point = none := hq .point (by decide)
  obtain ⟨e, hstart⟩ | hstart := hstart
  · rw [hstart]
    exact (q.modifies_cancel .point (by decide)).trans hpoint
  · rw [hstart]
    exact hpoint

/-- Any move but a new start leaves the point alone, or a task enters one by it. -/
theorem point_after {m : Move} (hm : m = .start → r.state ≠ .stopped) :
    (r.after s m).point = ((r.entered? m).map (·.2)).or r.point := by
  cases m with
  | start => rw [after, start, if_pos (hm rfl)]; rfl
  | pause => exact r.modifies_pause s .point (by decide)
  | resume => exact r.modifies_resume s .point (by decide)
  | stop error => exact r.modifies_stop s error .point (by decide)
  | answer id a => exact r.modifies_answer id a .point (by decide)
  | sample role sensor timestamp values => exact r.modifies_sample role sensor timestamp values .point (by decide)
  | others shared => rfl
  | step i =>
    rw [after]
    cases hstep : r.step? s i with
    | some r' =>
      obtain ⟨t, p, turn, q, ht, -, hworked, rfl⟩ := step_cases hstep
      exact (q.point_close s i t p turn).trans (hworked.point ht)
    | none =>
      have hnone : r.entered? (.step i) = none := by
        refine Option.eq_none_iff_forall_ne_some.mpr ?_
        rintro ⟨token, p⟩ hentered
        obtain ⟨t, ht, -, hstatus⟩ := entered?_step_iff.mp hentered
        rw [step?_entering s ht hstatus] at hstep
        cases hstep
      rw [hnone]
      rfl

/-! ## Tasks whose epoch has ended -/

/-- A task whose epoch has ended stays as it is until the step that ends it. -/
lemma stale_afterAll (ht : r.tasks[i]? = some t) (hcancelled : r.isCancelled t.token = true) (moves : List Move) :
    (r.afterAll s moves).tasks[i]? = some t ∨ (r.afterAll s moves).tasks[i]? = some { t with status := .ended } := by
  refine kept_or_ended ht (fun before hbefore hstep => ?_) moves
  have hstill := isCancelled_of_grows (r.course_afterAll s before).grows hcancelled
  obtain ⟨q, hq⟩ := Option.isSome_iff_exists.mp hstep
  rw [after, hq, Option.getD_some, (frozen_step hbefore hstill hq).tasks, List.getElem?_modify, hbefore]
  simp

/-! ## Points entered within an epoch -/

/-- The points that tasks enter along some moves, with their tokens. -/
def entries (s : Setup) : Run → List Move → List (Nat × Point) := along (fun r m => (r.entered? m).toList) s

/-- As long as the run is not started anew, its point is the last one that was entered. -/
lemma point_afterAll {moves : List Move} (hrunning : r.state = .running) (hhalts : ¬ r.Happens s (Halts s) moves) :
    (r.afterAll s moves).point = ((r.entries s moves).getLast?.map (·.2)).or r.point := by
  induction moves using List.reverseRecOn with
  | nil => rfl
  | append_singleton moves m ih =>
    obtain ⟨hmoves, -⟩ := not_or.mp (happens_snoc moves m |>.not.mp hhalts)
    have hstate := (running_afterAll hrunning hmoves).1
    have hpoint := ih hmoves
    rw [entries, along_snoc, ← entries, afterAll_snoc]
    generalize r.afterAll s moves = q at hstate hpoint ⊢
    rw [point_after fun _ => by simp [hstate]]
    cases hentered : q.entered? m with
    | none => simpa using hpoint
    | some e => simp

/-- Whoever is about to enter a point belongs to the current epoch. -/
def Calm (r : Run) : Prop := ∀ m token p, r.entered? m = some (token, p) → token = r.token

lemma calm_iff (hsound : r.course.Sound) (hrunning : r.state = .running) :
    r.Calm ↔ ∀ t ∈ r.tasks, r.isCancelled t.token = true → ∀ p, t.status ≠ .entering p := by
  constructor
  · intro hcalm t ht hcancelled p hstatus
    obtain ⟨i, hi⟩ := List.mem_iff_getElem?.mp ht
    have htoken := hcalm (.step i) t.token p (entered?_step_iff.mpr ⟨t, hi, rfl, hstatus⟩)
    have hcurrent : r.token ∈ r.cancelled := by simpa [isCancelled, htoken] using hcancelled
    exact hsound.current hrunning hcurrent
  · intro h m token p hentered
    cases m with
    | step i =>
      obtain ⟨t, ht, rfl, hstatus⟩ := entered?_step_iff.mp hentered
      have hmem := List.mem_of_getElem? ht
      have hlive : r.isCancelled t.token = false := by
        by_contra hcancelled
        exact h t hmem (by simpa using hcancelled) p hstatus
      exact (current_of_live hsound hmem hlive).2
    | _ => cases hentered

/-- A move within an epoch lets only tasks of that epoch go on to other points, and adds no others. -/
lemma Calm.after (hcalm : r.Calm) (hsound : r.course.Sound) (hrunning : r.state = .running) (m : Move) :
    (r.after s m).Calm := by
  intro m' token p hentered
  cases m' with
  | step i =>
    obtain ⟨u, hu, rfl, hstatus⟩ := entered?_step_iff.mp hentered
    rw [token_after hrunning]
    by_cases hi : i < r.tasks.length
    · obtain ⟨t, ht⟩ : ∃ t, r.tasks[i]? = some t := ⟨_, List.getElem?_eq_getElem hi⟩
      obtain ⟨status, hsame⟩ := (r.course_after s m).grows.task ht
      obtain rfl : { t with status } = u := Option.some.inj (hsame.symm.trans hu)
      cases hcancelled : r.isCancelled t.token with
      | false => exact (current_of_live hsound (List.mem_of_getElem? ht) hcancelled).2
      | true =>
        obtain hstay | hended := stale_afterAll (s := s) ht hcancelled [m]
        · have hkept : t.status = status := congrArg Task.status (Option.some.inj (hstay.symm.trans hu))
          exact hcalm (.step i) t.token p (entered?_step_iff.mpr ⟨t, ht, rfl, hkept.trans hstatus⟩)
        · obtain rfl : TaskStatus.ended = status :=
            congrArg Task.status (Option.some.inj (hended.symm.trans hu))
          cases hstatus
    · have hlast : i = r.tasks.length := by
        have hlength := (r.adds_after s m).length
        have hlt := (List.getElem?_eq_some_iff.mp hu).1
        omega
      subst hlast
      cases (r.adds_after s m).origin u hu with
      | starts hstopped => rw [hrunning] at hstopped; cases hstopped
      | resumes hpaused => rw [hrunning] at hpaused; cases hpaused
      | @forks j parent p node branch entry hparent hparentStatus hnode htaken hentry =>
        exact hcalm (.step j) parent.token p (entered?_step_iff.mpr ⟨parent, hparent, rfl, hparentStatus⟩)
  | _ => cases hentered

lemma calm_afterAll {moves : List Move} (hcalm : r.Calm) (hsound : r.course.Sound) (hrunning : r.state = .running)
    (hhalts : ¬ r.Happens s (Halts s) moves) : ∀ e ∈ r.entries s moves, e.1 = r.token := by
  induction moves generalizing r with
  | nil => exact fun _ h => absurd h List.not_mem_nil
  | cons m rest ih =>
    obtain ⟨hfirst, hrest⟩ := not_or.mp hhalts
    have hstill := running_after hrunning hfirst
    rintro ⟨token, p⟩ he
    obtain he | he := List.mem_append.mp he
    · exact hcalm m token p (by simpa using he)
    · rw [← token_after (s := s) hrunning m]
      exact ih (hcalm.after hsound hrunning m) (hsound.leads (r.course_after s m)) hstill hrest _ he

/-! ## The point of an epoch -/

/-- A task whose epoch has ended moves the point exactly if it was about to enter one by then, once, and whenever its
last step comes.  A new start takes the point away.  While an epoch goes on, the point is the last one that was
entered, or else that with which the epoch began, and there the main branch goes on when the run is paused and resumed;
once no task of an earlier epoch is about to enter a point, only the tasks of the current one do. -/
theorem execution_point_of_epoch (x : Ensemble) (s : Setup) (moves : List Move) :
    let r := (x.newRun s).afterAll s moves
    (∀ i t, r.tasks[i]? = some t → r.isCancelled t.token = true → ∀ later, let q := r.afterAll s later
      ∀ q', q.step? s i = some q' →
        q'.tasks[i]? = some { t with status := .ended } ∧ q'.point = (r.nextPoint? i).or q.point) ∧
    (r.state = .stopped → (r.after s .start).point = none) ∧
    (r.state = .running → ∀ later, ¬ r.Happens s (Halts s) later → let q := r.afterAll s later
      q.point = ((r.entries s later).getLast?.map (·.2)).or r.point ∧
      ((∀ t ∈ r.tasks, r.isCancelled t.token = true → ∀ p, t.status ≠ .entering p) →
        ∀ e ∈ r.entries s later, e.1 = r.token) ∧
      ∃ t, ((q.pause s).resume s).tasks = q.tasks ++ [t] ∧ t.branch = mainBranch ∧
        t.status = .entering (q.point.getD ⟨s.entry, none⟩)) := by
  intro r
  have hsound : r.course.Sound := sound_afterAll x s moves
  refine ⟨fun i t ht hcancelled later => ?_, point_start_of_stopped, fun hrunning later hhalts => ?_⟩
  · intro q q' hstep
    have hstill : q.isCancelled t.token = true :=
      isCancelled_of_grows (r.course_afterAll s later).grows hcancelled
    obtain hq | hq := stale_afterAll (s := s) ht hcancelled later
    · have hfrozen := frozen_step hq hstill hstep
      have hpoint := point_after (r := q) (s := s) (m := .step i) nofun
      rw [Run.after, hstep, Option.getD_some] at hpoint
      refine ⟨by rw [hfrozen.tasks, List.getElem?_modify, hq]; simp, ?_⟩
      rw [hpoint, entered?, hq, nextPoint?, ht]
      cases hstatus : t.status <;> simp [hstatus]
    · rw [step?_ended s hq rfl] at hstep
      cases hstep
  · intro q
    have hq : q.state = .running := (running_afterAll hrunning hhalts).1
    refine ⟨point_afterAll hrunning hhalts,
      fun hnone => calm_afterAll ((calm_iff hsound hrunning).mpr hnone) hsound hrunning hhalts, ?_⟩
    have hpaused : (q.pause s).state = .paused := congrArg Prod.fst (verdict_pause s hq)
    obtain ⟨-, t, htasks, hstatus⟩ := resumed (s := s) hpaused
    have hkept : (q.pause s).tasks = q.tasks := q.modifies_pause s .tasks (by decide)
    have hpoint : (q.pause s).point = q.point := q.modifies_pause s .point (by decide)
    rw [hkept] at htasks
    rw [hpoint] at hstatus
    refine ⟨t, htasks, ?_, hstatus⟩
    have horigin := ((q.pause s).adds_after s .resume).origin t (by
      rw [Run.after, htasks, hkept, List.getElem?_concat_length])
    cases horigin with
    | resumes => rfl

/-- A branch that the pause has cut off before its first step, and one that it has found waiting. -/
theorem execution_point_of_epoch_forked :
    let nodes : Dict Node :=
      [("a", { Node.ofPrimitive .fork with
          arguments := .obj [("branch_name", .str "B")], next := [some "b", some "c"] }),
        ("b", Node.ofPrimitive .waitNext), ("c", Node.ofPrimitive .waitNext)]
    let s : Setup := { definition := { scenarioId := 1, content := { entry := "a", nodes } }, folder := [] }
    let x : Ensemble := { files := {} }
    let cut := (x.newRun s).afterAll s [.start, .step 0, .step 0, .pause, .resume]
    let calm := (x.newRun s).afterAll s [.start, .step 0, .step 1, .step 0, .pause, .resume]
    (∀ q', (cut.afterAll s [.step 2]).step? s 1 = some q' → q'.point = some ⟨"c", none⟩) ∧
      (∀ e ∈ calm.entries s [.step 2, .step 1], e.1 = calm.token) ∧
      ∃ t, (((calm.afterAll s [.step 2, .step 1]).pause s).resume s).tasks[3]? = some t ∧
        t.status = .entering ⟨"b", some 0⟩ := by
  intro nodes s x cut calm
  have hcut := (execution_point_of_epoch x s [.start, .step 0, .step 0, .pause, .resume]).1
  have hcalm := (execution_point_of_epoch x s [.start, .step 0, .step 1, .step 0, .pause, .resume]).2.2
  refine ⟨fun q' hstep => ?_, ?_⟩
  · have hcancelled : cut.tasks[1]?.any (fun t => cut.isCancelled t.token) = true := by decide +kernel
    obtain ⟨t, ht, hcancelled⟩ := (Option.any_eq_true _ _).mp hcancelled
    have hnext : cut.nextPoint? 1 = some ⟨"c", none⟩ := by decide +kernel
    rw [(hcut 1 t ht hcancelled [.step 2] q' hstep).2, show (cut.nextPoint? 1) = _ from hnext]
    rfl
  · have hhalts : ¬ calm.Happens s (Halts s) [.step 2, .step 1] := by
      rintro (⟨-, h⟩ | ⟨-, h⟩ | h)
      · exact h (by decide +kernel)
      · exact h (by decide +kernel)
      · exact h
    obtain ⟨hpoint, hentries, t, htasks, -, hstatus⟩ := hcalm (by decide +kernel) [.step 2, .step 1] hhalts
    refine ⟨hentries fun t ht hcancelled p hstatus => ?_, t, ?_, ?_⟩
    · obtain ⟨i, hi⟩ := List.mem_iff_getElem?.mp ht
      have hnext : calm.nextPoint? i = some p := nextPoint?_eq_some_iff.mpr ⟨t, hi, hstatus⟩
      have hnone : ∀ i < 2, calm.nextPoint? i = none := by decide +kernel
      have hlive : calm.tasks[2]?.any (fun t => calm.isCancelled t.token) = false := by decide +kernel
      have hlength : calm.tasks.length = 3 := by decide +kernel
      have hlt : i < 3 := hlength ▸ (List.getElem?_eq_some_iff.mp hi).1
      obtain hold | rfl : i < 2 ∨ i = 2 := by omega
      · rw [hnone i hold] at hnext
        cases hnext
      · rw [show calm.tasks[2]? = some t from hi, Option.any_some, hcancelled] at hlive
        cases hlive
    · rw [htasks, List.getElem?_append_right (by decide +kernel)]
      have hlast : 3 - (calm.afterAll s [.step 2, .step 1]).tasks.length = 0 := by decide +kernel
      rw [hlast]
      rfl
    · rw [hstatus]
      have hb : (calm.afterAll s [.step 2, .step 1]).point = some ⟨"b", some 0⟩ := by decide +kernel
      rw [hb]
      rfl

/-- The step of a branch that was cut off by a pause moves the point of the epoch after it, and the main branch, paused
and resumed once more, goes on at a node that it has not come to. -/
theorem stale_step_moves_point :
    let nodes : Dict Node :=
      [("a", { Node.ofPrimitive .fork with
          arguments := .obj [("branch_name", .str "B")], next := [some "b", some "c"] }),
        ("b", Node.ofPrimitive .waitNext), ("c", Node.ofPrimitive .waitNext)]
    let s : Setup := { definition := { scenarioId := 1, content := { entry := "a", nodes } }, folder := [] }
    let x : Ensemble := { files := {} }
    let r := (x.newRun s).afterAll s [.start, .step 0, .step 0, .pause, .resume, .step 2]
    r.state = .running ∧ r.tasks[1]?.any (fun t => r.isCancelled t.token) = true ∧
      r.point = some ⟨"b", some 0⟩ ∧ (r.after s (.step 1)).point = some ⟨"c", none⟩ ∧
      ((r.afterAll s [.step 1, .pause, .resume]).tasks[3]?.map (·.branch)) = some mainBranch ∧
      (r.afterAll s [.step 1, .pause, .resume]).nextPoint? 3 = some ⟨"c", none⟩ := by
  decide +kernel

end FieldStudy.Run
