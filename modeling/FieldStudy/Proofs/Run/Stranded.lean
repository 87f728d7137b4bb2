import Mathlib.Tactic.Common
import FieldStudy.Proofs.Run.Accounts
import FieldStudy.Proofs.Run.Endings

/-!
# Branches that a pause has frozen

A pause ends the epoch of all branches, and of these only the main one is ever taken up again.  Any other branch that
has not come to its end by then never does: the only task that holds its signal is cancelled
(`Run.unresolved_of_down`).  Until a branch of that name is forked again the table still knows it by that signal, so
whoever joins it waits until its own epoch ends (`Run.frozen_branch_strands_joins`).
-/

namespace FieldStudy

/-! ## The signal that a branch stays known by -/

/-- The deed takes away the signal that a branch is known by, or gives it a new one. -/
def Deed.Unnames (branch : String) : Deed → Prop
  | .fork other _ _ => other = branch
  | .clear => True
  | _ => False

namespace Board

variable {b : Board} {branch : String}

/-- Resuming renews the name of the main branch only. -/
lemma branch_after {d : Deed} (hbranch : branch ≠ Run.mainBranch) (hd : ¬ d.Unnames branch) :
    (b.after d).branches.get? branch = b.branches.get? branch := by
  cases d with
  | create name => rw [after]; split <;> rfl
  | reset name => rw [after]; split <;> rfl
  | set name => rw [after]; split <;> rfl
  | fork other token p => exact (Dict.get?_insert ..).trans (if_neg hd)
  | resume token p =>
    rw [after]
    split
    · rfl
    · exact (Dict.get?_insert ..).trans (if_neg hbranch.symm)
  | finish i => rw [after]; split <;> rfl
  | turn i status => rfl
  | clear => exact absurd trivial hd

lemma branch_afterAll {deeds : List Deed} (hbranch : branch ≠ Run.mainBranch)
    (hdeeds : ∀ d ∈ deeds, ¬ d.Unnames branch) : (b.afterAll deeds).branches.get? branch = b.branches.get? branch := by
  induction deeds generalizing b with
  | nil => rfl
  | cons d rest ih =>
    rw [afterAll_cons, ih fun e he => hdeeds e (List.mem_cons_of_mem d he)]
    exact branch_after hbranch (hdeeds d List.mem_cons_self)

end Board

namespace Run

variable {r : Run} {s : Setup} {i : Nat} {t : Task} {branch : String}

/-- The move takes a fork of a branch of this name. -/
def Forks (s : Setup) (branch : String) (r : Run) (m : Move) : Prop := r.taken? s m = some (.fork branch)

lemma forks_of_mem_actionDeeds {d : Deed} (hd : d ∈ r.actionDeeds s i) (h : d.Unnames branch) :
    r.Forks s branch (.step i) := by
  cases htaken : r.taken? s (.step i) with
  | none =>
    rw [actionDeeds_of_none htaken] at hd
    cases hd
  | some a =>
    obtain ⟨t, p, node, -, -, -, hdeeds⟩ := actionDeeds_of_taken? htaken
    rw [hdeeds] at hd
    cases a with
    | fork other =>
      obtain ⟨entry, -, rfl⟩ := List.mem_map.mp hd
      obtain rfl : other = branch := h
      exact htaken
    | event op a =>
      cases op with
      | wait => cases hd
      | waitAll => cases hd
      | _ =>
        obtain ⟨name, -, rfl⟩ := List.mem_map.mp hd
        cases h
    | _ => cases hd

/-- The name of a branch comes to another signal by a fork or a new start. -/
lemma forks_of_mem_deeds {m : Move} {d : Deed} (hd : d ∈ r.deeds s m) (h : d.Unnames branch) :
    r.Forks s branch m ∨ (m = .start ∧ r.state = .stopped) := by
  cases m with
  | start =>
    rw [deeds] at hd
    split at hd
    · next hstate => exact .inr ⟨rfl, hstate⟩
    · cases hd
  | resume =>
    rw [deeds] at hd
    split at hd
    · obtain rfl := List.mem_singleton.mp hd
      cases h
    · cases hd
  | step i =>
    rw [deeds] at hd
    split at hd
    · obtain hd | hd := List.mem_append.mp hd
      · exact .inl (forks_of_mem_actionDeeds hd h)
      · rw [Turn.deeds] at hd
        obtain hd | hd := List.mem_append.mp hd
        · split at hd
          · obtain rfl := List.mem_singleton.mp hd
            cases h
          · cases hd
        · obtain rfl := List.mem_singleton.mp hd
          cases h
    · cases hd
  | _ => cases hd

lemma branch_kept {moves : List Move} (hbranch : branch ≠ mainBranch) (honce : r.StartsOnce s moves)
    (hforks : ¬ r.Happens s (Forks s branch) moves) :
    (r.afterAll s moves).branches.get? branch = r.branches.get? branch := by
  induction moves generalizing r with
  | nil => rfl
  | cons m rest ih =>
    obtain ⟨hfork, hforks⟩ := not_or.mp hforks
    obtain ⟨hstart, honce⟩ := not_or.mp honce
    rw [afterAll_cons, ih honce hforks]
    show (r.after s m).board.branches.get? branch = r.branches.get? branch
    rw [board_after]
    exact Board.branch_afterAll hbranch fun d hd h => (forks_of_mem_deeds hd h).elim hfork hstart

/-! ## Frozen branches -/

lemma state_pause (r : Run) (s : Setup) : (r.pause s).state ≠ .running := by
  by_cases hstate : r.state = .running
  · have hpaused : (r.pause s).state = .paused := congrArg Prod.fst (verdict_pause s hstate)
    simp [hpaused]
  · rwa [pause, if_pos hstate]

lemma cancelled_of_down (hsound : r.course.Sound) (hdown : r.state ≠ .running) (ht : t ∈ r.tasks) :
    r.isCancelled t.token = true := by
  by_contra hlive
  exact hdown (current_of_live hsound ht (by simpa using hlive)).1

/-- Once no branch may go on, a branch other than the main one that has not come to its end never does. -/
lemma unresolved_of_down (x : Ensemble) (s : Setup) (moves : List Move) {t : Task}
    (hdown : ((x.newRun s).afterAll s moves).state ≠ .running) (ht : t ∈ ((x.newRun s).afterAll s moves).tasks)
    (hbranch : t.branch ≠ mainBranch) (hopen : ((x.newRun s).afterAll s moves).signals.isResolved t.done = false)
    (later : List Move) : (((x.newRun s).afterAll s moves).afterAll s later).signals.isResolved t.done = false := by
  have hcancelled := cancelled_of_down (sound_afterAll x s moves) hdown ht
  have huse := (assigned_afterAll x s moves).task t ht
  by_contra hresolved
  rw [Bool.not_eq_false, ← afterAll_append, isResolved_branch (use_after later huse), happens_append] at hresolved
  obtain hbefore | hlater := hresolved
  · rw [← isResolved_branch huse, hopen] at hbefore
    cases hbefore
  · -- The task that ends the branch would be another one with the same signal.
    obtain ⟨between, _, rest, -, i, u, rfl, hu, hdone, hends⟩ := happens_iff.mp hlater
    obtain ⟨j, hj⟩ := List.mem_iff_getElem?.mp ht
    have hgrows := (course_afterAll ((x.newRun s).afterAll s moves) s between).grows
    obtain ⟨status, htask⟩ := hgrows.task hj
    have hulive := live_of_endsBranch hu hends
    rw [← afterAll_append] at hu
    have htask : ((x.newRun s).afterAll s (moves ++ between)).tasks[j]? = some { t with status } := by
      rw [afterAll_append]
      exact htask
    obtain hij | rfl | hji := Nat.lt_trichotomy i j
    · exact hbranch (shared_signal x s (moves ++ between) hij hu htask hdone.symm).2.1
    · obtain rfl : u = { t with status } := Option.some.inj (hu.symm.trans htask)
      rw [isCancelled_of_grows hgrows hcancelled] at hulive
      cases hulive
    · exact hbranch (shared_signal x s (moves ++ between) hji htask hu hdone).1

/-! ## Joins of frozen branches -/

/-- The only turn of a task that waits for a signal without a value is that of a cancelled task. -/
lemma turn?_unresolved {p p' : Point} {node : Node} {done : Nat} {resumption : Resumption} {turn : Turn}
    (ht : r.tasks[i]? = some t) (hstatus : t.status = .waiting p (.signals true [done] none) resumption)
    (hnode : s.definition.node? p.node = some node) (hopen : r.signals.isResolved done = false)
    (hturn : r.turn? s i = some (p', turn)) :
    r.isCancelled t.token = true ∧ p' = p ∧ turn = .acted node (.fails .cancelled) := by
  rw [turn?_waiting s ht hstatus] at hturn
  cases hcancelled : r.isCancelled t.token with
  | true =>
    rw [waitResult?_cancelled _ hcancelled, Option.map_some, sequel, hnode] at hturn
    obtain ⟨rfl, rfl⟩ := Prod.mk.inj (Option.some.inj hturn)
    exact ⟨rfl, rfl, rfl⟩
  | false => simp [waitResult?, hcancelled, Signals.allResolved, hopen] at hturn

/-- A task that waits for a signal which never gets a value stays there or is cancelled. -/
lemma waits_or_ended {p : Point} {node : Node} {done : Nat} {resumption : Resumption}
    (ht : r.tasks[i]? = some t) (hstatus : t.status = .waiting p (.signals true [done] none) resumption)
    (hnode : s.definition.node? p.node = some node)
    (hopen : ∀ before, (r.afterAll s before).signals.isResolved done = false) (moves : List Move) :
    (r.afterAll s moves).tasks[i]? = some t ∨ (r.afterAll s moves).tasks[i]? = some { t with status := .ended } := by
  refine kept_or_ended ht (fun before hbefore hstep => ?_) moves
  rw [← turn?_isSome] at hstep
  obtain ⟨⟨p', turn⟩, hturn⟩ := Option.isSome_iff_exists.mp hstep
  obtain ⟨-, -, rfl⟩ := turn?_unresolved hbefore hstatus hnode (hopen before) hturn
  exact task_step hbefore hturn

/-- A join of a branch whose signal never gets a value gives no code, and only a cancelled task has a turn after it. -/
lemma join_stranded {a : JoinArguments} {done : Nat} (htaken : r.taken? s (.step i) = some (.join a))
    (htarget : a.target? = some branch) (hknown : r.branches.get? branch = some done)
    (hopen : ∀ more, ((r.after s (.step i)).afterAll s more).signals.isResolved done = false) :
    ∃ t p node, r.tasks[i]? = some t ∧ t.status = .entering p ∧ s.definition.node? p.node = some node ∧
      r.turn? s i = some (p, .acted node (.waits (.signals true [done] none) (.code 0))) ∧
      ∀ more, let w := (r.after s (.step i)).afterAll s more
        w.code? s i = none ∧
        ∀ p' turn, w.turn? s i = some (p', turn) →
          w.isCancelled t.token = true ∧ p' = p ∧ turn = .acted node (.fails .cancelled) := by
  obtain ⟨t, p, node, ht, hstatus, hnode, -, hturn⟩ := join_turn htaken htarget
  rw [hknown] at hturn
  refine ⟨t, p, node, ht, hstatus, hnode, hturn, ?_⟩
  intro more w
  have hturns : ∀ p' turn, w.turn? s i = some (p', turn) →
      w.isCancelled t.token = true ∧ p' = p ∧ turn = .acted node (.fails .cancelled) := by
    intro p' turn h
    obtain hw | hw := waits_or_ended (task_step ht hturn) rfl hnode hopen more
    · exact (turn?_unresolved hw rfl hnode (hopen more) h :)
    · rw [turn?_ended s hw rfl] at h
      cases h
  refine ⟨Option.bind_eq_none_iff.mpr ?_, hturns⟩
  rintro ⟨p', turn⟩ h
  obtain ⟨-, -, rfl⟩ := hturns p' turn h
  rfl

/-- A branch other than the main one that has not come to its end when the run is paused never does, whoever holds its
signal.  Any join of that name which begins before the name is forked again waits for this signal.  From then on the
task has no turn that gives a code, and its only turn is that of a task whose epoch has ended: it is cancelled. -/
theorem frozen_branch_strands_joins (x : Ensemble) (s : Setup) (moves : List Move) :
    let r := (x.newRun s).afterAll s moves
    let paused := r.after s .pause
    (∀ t ∈ r.tasks, t.branch ≠ mainBranch → r.signals.isResolved t.done = false →
      ∀ later, (paused.afterAll s later).signals.value? t.done = none) ∧
    ∀ branch done, branch ≠ mainBranch → r.branches.get? branch = some done → r.signals.isResolved done = false →
      (∀ later, (paused.afterAll s later).signals.value? done = none) ∧
      ∀ later, paused.StartsOnce s later → ¬ paused.Happens s (Forks s branch) later →
        let q := paused.afterAll s later
        ∀ i a, q.taken? s (.step i) = some (.join a) → a.target? = some branch →
          ∃ t p node, q.tasks[i]? = some t ∧ t.status = .entering p ∧ s.definition.node? p.node = some node ∧
            q.turn? s i = some (p, .acted node (.waits (.signals true [done] none) (.code 0))) ∧
            ∀ more, let w := (q.after s (.step i)).afterAll s more
              w.code? s i = none ∧
              ∀ p' turn, w.turn? s i = some (p', turn) →
                w.isCancelled t.token = true ∧ p' = p ∧ turn = .acted node (.fails .cancelled) := by
  intro r paused
  have hpaused : (x.newRun s).afterAll s (moves ++ [.pause]) = paused := afterAll_snoc s _ moves .pause
  have hboard : paused.board = r.board := (r.modifies_pause s).board (by decide)
  have hfrozen : ∀ t ∈ r.tasks, t.branch ≠ mainBranch → r.signals.isResolved t.done = false →
      ∀ later, (paused.afterAll s later).signals.isResolved t.done = false := by
    intro t ht hbranch hopen later
    have hnever := unresolved_of_down x s (moves ++ [.pause]) (t := t)
    rw [hpaused] at hnever
    have htasks : paused.tasks = r.tasks := congrArg Board.tasks hboard
    have hsignals : paused.signals = r.signals := congrArg Board.signals hboard
    exact hnever (r.state_pause s) (htasks ▸ ht) hbranch (hsignals ▸ hopen) later
  have hvalue {q : Run} {done : Nat} (h : q.signals.isResolved done = false) : q.signals.value? done = none := by
    simpa [Signals.isResolved] using h
  refine ⟨fun t ht hbranch hopen later => hvalue (hfrozen t ht hbranch hopen later), ?_⟩
  intro branch done hbranch hknown hopen
  obtain ⟨j, u, hu, rfl, rfl, -⟩ := latest_afterAll x s moves branch done hknown
  have hnever := hfrozen u (List.mem_of_getElem? hu) hbranch hopen
  refine ⟨fun later => hvalue (hnever later), ?_⟩
  intro later honce hforks q i a htaken htarget
  have hbranches : paused.branches = r.branches := congrArg Board.branches hboard
  refine join_stranded htaken htarget ((branch_kept hbranch honce hforks).trans (hbranches ▸ hknown)) ?_
  intro more
  have hopen := hnever (later ++ .step i :: more)
  rwa [afterAll_append] at hopen

/-- A run that is paused while its main branch joins another one.  The main branch enters the join anew when it is
resumed, waits whatever else goes on, and is cancelled in the end by a second pause. -/
theorem frozen_branch_strands_joins_resumed :
    let nodes : Dict Node :=
      [("a", { Node.ofPrimitive .fork with
          arguments := .obj [("branch_name", .str "B")], next := [some "b", some "c"] }),
        ("b", { Node.ofPrimitive .join with arguments := .obj [("branch_name", .str "B")] }),
        ("c", Node.ofPrimitive .waitNext)]
    let s : Setup := { definition := { scenarioId := 1, content := { entry := "a", nodes } }, folder := [] }
    let x : Ensemble := { files := {} }
    let r := (x.newRun s).afterAll s [.start, .step 0, .step 1, .step 0]
    let q := (r.after s .pause).afterAll s [.resume]
    let waits := (q.after s (.step 2)).afterAll s [.step 1, .answer 1 (.value 0), .step 1]
    let paused := (q.after s (.step 2)).afterAll s [.pause]
    r.branches.get? "B" = some 1 ∧ q.signals.value? 1 = none ∧ waits.code? s 2 = none ∧
      ∃ p node, paused.turn? s 2 = some (p, .acted node (.fails .cancelled)) := by
  intro nodes s x r q waits paused
  have hknown : r.branches.get? "B" = some 1 := by decide +kernel
  obtain ⟨hvalue, hjoins⟩ := (frozen_branch_strands_joins x s [.start, .step 0, .step 1, .step 0]).2 "B" 1 (by decide)
    hknown (by decide +kernel)
  have honce : (r.after s .pause).StartsOnce s [.resume] := by simp [StartsOnce, Happens]
  have hforks : ¬ (r.after s .pause).Happens s (Forks s "B") [.resume] := by simp [Happens, Forks, taken?]
  have hjoin : (q.taken? s (.step 2)).any (·.endsBranch "B") = true := by decide +kernel
  obtain ⟨a, htaken, hends⟩ := (Option.any_eq_true _ _).mp hjoin
  cases a with
  | join a =>
    have htarget : a.target? = some "B" := by simpa [Action.endsBranch] using hends
    obtain ⟨t, p, node, -, -, -, -, hafter⟩ := hjoins [.resume] honce hforks 2 a htaken htarget
    have hturn : (paused.turn? s 2).isSome = true := by decide +kernel
    obtain ⟨⟨p', turn⟩, hturn⟩ := Option.isSome_iff_exists.mp hturn
    obtain ⟨-, rfl, rfl⟩ := (hafter [.pause]).2 p' turn hturn
    exact ⟨hknown, hvalue [.resume], (hafter [.step 1, .answer 1 (.value 0), .step 1]).1, p', node, hturn⟩
  | _ => cases hends

end Run

end FieldStudy
