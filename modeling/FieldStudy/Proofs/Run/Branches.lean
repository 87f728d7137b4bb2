import Mathlib.Data.List.Induction
import Mathlib.Tactic.Common
import FieldStudy.Proofs.Run.Origins
import FieldStudy.Proofs.Run.Waits

/-!
# Ends of branches

Each branch has a signal for its end.  It is replaced in the table when a branch of the same name is forked again, and
a main branch that is resumed keeps it; yet it has a value exactly if the branch of a task that holds it has come to its
end (`Run.branch_ends`), and whoever joins a branch waits for the signal that was known when the join began.
-/

namespace FieldStudy

/-! ## The signal that a branch is known by -/

namespace Board

/-- The signal that a branch is known by is that of its latest task. -/
def Latest (b : Board) : Prop :=
  ∀ branch done, b.branches.get? branch = some done → ∃ j t, b.tasks[j]? = some t ∧ t.branch = branch ∧
    t.done = done ∧ ∀ (k : Nat) (u : Task), j < k → b.tasks[k]? = some u → u.branch ≠ branch

variable {b : Board}

/-- Appending the task that a branch is known by from then on. -/
lemma Latest.append {b' : Board} (h : b.Latest) (t : Task) (htasks : b'.tasks = b.tasks ++ [t])
    (hbranches : ∀ branch, b'.branches.get? branch = if t.branch = branch then some t.done else b.branches.get? branch) :
    b'.Latest := by
  intro branch done hdone
  rw [hbranches] at hdone
  rw [htasks]
  split at hdone
  · next heq =>
    refine ⟨b.tasks.length, t, by simp, heq, Option.some.inj hdone, ?_⟩
    intro k u hk hu
    rw [List.getElem?_eq_none (by simpa using Nat.succ_le_of_lt hk)] at hu
    cases hu
  · next hne =>
    obtain ⟨j, u, hu, hbranch, hsignal, hlast⟩ := h branch done hdone
    have hj : j < b.tasks.length := (List.getElem?_eq_some_iff.mp hu).1
    refine ⟨j, u, by rw [List.getElem?_append_left hj, hu], hbranch, hsignal, fun k w hk hw => ?_⟩
    by_cases hlt : k < b.tasks.length
    · rw [List.getElem?_append_left hlt] at hw
      exact hlast k w hk hw
    · rw [List.getElem?_append_right (Nat.le_of_not_lt hlt), List.getElem?_singleton] at hw
      split at hw
      · exact Option.some.inj hw ▸ hne
      · cases hw

lemma Latest.after (h : b.Latest) (d : Deed) : (b.after d).Latest := by
  cases d with
  | create name => rw [Board.after]; split <;> exact h
  | reset name => rw [Board.after]; split <;> exact h
  | set name => rw [Board.after]; split <;> exact h
  | fork branch token p => exact h.append _ rfl fun other => Dict.get?_insert ..
  | resume token p =>
    cases hkept : b.kept? with
    | none =>
      rw [Board.after, hkept]
      exact h.append _ rfl fun other => Dict.get?_insert ..
    | some done =>
      rw [Board.after, hkept]
      refine h.append ⟨Run.mainBranch, done, token, .entering p⟩ rfl ?_
      intro other
      have hmain : b.branches.get? Run.mainBranch = some done := (Option.filter_eq_some_iff.mp hkept).1
      by_cases heq : Run.mainBranch = other
      · simp [← heq, hmain]
      · simp [heq]
  | finish i => rw [Board.after]; split <;> exact h
  | turn i status =>
    have hmodify (k : Nat) : (b.after (.turn i status)).tasks[k]? =
        (b.tasks[k]?).map fun t => if i = k then { t with status } else t := by
      simp only [Board.after, List.getElem?_modify]
      rfl
    intro branch done hdone
    obtain ⟨j, t, ht, hbranch, hsignal, hlast⟩ := h branch done hdone
    refine ⟨j, if i = j then { t with status } else t, by rw [hmodify, ht]; rfl, ?_, ?_, ?_⟩
    · split <;> exact hbranch
    · split <;> exact hsignal
    · intro k u hk hu
      rw [hmodify] at hu
      obtain ⟨w, hw, rfl⟩ := Option.map_eq_some_iff.mp hu
      split <;> exact hlast k w hk hw
  | clear => exact fun branch done hdone => by cases hdone

end Board

namespace Run

variable {r : Run} {s : Setup} {i : Nat} {t : Task}

lemma latest_afterAll (x : Ensemble) (s : Setup) (moves : List Move) :
    ((x.newRun s).afterAll s moves).board.Latest := by
  have hnew : (x.newRun s).board.Latest := fun branch done hdone => by cases hdone
  induction moves using List.reverseRecOn with
  | nil => exact hnew
  | append_singleton moves m ih =>
    rw [afterAll_snoc, board_after]
    generalize ((x.newRun s).afterAll s moves).deeds s m = deeds
    generalize ((x.newRun s).afterAll s moves).board = b at ih
    induction deeds generalizing b with
    | nil => exact ih
    | cons d rest hrest => exact hrest _ (ih.after d)

/-! ## Ends -/

/-- A branch does not come to its end by a step of a task whose epoch has ended. -/
lemma live_of_endsBranch (ht : r.tasks[i]? = some t) (hends : r.endsBranch s i = true) :
    r.isCancelled t.token = false := by
  obtain ⟨p, turn, hturn, hend⟩ := endsBranch_iff.mp hends
  by_contra hlive
  have hnot := (turn_of_cancelled ht (by simpa using hlive) hturn).2
  rw [hend] at hnot
  cases hnot

/-- A task that has ended its branch holds the signal of it. -/
lemma ends_of_endsBranch (hends : r.endsBranch s i = true) :
    ∃ t, r.tasks[i]? = some t ∧ r.Ends s t.done (.step i) := by
  obtain ⟨p, turn, hturn, -⟩ := endsBranch_iff.mp hends
  obtain ⟨t, ht, -⟩ := Option.bind_eq_some_iff.mp hturn
  exact ⟨t, ht, i, t, rfl, ht, rfl, hends⟩

/-- The run was resumed while this many tasks were there, and the signal had no value. -/
def Resumes (task signal : Nat) (r : Run) (m : Move) : Prop :=
  m = .resume ∧ r.state = .paused ∧ r.tasks.length = task ∧ r.signals.isResolved signal = false

/-- A task that is added holds a new signal, unless it goes on with the main branch of a run that was paused. -/
lemma Origin.resumes_of_shared {m : Move} {given : List SignalUse} {u : Task} (h : r.Origin s m u)
    (hsound : r.course.Sound) (hassigned : r.board.Assigned given) (ht : t ∈ r.tasks) (hdone : u.done = t.done) :
    m = .resume ∧ r.state = .paused ∧ r.signals.isResolved t.done = false ∧ t.branch = mainBranch ∧
      u.branch = mainBranch ∧ r.isCancelled t.token = true := by
  have hold : t.done < r.signals.next := hassigned.lt (hassigned.task t ht)
  cases h with
  | starts hstate => exact absurd hdone (Nat.ne_of_gt hold)
  | forks => exact absurd hdone (Nat.ne_of_gt hold)
  | resumes hstate done hkept =>
    obtain hkept | ⟨-, hfresh⟩ := hkept
    · obtain rfl : done = t.done := hdone
      obtain ⟨hknown, hunresolved⟩ := Option.filter_eq_some_iff.mp hkept
      refine ⟨rfl, hstate, by simpa [board] using hunresolved, ?_, rfl, ?_⟩
      · have huse := hassigned.task t ht
        rw [hassigned.branch _ _ hknown] at huse
        exact (SignalUse.branch.inj (Option.some.inj huse)).symm
      · by_contra hlive
        have hrunning := (current_of_live hsound ht (by simpa using hlive)).1
        rw [hstate] at hrunning
        cases hrunning
    · exact absurd (hfresh.symm.trans hdone) (Nat.ne_of_gt hold)

/-- A branch whose signal has no value has not come to its end before. -/
lemma not_ended (x : Ensemble) (s : Setup) (moves : List Move) {i : Nat} {t : Task}
    (ht : ((x.newRun s).afterAll s moves).tasks[i]? = some t)
    (hopen : ((x.newRun s).afterAll s moves).signals.isResolved t.done = false) :
    ¬ (x.newRun s).Happens s (fun q m => m = .step i ∧ q.endsBranch s i = true) moves := by
  intro hhappens
  obtain ⟨before, _, rest, hmoves, rfl, hends⟩ := happens_iff.mp hhappens
  obtain ⟨u, hu, hend⟩ := ends_of_endsBranch hends
  have huse := (assigned_afterAll x s moves).task t (List.mem_of_getElem? ht)
  have hsame : u.done = t.done := by
    obtain ⟨status, hlater⟩ := (course_afterAll ((x.newRun s).afterAll s before) s (.step i :: rest)).grows.task hu
    have htasks : ((x.newRun s).afterAll s moves).tasks[i]? = some { u with status } := by
      rw [hmoves, afterAll_append]
      exact hlater
    obtain rfl : { u with status } = t := Option.some.inj (htasks.symm.trans ht)
    rfl
  have hresolved := (isResolved_branch huse).mpr (happens_iff.mpr ⟨before, .step i, rest, hmoves, hsame ▸ hend⟩)
  rw [hopen] at hresolved
  cases hresolved

/-- Two tasks share a signal only if the later one is the main branch of the earlier one, resumed after a pause.  The
earlier one cannot end the branch any more. -/
lemma shared_signal (x : Ensemble) (s : Setup) (moves : List Move) {i j : Nat} {t u : Task} (hij : i < j)
    (ht : ((x.newRun s).afterAll s moves).tasks[i]? = some t)
    (hu : ((x.newRun s).afterAll s moves).tasks[j]? = some u) (hdone : u.done = t.done) :
    t.branch = mainBranch ∧ u.branch = mainBranch ∧
      ((x.newRun s).afterAll s moves).isCancelled t.token = true ∧
      (x.newRun s).Happens s (Resumes j t.done) moves ∧
      ¬ (x.newRun s).Happens s (fun q m => m = .step i ∧ q.endsBranch s i = true) moves := by
  induction moves using List.reverseRecOn generalizing t u with
  | nil => cases ht
  | append_singleton moves m ih =>
    have hassigned := assigned_afterAll x s moves
    have hsound := sound_afterAll x s moves
    have hopen {t : Task} := not_ended x s moves (i := i) (t := t)
    rw [afterAll_snoc] at ht hu ⊢
    rw [happens_snoc, happens_snoc]
    generalize (x.newRun s).afterAll s moves = r at ht hu hassigned hsound hopen ih ⊢
    have hgrows := (r.course_after s m).grows
    have hadds := r.adds_after s m
    have hj : j ≤ r.tasks.length :=
      Nat.le_of_lt_succ (Nat.lt_of_lt_of_le (List.getElem?_eq_some_iff.mp hu).1 hadds.length)
    obtain ⟨t₀, ht₀⟩ : ∃ t₀, r.tasks[i]? = some t₀ := ⟨_, List.getElem?_eq_getElem (Nat.lt_of_lt_of_le hij hj)⟩
    obtain ⟨status, hlater⟩ := hgrows.task ht₀
    obtain rfl : { t₀ with status } = t := Option.some.inj (hlater.symm.trans ht)
    obtain hlt | rfl := Nat.lt_or_eq_of_le hj
    · -- Both tasks were there before: the earlier one is cancelled and ends no branch now.
      obtain ⟨u₀, hu₀⟩ : ∃ u₀, r.tasks[j]? = some u₀ := ⟨_, List.getElem?_eq_getElem hlt⟩
      obtain ⟨status', hlater'⟩ := hgrows.task hu₀
      obtain rfl : { u₀ with status := status' } = u := Option.some.inj (hlater'.symm.trans hu)
      obtain ⟨hmain, humain, hended, hresumes, hnever⟩ := ih ht₀ hu₀ hdone
      have hstill := isCancelled_of_grows hgrows hended
      refine ⟨hmain, humain, hstill, .inl hresumes, not_or_intro hnever ?_⟩
      intro hends
      rw [live_of_endsBranch ht₀ hends.2] at hended
      cases hended
    · -- The later task has just been added.
      obtain ⟨rfl, hstate, hunresolved, hmain, humain, hended⟩ :=
        (hadds.origin u hu).resumes_of_shared hsound hassigned (List.mem_of_getElem? ht₀) hdone
      refine ⟨hmain, humain, isCancelled_of_grows hgrows hended, .inr ⟨rfl, hstate, rfl, hunresolved⟩,
        not_or_intro (hopen ht₀ hunresolved) fun hends => by cases hends.1⟩

/-! ## Joins -/

/-- The turn of a task that enters a join of another branch. -/
lemma join_turn {a : JoinArguments} {branch : String} (htaken : r.taken? s (.step i) = some (.join a))
    (htarget : a.target? = some branch) :
    ∃ t p node, r.tasks[i]? = some t ∧ t.status = .entering p ∧ s.definition.node? p.node = some node ∧
      branch ≠ t.branch ∧ r.turn? s i = some (p, .acted node
        (match r.branches.get? branch with
          | some done => .waits (.signals true [done] none) (.code 0)
          | none => .done 0)) := by
  obtain ⟨t, p, ht, hstatus, haction⟩ := taken?_step_iff.mp htaken
  obtain ⟨-, node, hnode, -, hends⟩ := action?_eq_some_iff.mp haction
  have hother : branch ≠ t.branch := by simpa [Action.endsBranch, htarget] using hends
  refine ⟨t, p, node, ht, hstatus, hnode, hother, ?_⟩
  rw [turn?_entering s ht hstatus, entry_of_action? hnode haction]
  have hjoin : (({ r with point := some p } : Run).execute s ⟨t.branch, p.node, node, t.token⟩ (.join a)).1 =
      match r.branches.get? branch with
        | some done => .waits (.signals true [done] none) (.code 0)
        | none => .done 0 := by
    rw [execute, join, htarget, Option.filter_some]
    simp only [bne_iff_ne, ne_eq, hother, not_false_eq_true, if_true, Option.bind_some]
    cases r.branches.get? branch <;> rfl
  rw [hjoin]

/-! ## Forks -/

/-- A fork that does not end its own branch only adds a task. -/
lemma fork_step {branch : String} (htaken : r.taken? s (.step i) = some (.fork branch))
    (hends : r.endsBranch s i = false) :
    ∃ (t : Task) (p : Point) (entry next : String), r.after s (.step i) =
      (({ r with point := some p } : Run).spawnBranch branch t.token ⟨entry, none⟩).setStatus i
        (.entering ⟨next, some 0⟩) := by
  obtain ⟨t, p, ht, hstatus, haction⟩ := taken?_step_iff.mp htaken
  obtain ⟨-, node, hnode, -⟩ := action?_eq_some_iff.mp haction
  have hturn := turn?_entering s ht hstatus
  have hon : (r.entry s t p).isEnd = false := by simpa [endsBranch, hturn] using hends
  have hentry := entry_of_action? hnode haction
  rw [hentry] at hon
  cases hentering : node.successor? 1 with
  | none => simp [execute, fork, hentering, Turn.isEnd] at hon
  | some entry =>
    cases hfollowing : node.successor? 0 with
    | none => simp [execute, fork, hentering, hfollowing, Turn.isEnd] at hon
    | some next =>
      refine ⟨t, p, entry, next, ?_⟩
      rw [after, step?_entering s ht hstatus, Option.getD_some, enter,
        show ({ r with point := some p } : Run).isLive t.token = true from live_of_action? haction]
      obtain ⟨-, node', hnode', hok, hown⟩ := action?_eq_some_iff.mp haction
      obtain rfl : node' = node := Option.some.inj (hnode'.symm.trans hnode)
      simp [hnode, hok, hown, execute, fork, hentering, follow, hfollowing]

lemma waitResult?_congr {r r' : Run} (hcancelled : r'.cancelled = r.cancelled) (hclock : r'.clock = r.clock)
    (hprompts : r'.prompts = r.prompts) (hsignals : ∀ id, r'.signals.value? id = r.signals.value? id)
    (token : Nat) (a : Await) : r'.waitResult? token a = r.waitResult? token a := by
  have hvalue : r'.signals.value? = r.signals.value? := funext hsignals
  have hresolved : r'.signals.isResolved = r.signals.isResolved := by
    funext id
    rw [Signals.isResolved, Signals.isResolved, hsignals]
  unfold waitResult?
  rw [isCancelled, isCancelled, hcancelled, hclock, hprompts]
  cases a with
  | signals all ids deadline =>
    have hall : r'.signals.allResolved ids = r.signals.allResolved ids := by
      rw [Signals.allResolved, Signals.allResolved, hresolved]
    have hfirst : r'.signals.firstResolved? ids = r.signals.firstResolved? ids := by
      rw [Signals.firstResolved?, Signals.firstResolved?, hvalue]
    dsimp only
    rw [hall, hfirst]
  | _ => rfl

/-- A fork wakes nobody. -/
lemma fork_wakes_none {branch : String} {k : Nat} (htaken : r.taken? s (.step k) = some (.fork branch))
    (hends : r.endsBranch s k = false) (hi : i < r.tasks.length) :
    (∀ token a, (r.after s (.step k)).waitResult? token a = r.waitResult? token a) ∧
      (r.taskId i ∈ (r.after s (.step k)).agenda.ready ↔ r.taskId i ∈ r.agenda.ready) := by
  obtain ⟨t, p, entry, next, hafter⟩ := fork_step htaken hends
  rw [hafter]
  refine ⟨waitResult?_congr rfl (r.agenda.clock_enqueue _) rfl fun id => r.signals.value?_create id, ?_⟩
  have hother : r.taskId i ≠ ⟨r.number, r.tasks.length⟩ := fun h =>
    absurd (congrArg TaskId.task h) (Nat.ne_of_lt hi)
  exact (r.agenda.mem_ready_enqueue ⟨r.number, r.tasks.length⟩ (r.taskId i)).trans (or_iff_left hother)

/-! ## Handles and joins -/

/-- The signal of a branch has a value exactly if the branch of a task that holds it has come to its end, which no step
of a cancelled task does; tasks that share a signal are one main branch before and after a pause, of which only the
last one may end it.  A join of another branch ends at once if none of that name is known; otherwise it waits for the
signal of the latest fork of that name and for no other, until that has a value.  A fork wakes nobody. -/
theorem branch_ends (x : Ensemble) (s : Setup) (moves : List Move) :
    let r := (x.newRun s).afterAll s moves
    (∀ i t, r.tasks[i]? = some t →
      (∀ v, r.signals.value? t.done = some v ↔
        v = 0 ∧ (x.newRun s).Happens s (fun q m => q.Ends s t.done m) moves) ∧
      (r.endsBranch s i = true → r.state = .running ∧ r.isCancelled t.token = false) ∧
      ∀ j u, i < j → r.tasks[j]? = some u → u.done = t.done →
        t.branch = mainBranch ∧ u.branch = mainBranch ∧ r.isCancelled t.token = true ∧
        (x.newRun s).Happens s (Resumes j t.done) moves ∧
        ¬ (x.newRun s).Happens s (fun q m => m = .step i ∧ q.endsBranch s i = true) moves) ∧
    (∀ i a branch, r.taken? s (.step i) = some (.join a) → a.target? = some branch →
      ∃ t p node, r.tasks[i]? = some t ∧ t.status = .entering p ∧ s.definition.node? p.node = some node ∧
        branch ≠ t.branch ∧
        (r.branches.get? branch = none → r.turn? s i = some (p, .acted node (.done 0))) ∧
        ∀ done, r.branches.get? branch = some done →
          (∃ j u, r.tasks[j]? = some u ∧ u.branch = branch ∧ u.done = done ∧
            ∀ (k : Nat) (w : Task), j < k → r.tasks[k]? = some w → w.branch ≠ branch) ∧
          ∀ later, ¬ (r.after s (.step i)).Happens s (Steps s i) later →
            let q := (r.after s (.step i)).afterAll s later
            q.tasks[i]? = some { t with status := .waiting p (.signals true [done] none) (.code 0) } ∧
            (q.isCancelled t.token = false → q.turn? s i =
              if q.signals.isResolved done then some (p, .acted node (.done 0)) else none)) ∧
    ∀ k branch, r.taken? s (.step k) = some (.fork branch) → r.endsBranch s k = false →
      ∀ i, i < r.tasks.length →
        (∀ token a, (r.after s (.step k)).waitResult? token a = r.waitResult? token a) ∧
        (r.taskId i ∈ (r.after s (.step k)).agenda.ready ↔ r.taskId i ∈ r.agenda.ready) := by
  intro r
  refine ⟨?_, ?_, ?_⟩
  · intro i t ht
    refine ⟨?_, ?_, ?_⟩
    · intro v
      have huse := (assigned_afterAll x s moves).task t (List.mem_of_getElem? ht)
      rw [value?_eq_some_iff, isResolved_branch huse]
    · intro hends
      have hlive := live_of_endsBranch ht hends
      exact ⟨(current_of_live (sound_afterAll x s moves) (List.mem_of_getElem? ht) hlive).1, hlive⟩
    · intro j u hij hu hdone
      exact shared_signal x s moves hij ht hu hdone
  · intro i a branch htaken htarget
    obtain ⟨t, p, node, ht, hstatus, hnode, hother, hturn⟩ := join_turn htaken htarget
    refine ⟨t, p, node, ht, hstatus, hnode, hother, fun hnone => by rw [hturn, hnone], ?_⟩
    intro done hdone
    refine ⟨latest_afterAll x s moves branch done hdone, ?_⟩
    intro later hlater
    rw [hdone] at hturn
    have hkept := task_kept (task_step ht hturn) hlater
    refine ⟨hkept, ?_⟩
    intro hlive
    have hassigned := assigned_follows (s := s) (assigned_afterAll x s moves) (.step i :: later)
    rw [turn?_signals hkept rfl hnode hlive hassigned.value, answer?]
    simp only [Signals.meets, Signals.allResolved, List.all_cons, List.all_nil, Bool.and_true, if_true, Option.any_none]
    split <;> rfl
  · intro k branch htaken hends i hi
    exact fork_wakes_none htaken hends hi

/-- A run that is paused after it has forked a branch, forks the branch again when it is resumed, and joins it. -/
theorem branch_ends_forkedAgain :
    let nodes : Dict Node :=
      [("a", { Node.ofPrimitive .fork with
          arguments := .obj [("branch_name", .str "B")], next := [some "b", some "c"] }),
        ("b", { Node.ofPrimitive .join with arguments := .obj [("branch_name", .str "B")] }),
        ("c", Node.ofPrimitive .nop)]
    let s : Setup := { definition := { scenarioId := 1, content := { entry := "a", nodes } }, folder := [] }
    let x : Ensemble := { files := {} }
    let begun := (x.newRun s).afterAll s [.start]
    let resumed : List Move := [.start, .step 0, .pause, .resume]
    let r := (x.newRun s).afterAll s resumed
    let q := (r.after s (.step 2)).after s (.step 2)
    (∀ token a, (begun.after s (.step 0)).waitResult? token a = begun.waitResult? token a) ∧
      (x.newRun s).Happens s (Resumes 2 0) resumed ∧
      q.turn? s 2 = none ∧ ∃ p node, (q.after s (.step 3)).turn? s 2 = some (p, .acted node (.done 0)) := by
  intro nodes s x begun resumed r q
  have hfork : begun.taken? s (.step 0) = some (.fork "B") := by rfl
  have hgoesOn : begun.endsBranch s 0 = false := by decide +kernel
  have hbegun : 0 < begun.tasks.length := by decide +kernel
  have hmain : r.tasks[0]?.map (·.done) = some 0 := by decide +kernel
  have hagain : r.tasks[2]?.map (·.done) = some 0 := by decide +kernel
  have hjoins : ((r.after s (.step 2)).taken? s (.step 2)).any (·.endsBranch "B") = true := by decide +kernel
  have hknown : (r.after s (.step 2)).branches.get? "B" = some 2 := by decide +kernel
  have htoken : (r.after s (.step 2)).tasks[2]?.map (·.token) = some 2 := by decide +kernel
  have hlive : q.isCancelled 2 = false := by decide +kernel
  have hlater : (q.after s (.step 3)).isCancelled 2 = false := by decide +kernel
  have hopen : q.signals.isResolved 2 = false := by decide +kernel
  have hresolved : (q.after s (.step 3)).signals.isResolved 2 = true := by decide +kernel
  obtain ⟨hwaits, -⟩ := (branch_ends x s [.start]).2.2 0 "B" hfork hgoesOn 0 hbegun
  obtain ⟨t, ht, htdone⟩ := Option.map_eq_some_iff.mp hmain
  obtain ⟨u, hu, hudone⟩ := Option.map_eq_some_iff.mp hagain
  obtain ⟨-, -, hshared⟩ := (branch_ends x s resumed).1 0 t ht
  obtain ⟨-, -, -, hresumes, -⟩ := hshared 2 u (by decide) hu (hudone.trans htdone.symm)
  rw [htdone] at hresumes
  obtain ⟨a, hjoin, hends⟩ := (Option.any_eq_true _ _).mp hjoins
  cases a with
  | join j =>
    have htarget : j.target? = some "B" := by simpa [Action.endsBranch] using hends
    have hjoining := (branch_ends x s (resumed ++ [.step 2])).2.1 2 j "B"
    rw [afterAll_snoc] at hjoining
    obtain ⟨v, p, node, hv, -, -, -, -, hbound⟩ := hjoining hjoin htarget
    have hown : v.token = 2 := by
      rw [show (r.after s (.step 2)).tasks[2]? = some v from hv] at htoken
      exact Option.some.inj htoken
    obtain ⟨-, hbound⟩ := hbound 2 hknown
    rw [← hown] at hlive hlater
    have hnot : ¬ q.Happens s (Steps s 2) [.step 3] := by simp [Happens, Steps]
    have hfirst := (hbound [] happens_nil).2
    have hsecond := (hbound [.step 3] hnot).2
    rw [afterAll_nil] at hfirst
    rw [afterAll_cons, afterAll_nil] at hsecond
    have hfirst := hfirst hlive
    have hsecond := hsecond hlater
    rw [hopen, if_neg Bool.false_ne_true] at hfirst
    rw [hresolved, if_pos rfl] at hsecond
    exact ⟨hwaits, hresumes, hfirst, p, node, hsecond⟩
  | _ => cases hends

end Run

end FieldStudy
