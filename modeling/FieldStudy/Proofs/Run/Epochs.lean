import Mathlib.Data.List.Basic
import Mathlib.Tactic.Common
import FieldStudy.Proofs.Run.Moves

/-!
# Epochs

Tokens are replaced when a run is started or resumed, while tasks of earlier epochs still stand in line or wait.
The invariant `Course.Sound` says that a token which is not cancelled can only be the current one, and only
while the run is running; `Course.Grows` says that a cancelled token stays so and that a task keeps its token.
With them, a task whose epoch has ended does nothing any more but end (`Run.frozen_of_cancelled`).
-/

namespace FieldStudy

namespace Course

/-! ## The current epoch -/

/-- Who may go on belongs to the current epoch, and tokens that are in use have been given out. -/
structure Sound (c : Course) : Prop where
  live : ∀ t ∈ c.tasks, t.token ∉ c.cancelled → c.state = .running ∧ t.token = c.token
  current : c.state = .running → c.token ∉ c.cancelled
  token_lt : c.token < c.tokens
  task_lt : ∀ t ∈ c.tasks, t.token < c.tokens
  cancelled_lt : ∀ token ∈ c.cancelled, token < c.tokens

lemma Sound.change {c c' : Course} (hc : c.Sound) (h : Change c c') : c'.Sound := by
  cases h with
  | status i status =>
    refine ⟨fun t ht hlive => ?_, hc.current, hc.token_lt, fun t ht => ?_, hc.cancelled_lt⟩
    · obtain ⟨u, hu, _, rfl⟩ := Task.mem_modify_status ht
      exact hc.live u hu hlive
    · obtain ⟨u, hu, _, rfl⟩ := Task.mem_modify_status ht
      exact hc.task_lt u hu
  | spawn t h =>
    have hnew : (t.token ∉ c.cancelled → c.state = .running ∧ t.token = c.token) ∧
        t.token < c.tokens := by
      obtain ⟨hstate, htoken⟩ | ⟨u, hu, htoken⟩ := h
      · exact ⟨fun _ => ⟨hstate, htoken⟩, htoken ▸ hc.token_lt⟩
      · exact ⟨htoken ▸ hc.live u hu, htoken ▸ hc.task_lt u hu⟩
    refine ⟨fun u hu hlive => ?_, hc.current, hc.token_lt, fun u hu => ?_, hc.cancelled_lt⟩ <;>
      obtain hu | rfl := by simpa using hu
    · exact hc.live u hu hlive
    · exact hnew.1 hlive
    · exact hc.task_lt u hu
    · exact hnew.2
  | renew hstate =>
    refine ⟨fun t ht hlive => ?_, fun _ hin => ?_, Nat.lt_succ_self _, fun t ht => ?_, fun n hn => ?_⟩
    · exact absurd (hc.live t ht hlive).1 hstate
    · exact absurd (hc.cancelled_lt _ hin) (Nat.lt_irrefl _)
    · exact Nat.lt_succ_of_lt (hc.task_lt t ht)
    · exact Nat.lt_succ_of_lt (hc.cancelled_lt n hn)
  | halt state hstate =>
    refine ⟨fun t ht hlive => ?_, fun hrunning => absurd hrunning hstate, hc.token_lt, hc.task_lt,
      fun n hn => ?_⟩
    · -- A task that is not cancelled would have the token that has just been cancelled.
      obtain ⟨hne, hnot⟩ := by simpa using hlive
      exact absurd (hc.live t ht hnot).2 hne
    · obtain rfl | hn := by simpa using hn
      · exact hc.token_lt
      · exact hc.cancelled_lt n hn

lemma Sound.leads {c c' : Course} (hc : c.Sound) (h : c.Leads c') : c'.Sound := by
  induction h with
  | refl => exact hc
  | tail _ hchange ih => exact ih.change hchange

/-! ## What stays -/

/-- Cancelled tokens stay cancelled, and each task stays in its place with its branch, signal and token. -/
structure Grows (c c' : Course) : Prop where
  cancelled : c.cancelled ⊆ c'.cancelled
  tokens : c.tokens ≤ c'.tokens
  task : ∀ {i : Nat} {t : Task}, c.tasks[i]? = some t → ∃ status, c'.tasks[i]? = some { t with status }

lemma Grows.refl (c : Course) : Grows c c := ⟨fun _ h => h, Nat.le_refl _, fun {_ t} h => ⟨t.status, h⟩⟩

lemma Grows.trans {c c₁ c₂ : Course} (h : Grows c c₁) (h' : Grows c₁ c₂) : Grows c c₂ := by
  refine ⟨fun _ hn => h'.cancelled (h.cancelled hn), Nat.le_trans h.tokens h'.tokens, fun ht => ?_⟩
  obtain ⟨_, ht⟩ := h.task ht
  obtain ⟨status, ht⟩ := h'.task ht
  exact ⟨status, ht⟩

lemma Change.grows {c c' : Course} (h : Change c c') : Grows c c' := by
  cases h with
  | status i status =>
    refine ⟨fun _ hn => hn, Nat.le_refl _, fun {j t} ht => ?_⟩
    by_cases hij : i = j
    · exact ⟨status, by simp [ht, hij]⟩
    · exact ⟨t.status, by simp [ht, hij]⟩
  | spawn u h =>
    refine ⟨fun _ hn => hn, Nat.le_refl _, fun {j t} ht => ⟨t.status, ?_⟩⟩
    have hj : j < c.tasks.length := (List.getElem?_eq_some_iff.mp ht).1
    simpa [List.getElem?_append, hj] using ht
  | renew hstate => exact ⟨fun _ hn => hn, Nat.le_succ _, fun {_ t} ht => ⟨t.status, ht⟩⟩
  | halt state hstate =>
    exact ⟨fun _ hn => List.mem_cons_of_mem _ hn, Nat.le_refl _, fun {_ t} ht => ⟨t.status, ht⟩⟩

lemma Leads.grows {c c' : Course} (h : c.Leads c') : Grows c c' := by
  induction h with
  | refl => exact .refl c
  | tail _ hchange ih => exact ih.trans hchange.grows

end Course

namespace Run

lemma sound_newRun (x : Ensemble) (s : Setup) : (x.newRun s).course.Sound where
  live _ ht := absurd ht List.not_mem_nil
  current h := absurd (show RunState.stopped = .running from h) (by decide)
  token_lt := Nat.zero_lt_one
  task_lt _ ht := absurd ht List.not_mem_nil
  cancelled_lt _ hn := absurd hn List.not_mem_nil

/-- The invariant holds in every reachable state. -/
lemma sound_afterAll (x : Ensemble) (s : Setup) (moves : List Move) :
    ((x.newRun s).afterAll s moves).course.Sound :=
  (sound_newRun x s).leads (course_afterAll _ s moves)

/-- Whoever may go on belongs to the current epoch of a run that is running. -/
lemma current_of_live {r : Run} {t : Task} (hsound : r.course.Sound) (ht : t ∈ r.tasks)
    (hlive : r.isCancelled t.token = false) : r.state = .running ∧ t.token = r.token := by
  refine hsound.live t ht ?_
  intro hin
  simp [isCancelled, show t.token ∈ r.cancelled from hin] at hlive

lemma isCancelled_of_grows {r r' : Run} {token : Nat} (h : r.course.Grows r'.course)
    (hcancelled : r.isCancelled token = true) : r'.isCancelled token = true := by
  have hin : token ∈ r.cancelled := by simpa [isCancelled] using hcancelled
  have hstill : token ∈ r'.cancelled := h.cancelled hin
  simpa [isCancelled] using hstill

/-! ## Steps after the end of an epoch -/

/-- All that a step of a task with a cancelled token does to a run: the task ends, the point it was about to enter
may be noted, and the prompt or the deadline it waited for is given up. -/
structure Frozen (i : Nat) (t : Task) (r r' : Run) : Prop where
  tasks : r'.tasks = r.tasks.modify i fun t => { t with status := .ended }
  rest : Modifies [.point, .prompts, .agenda, .tasks] r r'
  point : r'.point = r.point ∨ ∃ p, t.status = .entering p ∧ r'.point = some p
  prompts : r'.prompts = r.prompts ∨
    ∃ p id resumption, t.status = .waiting p (.prompt id) resumption ∧ r'.prompts = r.prompts.discard id
  agenda : r'.agenda = r.agenda ∨ r'.agenda = r.agenda.dropTimers (r.taskId i)

lemma modifies_setStatus (r : Run) (i : Nat) (status : TaskStatus) :
    Modifies [.tasks] r (r.setStatus i status) := by
  intro f hf
  cases f <;> first | rfl | simp at hf

lemma enter_cancelled {r : Run} {t : Task} (s : Setup) (i : Nat) (p : Point)
    (hcancelled : r.isCancelled t.token = true) :
    r.enter s i t p = { r with point := some p }.setStatus i .ended := by
  have hdead : ({ r with point := some p } : Run).isLive t.token = false := by
    have h : ({ r with point := some p } : Run).isCancelled t.token = true := hcancelled
    simp [isLive, h]
  rw [enter]
  simp [hdead]

/-- A wait that ends by cancellation ends the task, wherever it waited. -/
lemma leaveWait_cancelled (r : Run) (s : Setup) (i : Nat) (t : Task) (p : Point) (a : Await)
    (resumption : Resumption) :
    r.leaveWait s i t p a resumption (.error .cancelled) =
      ({ r with agenda := r.agenda.dropTimers (r.taskId i) }.endWait a).setStatus i .ended := by
  rw [leaveWait]
  dsimp only
  split <;> rfl

lemma waitResult?_cancelled {r : Run} {token : Nat} (a : Await) (h : r.isCancelled token = true) :
    r.waitResult? token a = some (.error .cancelled) := by
  unfold waitResult?
  rw [if_pos h]

lemma isCancelled_of_waitResult? {r : Run} {token : Nat} {a : Await} {value : Int}
    (h : r.waitResult? token a = some (.ok value)) : r.isCancelled token = false := by
  refine Bool.eq_false_iff.mpr fun hcancelled => ?_
  rw [waitResult?_cancelled a hcancelled] at h
  cases h

/-- A task that has not ended can take a step once its token is cancelled. -/
lemma step?_isSome {r : Run} {i : Nat} {t : Task} (s : Setup) (ht : r.tasks[i]? = some t)
    (hcancelled : r.isCancelled t.token = true) (hended : t.hasEnded = false) :
    (r.step? s i).isSome = true := by
  cases hstatus : t.status with
  | entering p => rw [step?_entering s ht hstatus, Option.isSome_some]
  | waiting p a resumption =>
    rw [step?_waiting s ht hstatus, waitResult?_cancelled a hcancelled, Option.map_some, Option.isSome_some]
  | ended => simp [Task.hasEnded, hstatus] at hended

lemma frozen_step {r r' : Run} {s : Setup} {i : Nat} {t : Task} (ht : r.tasks[i]? = some t)
    (hcancelled : r.isCancelled t.token = true) (h : r.step? s i = some r') : Frozen i t r r' := by
  cases hstatus : t.status with
  | entering p =>
    rw [step?_entering s ht hstatus, enter_cancelled s i p hcancelled] at h
    obtain rfl := Option.some.inj h
    refine ⟨rfl, ?_, .inr ⟨p, hstatus, rfl⟩, .inl rfl, .inl rfl⟩
    intro f hf
    cases f <;> first | rfl | simp at hf
  | waiting p a resumption =>
    rw [step?_waiting s ht hstatus, waitResult?_cancelled a hcancelled, Option.map_some,
      leaveWait_cancelled] at h
    obtain rfl := Option.some.inj h
    have hend := modifies_endWait { r with agenda := r.agenda.dropTimers (r.taskId i) } a
    have hagenda : (({ r with agenda := r.agenda.dropTimers (r.taskId i) } : Run).endWait a).agenda =
        r.agenda.dropTimers (r.taskId i) := hend .agenda (by decide)
    refine ⟨?_, ?_, .inl (hend .point (by decide)), ?_, .inr hagenda⟩
    · exact congrArg (fun tasks : List Task => tasks.modify i fun t => { t with status := .ended })
        (hend .tasks (by decide))
    · have hset : Modifies [.point, .prompts, .agenda, .tasks] r
          { r with agenda := r.agenda.dropTimers (r.taskId i) } := by
        intro f hf
        cases f <;> first | rfl | simp at hf
      exact (hset.trans (hend.mono (by decide))).trans ((modifies_setStatus _ i .ended).mono (by decide))
    · cases a with
      | prompt id => exact .inr ⟨p, id, resumption, hstatus, rfl⟩
      | time deadline => exact .inl rfl
      | signals all ids deadline => exact .inl rfl
  | ended => simp [step?_ended s ht hstatus] at h

/-! ## Walks -/

/-- The tasks that starting and resuming have added along some moves. -/
def walks (s : Setup) (r : Run) : List Move → List Nat
  | [] => []
  | m :: rest =>
    let r' := r.after s m
    let begun := if m.begins && r.tasks.length < r'.tasks.length then [r.tasks.length] else []
    begun ++ walks s r' rest

lemma begins_after {r : Run} {s : Setup} {m : Move} (hm : m.begins = true)
    (hlength : r.tasks.length < (r.after s m).tasks.length) : r.Begins (r.after s m) := by
  cases m with
  | start =>
    obtain ⟨hsame, -⟩ | ⟨-, hbegins⟩ := r.start_cases s
    · exact absurd hlength (by simp [after, hsame])
    · exact hbegins
  | resume =>
    obtain hsame | ⟨-, hbegins⟩ := r.resume_cases s
    · exact absurd hlength (by simp [after, hsame])
    · exact hbegins
  | _ => simp [Move.begins] at hm

lemma mem_walks_cons {s : Setup} {r : Run} {m : Move} {rest : List Move} {i : Nat}
    (h : i ∈ r.walks s (m :: rest)) :
    (i = r.tasks.length ∧ r.Begins (r.after s m)) ∨ i ∈ (r.after s m).walks s rest := by
  obtain hhead | htail := List.mem_append.mp h
  · split at hhead
    · next hbegun =>
      obtain ⟨hm, hlength⟩ := Bool.and_eq_true_iff.mp hbegun
      exact .inl ⟨List.mem_singleton.mp hhead, begins_after hm (of_decide_eq_true hlength)⟩
    · exact absurd hhead List.not_mem_nil
  · exact .inr htail

/-- A walk has its own token from then on, which was given out when it began. -/
lemma Begins.task {r r₁ r₂ : Run} (h : r.Begins r₁) (hleads : r₁.course.Leads r₂.course) :
    r₁.tokens = r.tokens + 1 ∧ ∃ t, r₂.tasks[r.tasks.length]? = some t ∧ t.token = r.tokens := by
  obtain ⟨t, htoken, hcourse⟩ := h
  refine ⟨congrArg Course.tokens hcourse, ?_⟩
  have htasks : r₁.course.tasks[r.tasks.length]? = some t := by simp [hcourse]
  obtain ⟨status, ht⟩ := hleads.grows.task htasks
  exact ⟨_, ht, htoken⟩

/-- The tokens of walks are given out one after another. -/
lemma walks_token {s : Setup} {r : Run} {moves : List Move} {i : Nat} (hi : i ∈ r.walks s moves) :
    ∃ t, (r.afterAll s moves).tasks[i]? = some t ∧ r.tokens ≤ t.token := by
  induction moves generalizing r with
  | nil => exact absurd hi List.not_mem_nil
  | cons m rest ih =>
    obtain ⟨rfl, hbegins⟩ | hi := mem_walks_cons hi
    · obtain ⟨-, t, ht, htoken⟩ := hbegins.task (course_afterAll _ s rest)
      exact ⟨t, ht, htoken ▸ Nat.le_refl _⟩
    · obtain ⟨t, ht, htoken⟩ := ih hi
      exact ⟨t, ht, Nat.le_trans (r.course_after s m).grows.tokens htoken⟩

/-- Two walks never share a token. -/
lemma walks_unique {s : Setup} {r : Run} {moves : List Move} {i j : Nat} (hi : i ∈ r.walks s moves)
    (hj : j ∈ r.walks s moves) {t u : Task} (ht : (r.afterAll s moves).tasks[i]? = some t)
    (hu : (r.afterAll s moves).tasks[j]? = some u) (htoken : t.token = u.token) : i = j := by
  induction moves generalizing r with
  | nil => exact absurd hi List.not_mem_nil
  | cons m rest ih =>
    -- The token of a walk that begins now is below the tokens of those that begin later.
    have hlater {k l : Nat} {v w : Task} (hk : k = r.tasks.length ∧ r.Begins (r.after s m))
        (hl : l ∈ (r.after s m).walks s rest) (hv : (r.afterAll s (m :: rest)).tasks[k]? = some v)
        (hw : (r.afterAll s (m :: rest)).tasks[l]? = some w) : v.token < w.token := by
      obtain ⟨rfl, hbegins⟩ := hk
      obtain ⟨htokens, v', hv', hvtoken⟩ := hbegins.task (course_afterAll _ s rest)
      obtain ⟨w', hw', hwtoken⟩ := walks_token hl
      obtain rfl : v' = v := Option.some.inj (hv'.symm.trans hv)
      obtain rfl : w' = w := Option.some.inj (hw'.symm.trans hw)
      omega
    obtain hi | hi := mem_walks_cons hi <;> obtain hj | hj := mem_walks_cons hj
    · exact hi.1.trans hj.1.symm
    · exact absurd htoken (Nat.ne_of_lt (hlater hi hj ht hu))
    · exact absurd htoken.symm (Nat.ne_of_lt (hlater hj hi hu ht))
    · exact ih hi hj ht hu

/-! ## Cancelled branches -/

/-- Whatever happens to a run, every later step of a task whose token is cancelled ends it and does nothing else.
A token that is not cancelled is the current one of a running run, and no two walks that starting or resuming have
begun may go on at the same time. -/
theorem cancelled_tasks_frozen (x : Ensemble) (s : Setup) (moves : List Move) :
    let r := (x.newRun s).afterAll s moves
    (∀ (later : List Move) (i : Nat) (t : Task), r.tasks[i]? = some t → r.isCancelled t.token = true →
      let q := r.afterAll s later
      ∃ u, q.tasks[i]? = some u ∧ u.token = t.token ∧ q.isCancelled u.token = true ∧
        (u.hasEnded = false → (q.step? s i).isSome = true) ∧
        ∀ q', q.step? s i = some q' → Frozen i u q q') ∧
    (∀ t ∈ r.tasks, r.isCancelled t.token = false → r.state = .running ∧ t.token = r.token) ∧
    (∀ i ∈ (x.newRun s).walks s moves, ∀ j ∈ (x.newRun s).walks s moves, ∀ t u,
      r.tasks[i]? = some t → r.tasks[j]? = some u → r.isCancelled t.token = false →
      r.isCancelled u.token = false → i = j) := by
  intro r
  have hsound : r.course.Sound := sound_afterAll x s moves
  have hlive : ∀ t ∈ r.tasks, r.isCancelled t.token = false → r.state = .running ∧ t.token = r.token := by
    intro t ht hlive
    exact hsound.live t ht fun hin => by simp [isCancelled, show t.token ∈ r.cancelled from hin] at hlive
  refine ⟨fun later i t ht hcancelled => ?_, hlive, fun i hi j hj t u ht hu htlive hulive => ?_⟩
  · have hgrows := (r.course_afterAll s later).grows
    obtain ⟨status, hu⟩ := hgrows.task ht
    have hstill : (r.afterAll s later).isCancelled t.token = true := by
      have hin : t.token ∈ r.cancelled := by simpa [isCancelled] using hcancelled
      have hlater : t.token ∈ (r.afterAll s later).cancelled := hgrows.cancelled hin
      simpa [isCancelled] using hlater
    exact ⟨_, hu, rfl, hstill, step?_isSome s hu hstill, fun q' hq' => frozen_step hu hstill hq'⟩
  · have htoken := (hlive t (List.mem_of_getElem? ht) htlive).2
    have hutoken := (hlive u (List.mem_of_getElem? hu) hulive).2
    exact walks_unique hi hj ht hu (htoken.trans hutoken.symm)

/-- A branch that waits for the host when its run is paused; after the run is resumed, its step only ends it. -/
theorem cancelled_tasks_frozen_waitNext :
    let s : Setup :=
      { definition :=
          { scenarioId := 1, content := { entry := "a", nodes := [("a", Node.ofPrimitive .waitNext)] } }
        folder := [] }
    let x : Ensemble := { files := {} }
    let q := ((x.newRun s).afterAll s [.start, .step 0, .pause]).afterAll s [.resume]
    ∃ u, q.tasks[0]? = some u ∧ u.await? = some (.prompt 1) ∧ q.isCancelled u.token = true ∧
      ∀ q', q.step? s 0 = some q' → Frozen 0 u q q' := by
  intro s x q
  let r := (x.newRun s).afterAll s [.start, .step 0, .pause]
  have htoken : r.tasks[0]?.map (·.token) = some 1 := by decide +kernel
  have hcancelled : r.isCancelled 1 = true := by decide +kernel
  have hawait : q.tasks[0]?.bind Task.await? = some (.prompt 1) := by decide +kernel
  obtain ⟨t, ht, htoken⟩ := Option.map_eq_some_iff.mp htoken
  obtain ⟨u, hu, -, hstill, -, hfrozen⟩ :=
    (cancelled_tasks_frozen x s [.start, .step 0, .pause]).1 [.resume] 0 t ht (htoken ▸ hcancelled)
  refine ⟨u, hu, ?_, hstill, hfrozen⟩
  simpa [show q.tasks[0]? = some u from hu] using hawait

end Run

end FieldStudy
