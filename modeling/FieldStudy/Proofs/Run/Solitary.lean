import Mathlib.Data.List.Basic
import Mathlib.Logic.Relation
import Mathlib.Tactic.Common
import FieldStudy.Proofs.Run.Asking
import FieldStudy.Proofs.Run.Endings
import FieldStudy.Proofs.Run.Suspensions
import FieldStudy.Proofs.Run.Walks

/-!
# Runs without forks

Without forks one task at most goes on at any time, and it is the last one (`Run.Lone`).  Prompts are numbered one
after another, so the prompt that this task waits for is its own, and it stays pending until it is answered
(`Run.Prompted`).
-/

namespace FieldStudy

/-! ## Definitions without forks -/

/-- No node is a fork. -/
def Definition.ForkFree (d : Definition) : Prop := ∀ id node, d.node? id = some node → node.primitive ≠ .fork

lemma Action.decoder_fork {p : PrimitiveName} {source : Source} {branch : String}
    (h : decoder p source = some (.fork branch)) : p = .fork := by
  cases p <;> first
    | rfl
    | simp [decoder, joinDecoder, delayDecoder, choiceDecoder, sleepDecoder, displayDecoder, progressDecoder,
        eventDecoder, counterDecoder, metadataDecoder, logDecoder, recordDecoder, selectDecoder, setConfigDecoder,
        dumpConfigDecoder, pauseDecoder, Option.bind_eq_some_iff] at h

lemma Definition.ForkFree.action {d : Definition} (h : d.ForkFree) {id : String} {node : Node} {a : Action}
    (hnode : d.node? id = some node) (haction : Action.ofNode node = .ok a) (branch : String) : a ≠ .fork branch := by
  rintro rfl
  rw [Action.ofNode] at haction
  split at haction
  · next b hdecode =>
    obtain rfl := Except.ok.inj haction
    exact h id node hnode (Action.decoder_fork hdecode)
  · cases haction

namespace Run

variable {r r' q : Run} {s : Setup} {i : Nat} {t : Task}

lemma taken?_ne_fork (hforks : s.definition.ForkFree) (i : Nat) (branch : String) :
    r.taken? s (.step i) ≠ some (.fork branch) := by
  intro h
  obtain ⟨t, p, -, -, haction⟩ := taken?_step_iff.mp h
  obtain ⟨-, node, hnode, hok, -⟩ := action?_eq_some_iff.mp haction
  exact hforks.action hnode hok branch rfl

/-- Only starting and resuming add a task to a run without forks. -/
lemma length_after_le (hforks : s.definition.ForkFree) {m : Move} (hstart : m ≠ .start) (hresume : m ≠ .resume) :
    (r.after s m).tasks.length ≤ r.tasks.length := by
  by_contra hmore
  obtain ⟨t, ht⟩ : ∃ t, (r.after s m).tasks[r.tasks.length]? = some t :=
    ⟨_, List.getElem?_eq_getElem (Nat.lt_of_not_le hmore)⟩
  cases (r.adds_after s m).origin t ht with
  | starts => exact hstart rfl
  | resumes => exact hresume rfl
  | forks _ _ _ htaken => exact taken?_ne_fork hforks _ _ htaken

/-! ## The task that goes on -/

/-- Whoever may go on is the last task, and walks the main branch. -/
def Lone (r : Run) : Prop :=
  ∀ i t, r.tasks[i]? = some t → r.isCancelled t.token = false → i + 1 = r.tasks.length ∧ t.branch = mainBranch

/-- A task that was there before a move, as it was then. -/
lemma task_before {m : Move} {t : Task} (ht : (r.after s m).tasks[i]? = some t) (hi : i < r.tasks.length) :
    ∃ u status, r.tasks[i]? = some u ∧ t = { u with status } := by
  obtain ⟨u, hu⟩ : ∃ u, r.tasks[i]? = some u := ⟨_, List.getElem?_eq_getElem hi⟩
  obtain ⟨status, hlater⟩ := (r.course_after s m).grows.task hu
  exact ⟨u, status, hu, Option.some.inj (ht.symm.trans hlater)⟩

lemma isCancelled_before {m : Move} {token : Nat} (h : (r.after s m).isCancelled token = false) :
    r.isCancelled token = false := by
  by_contra hcancelled
  rw [isCancelled_of_grows (r.course_after s m).grows (by simpa using hcancelled)] at h
  cases h

lemma lone_after (hforks : s.definition.ForkFree) (hsound : r.course.Sound) (hlone : r.Lone) (m : Move) :
    (r.after s m).Lone := by
  have hadds := r.adds_after s m
  intro i t ht hlive
  obtain hold | hnew := Nat.lt_or_ge i r.tasks.length
  · obtain ⟨u, status, hu, rfl⟩ := task_before ht hold
    have hbefore : r.isCancelled u.token = false := isCancelled_before hlive
    obtain ⟨hlast, hmain⟩ := hlone i u hu hbefore
    have hrunning := (current_of_live hsound (List.mem_of_getElem? hu) hbefore).1
    refine ⟨?_, hmain⟩
    -- A task that is added comes from a start or a resumption of a run that is not running.
    have hlength : (r.after s m).tasks.length ≤ r.tasks.length := by
      by_contra hmore
      obtain ⟨v, hv⟩ : ∃ v, (r.after s m).tasks[r.tasks.length]? = some v :=
        ⟨_, List.getElem?_eq_getElem (Nat.lt_of_not_le hmore)⟩
      cases hadds.origin v hv with
      | starts h => simp [h] at hrunning
      | resumes h => simp [h] at hrunning
      | forks _ _ _ htaken => exact taken?_ne_fork hforks _ _ htaken
    have hi := (List.getElem?_eq_some_iff.mp ht).1
    omega
  · have hi := (List.getElem?_eq_some_iff.mp ht).1
    have hlength := hadds.length
    obtain rfl : i = r.tasks.length := by omega
    refine ⟨by omega, ?_⟩
    cases hadds.origin t ht with
    | starts => rfl
    | resumes => rfl
    | forks _ _ _ htaken => exact absurd htaken (taken?_ne_fork hforks _ _)

lemma lone_afterAll (hforks : s.definition.ForkFree) (x : Ensemble) (moves : List Move) :
    ((x.newRun s).afterAll s moves).Lone := by
  induction moves using List.reverseRecOn with
  | nil => exact fun i t ht => by cases ht
  | append_singleton moves m ih =>
    rw [afterAll_snoc]
    exact lone_after hforks (sound_afterAll x s moves) ih m

end Run

/-! ## Numbers of prompts -/

namespace Prompts

/-- An operation of a run on its prompts, apart from answers. -/
inductive Change (p : Prompts) : Prompts → Prop
  | issue : Change p p.issue
  | discard (id : Nat) : Change p (p.discard id)
  | clear : Change p p.clear

/-- Operations one after another. -/
def Leads : Prompts → Prompts → Prop := Relation.ReflTransGen Change

variable {p p' : Prompts}

lemma Leads.of_eq (h : p' = p) : p.Leads p' := h ▸ Relation.ReflTransGen.refl

lemma Leads.trans {p'' : Prompts} (h : p.Leads p') (h' : p'.Leads p'') : p.Leads p'' :=
  Relation.ReflTransGen.trans h h'

lemma Change.leads (h : p.Change p') : p.Leads p' := Relation.ReflTransGen.single h

/-- No number is in use that has not been given out, and no prompt has been deserted. -/
structure Numbered (p : Prompts) : Prop where
  pending : ∀ id ∈ p.pending, id ≤ p.issued
  answers : ∀ x ∈ p.answers, x.1 ≤ p.issued
  deserted : p.deserted = []

lemma Numbered.change (h : p.Numbered) (hchange : p.Change p') : p'.Numbered := by
  cases hchange with
  | issue =>
    refine ⟨fun id hid => ?_, fun x hx => Nat.le_succ_of_le (h.answers x hx), h.deserted⟩
    obtain hid | hid := List.mem_append.mp hid
    · exact Nat.le_succ_of_le (h.pending id hid)
    · exact Nat.le_of_eq (List.mem_singleton.mp hid)
  | discard id =>
    exact ⟨fun other hother => h.pending other (List.mem_filter.mp hother).1,
      fun x hx => h.answers x (List.mem_filter.mp hx).1, h.deserted⟩
  | clear => exact ⟨fun id hid => absurd hid List.not_mem_nil, h.answers, h.deserted⟩

lemma Numbered.leads (h : p.Numbered) (hleads : p.Leads p') : p'.Numbered := by
  induction hleads with
  | refl => exact h
  | tail _ hchange ih => exact ih.change hchange

lemma issued_le_of_leads (h : p.Leads p') : p.issued ≤ p'.issued := by
  induction h with
  | refl => exact Nat.le_refl _
  | tail _ hchange ih =>
    refine Nat.le_trans ih ?_
    cases hchange with
    | issue => exact Nat.le_succ _
    | discard id => exact Nat.le_refl _
    | clear => exact Nat.le_refl _

lemma Numbered.answer (h : p.Numbered) (id : Nat) (a : Answer) : (p.answer id a).Numbered := by
  rw [Prompts.answer]
  split
  · next hid =>
    have hpending : id ∈ p.pending := by simpa [isPending] using hid
    refine ⟨fun other hother => h.pending other (List.mem_filter.mp hother).1, fun x hx => ?_, h.deserted⟩
    split at hx
    · exact h.answers x hx
    · obtain hx | hx := List.mem_append.mp hx
      · exact h.answers x hx
      · obtain rfl := List.mem_singleton.mp hx
        exact h.pending id hpending
  · exact h

lemma issued_answer (p : Prompts) (id : Nat) (a : Answer) : (p.answer id a).issued = p.issued := by
  rw [Prompts.answer]
  split <;> rfl

lemma answer?_discard {id other : Nat} (hne : id ≠ other) : (p.discard other).answer? id = p.answer? id := by
  have hsame : (fun x : Nat × Answer => decide ((x.1 != other) = true ∧ (x.1 == id) = true)) = (·.1 == id) := by
    funext x
    by_cases hx : x.1 = id
    · simp [hx, hne]
    · simp [hx]
  rw [answer?, Prompts.discard, List.find?_filter, hsame, answer?]

/-- Somebody who waits for the prompt will hear, or can hear now. -/
def Hears (p : Prompts) (id : Nat) : Prop := p.isPending id = true ∨ (p.answer? id).isSome = true

lemma Hears.discard {id other : Nat} (h : p.Hears id) (hne : id ≠ other) : (p.discard other).Hears id := by
  obtain hpending | hanswer := h
  · left
    have hmem : id ∈ p.pending := by simpa [isPending] using hpending
    simp [isPending, Prompts.discard, hmem, hne]
  · right
    rwa [answer?_discard hne]

lemma Hears.answer {id : Nat} (h : p.Hears id) (hdeserted : p.deserted = []) (other : Nat) (a : Answer) :
    (p.answer other a).Hears id := by
  rw [Prompts.answer]
  split
  · rw [if_neg (by simp [hdeserted])]
    obtain hpending | hanswer := h
    · have hmem : id ∈ p.pending := by simpa [isPending] using hpending
      by_cases heq : id = other
      · right
        simp [answer?, List.find?_append, heq]
      · left
        simp [isPending, hmem, heq]
    · right
      rw [answer?] at hanswer ⊢
      dsimp only
      rw [List.find?_append]
      cases hfind : p.answers.find? (·.1 == id) with
      | none => simp [hfind] at hanswer
      | some x => simp
  · exact h

lemma hears_issue (p : Prompts) : p.issue.Hears p.issue.issued := .inl (by simp [isPending, issue])

end Prompts

namespace Run

variable {r r' q : Run} {s : Setup} {i : Nat} {t : Task}

/-! ## Prompts of a run -/

lemma Leaves.leads (h : Leaves r r') : r.prompts.Leads r'.prompts := by
  cases h with
  | quiet hprompts => exact .of_eq hprompts
  | clears hprompts => exact Prompts.Change.clear.leads.trans (.of_eq hprompts)

lemma Comes.prompts {x : Outcome × Run} (h : Comes r x) : r.prompts.Leads x.2.prompts := by
  cases h with
  | ends _ hprompts => exact .of_eq hprompts
  | waits _ _ hq => exact .of_eq (hq .prompts (by decide))
  | asks _ hprompts => exact (Prompts.Change.issue.leads).trans (.of_eq hprompts)

lemma leads_prompts_awake (r : Run) (i : Nat) (a : Await) : r.prompts.Leads (r.awake i a).prompts := by
  cases a with
  | prompt id => exact (Prompts.Change.discard id).leads
  | time deadline => exact .of_eq rfl
  | signals all ids deadline => exact .of_eq rfl

/-- What the work on an action does to the prompts, and to all else as long as the action waits.  The work begins with
a prompt taken away if the task waited for one. -/
structure Works (r : Run) (o : Outcome) (q : Run) : Prop where
  prompts : r.prompts.Leads q.prompts
  waits : ∀ a resumption, o = .waits a resumption →
    ∃ r₁, r.prompts.Leads r₁.prompts ∧ r₁.bare = r.bare ∧ Comes r₁ (.waits a resumption, q)

lemma Comes.works {r₁ : Run} {x : Outcome × Run} (h : Comes r₁ x) (hprompts : r.prompts.Leads r₁.prompts)
    (hbare : r₁.bare = r.bare) : Works r x.1 x.2 := by
  obtain ⟨o, q⟩ := x
  refine ⟨hprompts.trans h.prompts, ?_⟩
  rintro a resumption rfl
  exact ⟨r₁, hprompts, hbare, h⟩

lemma works_of_ne {o : Outcome} (hprompts : r.prompts.Leads q.prompts) (ho : ∀ a resumption, o ≠ .waits a resumption) :
    Works r o q :=
  ⟨hprompts, fun a resumption h => absurd h (ho a resumption)⟩

lemma works_execute (hbackend : s.backend.Plain) (r : Run) (v : Visit) {a : Action}
    (hfork : ∀ branch, a ≠ .fork branch) : Works r (r.execute s v a).1 (r.execute s v a).2 := by
  by_cases habort : ∃ info, a = .abort info
  · obtain ⟨info, rfl⟩ := habort
    have hstop := (leaves_stop (r.updateMetadata fun m => { m with abort := some info }) s (some (.aborted info))).leads
    exact works_of_ne hstop fun _ _ => Outcome.noConfusion
  · exact (comes_execute hbackend r v hfork fun info h => habort ⟨info, h⟩).works (.of_eq rfl) rfl

lemma works_proceed (hbackend : s.backend.Plain) (r : Run) (i : Nat) (a : Await) (result : Except ScenarioError Int)
    (resumption : Resumption) :
    Works r ((r.awake i a).proceed s result resumption).1 ((r.awake i a).proceed s result resumption).2 := by
  have hawake := r.leads_prompts_awake i a
  have hbare : (r.awake i a).bare = r.bare :=
    (modifies_endWait { r with agenda := r.agenda.dropTimers (r.taskId i) } a).bare (by decide)
  by_cases hcancelled : result = .error .cancelled
  · subst hcancelled
    exact works_of_ne hawake fun _ _ => Outcome.noConfusion
  · exact (comes_proceed hbackend (r.awake i a) hcancelled resumption).works hawake hbare

lemma Worked.works (hforks : s.definition.ForkFree) (hbackend : s.backend.Plain) {p : Point} {turn : Turn}
    (h : r.Worked s i t p turn q) :
    r.prompts.Leads q.prompts ∧ ∀ node o, turn = .acted node o → Works r o q := by
  cases h with
  | enters hstatus hnone =>
    refine ⟨.of_eq rfl, fun node o hturn => works_of_ne (.of_eq rfl) ?_⟩
    rintro a resumption rfl
    have hended := (entry_of_none hnone).2
    rw [hturn] at hended
    cases hended
  | @takes node a hstatus hnode haction =>
    obtain ⟨-, node', hnode', hok, -⟩ := action?_eq_some_iff.mp haction
    obtain rfl : node' = node := Option.some.inj (hnode'.symm.trans hnode)
    have hworks := works_execute hbackend ({ r with point := some p } : Run) ⟨t.branch, p.node, node', t.token⟩
      (hforks.action hnode hok)
    refine ⟨hworks.prompts, ?_⟩
    rintro node o hturn
    obtain ⟨-, rfl⟩ := Turn.acted.inj hturn
    exact ⟨hworks.prompts, hworks.waits⟩
  | @goesOn a resumption result hstatus hresult =>
    have hworks := works_proceed hbackend r i a result resumption
    refine ⟨hworks.prompts, ?_⟩
    rintro node o hturn
    rw [sequel] at hturn
    split at hturn
    · obtain ⟨-, rfl⟩ := Turn.acted.inj hturn
      exact hworks
    · cases hturn

/-! ## The prompt that is waited for -/

/-- Prompts and those who wait for them: no two tasks wait for one prompt, and who may go on will hear of it. -/
structure Prompted (r : Run) : Prop where
  numbered : r.prompts.Numbered
  issued : ∀ (i : Nat) (t : Task) (id : Nat), r.tasks[i]? = some t → t.await? = some (.prompt id) →
    id ≤ r.prompts.issued
  heard : ∀ (i : Nat) (t : Task) (id : Nat), r.tasks[i]? = some t → r.isCancelled t.token = false →
    t.await? = some (.prompt id) →
    r.prompts.Hears id ∧ ∀ (j : Nat) (u : Task), r.tasks[j]? = some u → u.await? = some (.prompt id) → j = i

/-- Nobody has begun to wait for a prompt. -/
lemma Prompted.kept (h : r.Prompted) (hnumbered : r'.prompts.Numbered) (hissued : r.prompts.issued ≤ r'.prompts.issued)
    (htasks : ∀ (i : Nat) (t : Task) (id : Nat), r'.tasks[i]? = some t → t.await? = some (.prompt id) →
      r.tasks[i]? = some t)
    (hheard : ∀ (i : Nat) (t : Task) (id : Nat), r'.tasks[i]? = some t → r'.isCancelled t.token = false →
      t.await? = some (.prompt id) →
      r.isCancelled t.token = false ∧ (r.prompts.Hears id → r'.prompts.Hears id)) : r'.Prompted where
  numbered := hnumbered
  issued i t id ht ha := Nat.le_trans (h.issued i t id (htasks i t id ht ha) ha) hissued
  heard i t id ht hlive ha := by
    obtain ⟨hbefore, hhears⟩ := hheard i t id ht hlive ha
    obtain ⟨hhear, hown⟩ := h.heard i t id (htasks i t id ht ha) hbefore ha
    exact ⟨hhears hhear, fun j u hu hua => hown j u (htasks j u id hu hua) hua⟩

/-- A task that waits after a move has waited before, unless it has taken a step. -/
lemma waits_before {m : Move} {a : Await} (hm : ¬ r.Steps s i m) (ht : (r.after s m).tasks[i]? = some t)
    (ha : t.await? = some a) : r.tasks[i]? = some t := by
  have hadds := r.adds_after s m
  obtain hold | hnew := Nat.lt_or_ge i r.tasks.length
  · obtain ⟨u, hu⟩ : ∃ u, r.tasks[i]? = some u := ⟨_, List.getElem?_eq_getElem hold⟩
    rw [task_after hu hm] at ht
    rw [hu, ht]
  · have hi := (List.getElem?_eq_some_iff.mp ht).1
    obtain rfl : i = r.tasks.length := by have := hadds.length; omega
    obtain ⟨first, hstatus⟩ := (hadds.origin t ht).first
    simp [Task.await?, hstatus] at ha

lemma prompted_of_frozen (h : r.Prompted) (ht : r.tasks[i]? = some t)
    (hfrozen : Frozen i t r r') : r'.Prompted := by
  have hcancelled (token : Nat) : r'.isCancelled token = r.isCancelled token :=
    congrArg (·.contains token) (hfrozen.rest .cancelled (by decide))
  have htasks {j : Nat} {u : Task} {id : Nat} (hu : r'.tasks[j]? = some u) (ha : u.await? = some (.prompt id)) :
      r.tasks[j]? = some u ∧ j ≠ i := by
    rw [hfrozen.tasks, List.getElem?_modify] at hu
    by_cases hij : i = j
    · obtain ⟨v, hv, rfl⟩ := Option.map_eq_some_iff.mp hu
      simp [Task.await?, hij] at ha
    · exact ⟨by simpa [hij] using hu, Ne.symm hij⟩
  have hleads : r.prompts.Leads r'.prompts := by
    obtain hsame | ⟨-, id, -, -, hdiscard⟩ := hfrozen.prompts
    · exact .of_eq hsame
    · rw [hdiscard]
      exact (Prompts.Change.discard id).leads
  refine h.kept (h.numbered.leads hleads) (Prompts.issued_le_of_leads hleads) (fun j u id hu ha => (htasks hu ha).1) ?_
  intro j u id hu hlive ha
  obtain ⟨hbefore, hne⟩ := htasks hu ha
  rw [hcancelled] at hlive
  refine ⟨hlive, fun hhears => ?_⟩
  obtain hsame | ⟨p, other, resumption, hstatus, hdiscard⟩ := hfrozen.prompts
  · rwa [hsame]
  · -- The prompt that is given up is not the one that is waited for.
    rw [hdiscard]
    refine hhears.discard ?_
    rintro rfl
    exact hne ((h.heard j u id hbefore hlive ha).2 i t ht (by simp [Task.await?, hstatus])).symm

lemma prompted_step (hforks : s.definition.ForkFree) (hbackend : s.backend.Plain) (hlone : r.Lone) (h : r.Prompted)
    (hstep : r.step? s i = some r') : r'.Prompted := by
  obtain ⟨t, p, turn, q, ht, hturn, hworked, hclose⟩ := step_cases hstep
  have hafter : r.after s (.step i) = r' := by rw [after, hstep, Option.getD_some]
  by_cases hcancelled : r.isCancelled t.token = true
  · exact prompted_of_frozen h ht (frozen_step ht hcancelled hstep)
  · have hlast := (hlone i t ht (by simpa using hcancelled)).1
    obtain ⟨hleads, hworks⟩ := hworked.works hforks hbackend
    have hall : r.prompts.Leads r'.prompts := hclose ▸ hleads.trans (q.leaves_close s i t p turn).leads
    -- What the task itself waits for has just been asked.
    have hasked (u : Task) (id : Nat) (hu : r'.tasks[i]? = some u) (ha : u.await? = some (.prompt id)) :
        r.prompts.issued < id ∧ id ≤ r'.prompts.issued ∧ r'.prompts.Hears id := by
      rw [← hafter, task_step ht hturn] at hu
      obtain rfl := Option.some.inj hu
      cases turn with
      | acted node o =>
        cases o with
        | waits a resumption =>
          obtain rfl : a = .prompt id := by simpa [Task.await?, Turn.status] using ha
          obtain ⟨r₁, hbegun, -, hcomes⟩ := (hworks node _ rfl).waits _ _ rfl
          have hprompts : r'.prompts = q.prompts := by
            rw [hclose, close, follow, suspend]
            rfl
          cases hcomes with
          | ends ho => exact ho.elim
          | waits _ ha => cases ha
          | asks _ hissue =>
            rw [hprompts, hissue]
            exact ⟨Nat.lt_succ_of_le (Prompts.issued_le_of_leads hbegun), Nat.le_refl _, r₁.prompts.hears_issue⟩
        | done code => cases hnext : node.successor? code <;> simp [Task.await?, Turn.status, hnext] at ha
        | fails e => simp [Task.await?, Turn.status] at ha
      | _ => simp [Task.await?, Turn.status] at ha
    have hothers {j : Nat} {u : Task} {id : Nat} (hij : j ≠ i) (hu : r'.tasks[j]? = some u)
        (ha : u.await? = some (.prompt id)) : r.tasks[j]? = some u :=
      waits_before (m := .step i) (fun hm => hij (Move.step.inj hm.1).symm) (hafter ▸ hu) ha
    refine ⟨h.numbered.leads hall, fun j u id hu ha => ?_, fun j u id hu hlive ha => ?_⟩
    · by_cases hij : j = i
      · exact (hasked u id (hij ▸ hu) ha).2.1
      · exact Nat.le_trans (h.issued j u id (hothers hij hu ha) ha) (Prompts.issued_le_of_leads hall)
    · -- Nobody else may go on.
      have hji : j = i := by
        by_contra hij
        have hbefore := isCancelled_before (m := .step i) (hafter ▸ hlive)
        have := (hlone j u (hothers hij hu ha) hbefore).1
        omega
      subst hji
      obtain ⟨hlt, -, hhears⟩ := hasked u id hu ha
      refine ⟨hhears, fun k v hv hva => ?_⟩
      by_contra hkj
      exact absurd (h.issued k v id (hothers hkj hv hva) hva) (Nat.not_le_of_lt hlt)

/-- What the host does to the prompts, apart from answers. -/
lemma leads_prompts_host (r : Run) (s : Setup) {m : Move} (hstep : ∀ i, m ≠ .step i)
    (hanswer : ∀ id a, m ≠ .answer id a) :
    r.prompts.Leads (r.after s m).prompts := by
  obtain ⟨shared, rfl⟩ | hown := m.others_or_own
  · exact .of_eq rfl
  · exact (r.leaves_host s hstep hanswer hown).leads

/-- Who waits for a prompt after a move of the host, and may go on, could go on before, and his prompts are as they were
unless the host has answered one. -/
lemma prompts_of_live {m : Move} (hsound : r.course.Sound) (hstep : ∀ i, m ≠ .step i)
    (hanswer : ∀ id a, m ≠ .answer id a)
    (ht : r.tasks[i]? = some t) (hlive : (r.after s m).isCancelled t.token = false) :
    (r.after s m).prompts = r.prompts := by
  have hbefore := current_of_live hsound (List.mem_of_getElem? ht) (isCancelled_before hlive)
  obtain ⟨status, hu⟩ := (r.course_after s m).grows.task ht
  have hrunning : (r.after s m).state = .running :=
    (current_of_live (hsound.leads (r.course_after s m)) (List.mem_of_getElem? hu) hlive).1
  cases m with
  | start => rw [after, start, if_pos (by simp [hbefore.1])]
  | pause => exact r.modifies_pause s .prompts (by decide)
  | resume => rw [after, resume, if_pos (by simp [hbefore.1])]
  | stop error =>
    rw [show (r.after s (.stop error)).state = .stopped from r.state_stop s error] at hrunning
    cases hrunning
  | answer id a => exact absurd rfl (hanswer id a)
  | sample role sensor timestamp values => exact r.modifies_sample role sensor timestamp values .prompts (by decide)
  | step i => exact absurd rfl (hstep i)
  | others shared => rfl

lemma prompted_after (hforks : s.definition.ForkFree) (hbackend : s.backend.Plain) (hsound : r.course.Sound)
    (hlone : r.Lone) (h : r.Prompted) (m : Move) : (r.after s m).Prompted := by
  by_cases hstep : ∃ i, m = .step i
  · obtain ⟨i, rfl⟩ := hstep
    rw [after]
    cases hnext : r.step? s i with
    | none => exact h
    | some r' => exact prompted_step hforks hbackend hlone h hnext
  · have hkept {i : Nat} {t : Task} {a : Await} (ht : (r.after s m).tasks[i]? = some t) (ha : t.await? = some a) :
        r.tasks[i]? = some t := waits_before (fun hm => hstep ⟨i, hm.1⟩) ht ha
    by_cases hanswer : ∃ id a, m = .answer id a
    · obtain ⟨id, a, rfl⟩ := hanswer
      have hprompts : (r.after s (.answer id a)).prompts = r.prompts.answer id a := r.prompts_answer id a
      refine h.kept ?_ ?_ (fun i t id ht ha => hkept ht ha) fun i t id' ht hlive _ => ⟨isCancelled_before hlive, ?_⟩
      · rw [hprompts]
        exact h.numbered.answer id a
      · rw [hprompts, Prompts.issued_answer]
      · rw [hprompts]
        exact fun hhears => hhears.answer h.numbered.deserted id a
    · have hleads := r.leads_prompts_host s (fun i hm => hstep ⟨i, hm⟩) fun id a hm => hanswer ⟨id, a, hm⟩
      refine h.kept (h.numbered.leads hleads) (Prompts.issued_le_of_leads hleads) (fun i t id ht ha => hkept ht ha)
        fun i t id ht hlive ha => ⟨isCancelled_before hlive, ?_⟩
      have hsame := prompts_of_live hsound (fun i hm => hstep ⟨i, hm⟩) (fun id a hm => hanswer ⟨id, a, hm⟩)
        (hkept ht ha)
        hlive
      rw [hsame]
      exact fun hhears => hhears

/-- The invariant holds in every reachable state. -/
lemma prompted_afterAll (hforks : s.definition.ForkFree) (hbackend : s.backend.Plain) (x : Ensemble)
    (moves : List Move) :
    ((x.newRun s).afterAll s moves).Prompted := by
  induction moves using List.reverseRecOn with
  | nil =>
    refine ⟨⟨fun id hid => ?_, fun y hy => ?_, rfl⟩, fun i t id ht => ?_, fun i t id ht => ?_⟩
    · cases hid
    · cases hy
    · cases ht
    · cases ht
  | append_singleton moves m ih =>
    rw [afterAll_snoc]
    exact prompted_after hforks hbackend (sound_afterAll x s moves) (lone_afterAll hforks x moves) ih m

end Run

end FieldStudy
