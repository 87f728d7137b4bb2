import Mathlib.Data.List.Basic
import Mathlib.Data.List.Induction
import Mathlib.Tactic.Common
import FieldStudy.Proofs.Run.Asking
import FieldStudy.Proofs.Run.Solitary

/-!
# Pending prompts

A task waits for the prompt that its last step has asked for, and every prompt that is pending is waited for, whatever
the order of moves (`Run.attended_afterAll`).  So an answer is refused only where no prompt is pending, and changes
nothing then.
-/

namespace FieldStudy

namespace Run

variable {r r' q : Run} {s : Setup} {i : Nat} {t : Task}

/-! ## Who waits -/

/-- A task that has taken no step waits for what it has waited for. -/
lemma awaits_after {m : Move} {j id : Nat} (hm : ¬ r.Steps s j m) :
    (r.after s m).Awaits j id ↔ r.Awaits j id := by
  constructor
  · rintro ⟨t, ht, ha⟩
    exact ⟨t, waits_before hm ht ha, ha⟩
  · rintro ⟨t, ht, ha⟩
    exact ⟨t, task_after ht hm, ha⟩

lemma Turn.await?_status {p : Point} {turn : Turn} {id : Nat} :
    ({ t with status := turn.status p } : Task).await? = some (.prompt id) ↔ turn.prompt? = some id := by
  cases turn with
  | acted node o =>
    cases o with
    | waits a resumption => cases a <;> simp [Task.await?, Turn.status, Turn.prompt?, Outcome.prompt?]
    | done code =>
      cases hnext : node.successor? code <;>
        simp [Task.await?, Turn.status, Turn.prompt?, Outcome.prompt?, hnext]
    | fails e => simp [Task.await?, Turn.status, Turn.prompt?, Outcome.prompt?]
  | _ => simp [Task.await?, Turn.status, Turn.prompt?]

/-- A task that has taken a step waits for the prompt that it has asked for. -/
lemma awaits_step {j id : Nat} (hstep : r.step? s i = some r') :
    r'.Awaits j id ↔ (j ≠ i ∧ r.Awaits j id) ∨ r.asks? s (.step i) = some (j, id) := by
  obtain ⟨t, p, turn, q, ht, hturn, -⟩ := step_cases hstep
  have hafter : r.after s (.step i) = r' := by rw [after, hstep, Option.getD_some]
  have hown : r'.tasks[i]? = some { t with status := turn.status p } := hafter ▸ task_step ht hturn
  rw [asks?_of_turn? hturn]
  by_cases hij : j = i
  · subst hij
    have hwaits : r'.Awaits j id ↔ turn.prompt? = some id := by
      rw [← Turn.await?_status (t := t) (p := p)]
      constructor
      · rintro ⟨u, hu, ha⟩
        exact Option.some.inj (hu.symm.trans hown) ▸ ha
      · intro ha
        exact ⟨_, hown, ha⟩
    simp [hwaits]
  · have hothers : (r.after s (.step i)).Awaits j id ↔ r.Awaits j id :=
      awaits_after fun hm => hij (Move.step.inj hm.1).symm
    rw [hafter] at hothers
    simp [hothers, hij, Ne.symm hij]

lemma node_of_turn? {p : Point} {node : Node} {o : Outcome} (h : r.turn? s i = some (p, .acted node o)) :
    s.definition.node? p.node = some node := by
  obtain ⟨t, ht, h⟩ := Option.bind_eq_some_iff.mp h
  split at h
  · next p' hstatus =>
    obtain ⟨rfl, hentry⟩ := Prod.mk.inj (Option.some.inj h)
    rw [entry] at hentry
    split at hentry
    · cases hentry
    · split at hentry
      · cases hentry
      · next node' hnode =>
        split at hentry
        · exact (Turn.acted.inj hentry).1 ▸ hnode
        · split at hentry
          · cases hentry
          · exact (Turn.acted.inj hentry).1 ▸ hnode
  · next p' a resumption hstatus =>
    obtain ⟨result, -, h⟩ := Option.map_eq_some_iff.mp h
    obtain ⟨rfl, hsequel⟩ := Prod.mk.inj h
    rw [sequel] at hsequel
    split at hsequel
    · next node' hnode => exact (Turn.acted.inj hsequel).1 ▸ hnode
    · cases hsequel
  · cases h

/-! ## Pending prompts -/

/-- Every pending prompt is waited for, at a node of the scenario, and a run that has stopped has none. -/
structure Attended (s : Setup) (r : Run) : Prop where
  placed : ∀ t ∈ r.tasks, ∀ p a resumption, t.status = .waiting p a resumption →
    (s.definition.node? p.node).isSome = true
  deserted : r.prompts.deserted = []
  waited : ∀ id ∈ r.prompts.pending, ∃ i, r.Awaits i id
  rests : r.state = .stopped → r.prompts.pending = []

lemma dropped_eq (ht : r.tasks[i]? = some t) : r.dropped t = r.prompts ∨ ∃ id, r.Awaits i id ∧
    r.dropped t = r.prompts.discard id := by
  rw [dropped]
  split
  · next id ha => exact .inr ⟨id, ⟨t, ht, ha⟩, rfl⟩
  · exact .inl rfl

lemma mem_pending_dropped {id : Nat} (ht : r.tasks[i]? = some t) (hid : id ∈ (r.dropped t).pending) :
    id ∈ r.prompts.pending ∧ ¬ r.Awaits i id := by
  rw [dropped] at hid
  have hawaits (other : Nat) : r.Awaits i other → t.await? = some (.prompt other) := by
    rintro ⟨u, hu, ha⟩
    exact Option.some.inj (hu.symm.trans ht) ▸ ha
  split at hid
  · next other ha =>
    obtain ⟨hpending, hne⟩ := by simpa [Prompts.discard] using hid
    refine ⟨hpending, fun h => hne ?_⟩
    have := (hawaits id h).symm.trans ha
    simpa using this
  · next hnone => exact ⟨hid, fun h => hnone id (hawaits id h)⟩

lemma answer?_dropped {id : Nat} (ht : r.tasks[i]? = some t) (hid : ¬ r.Awaits i id) :
    (r.dropped t).answer? id = r.prompts.answer? id := by
  obtain hsame | ⟨other, hother, hdiscard⟩ := dropped_eq ht
  · rw [hsame]
  · rw [hdiscard, Prompts.answer?_discard]
    rintro rfl
    exact hid hother

lemma answers_dropped (r : Run) (t : Task) : (r.dropped t).answers ⊆ r.prompts.answers := by
  rw [dropped]
  split
  · exact List.filter_sublist.subset
  · exact fun _ hx => hx

lemma deserted_dropped (r : Run) (t : Task) : (r.dropped t).deserted = r.prompts.deserted := by
  rw [dropped]
  split <;> rfl

lemma asks?_of_step? (h : r.step? s i = none) : r.asks? s (.step i) = none := by
  have hturn : r.turn? s i = none := by
    rw [← Option.not_isSome_iff_eq_none, r.turn?_isSome, h]
    decide
  rw [asks?, hturn, Option.bind_none]

/-- Nobody asks once his epoch has ended. -/
lemma asks?_of_cancelled (ht : r.tasks[i]? = some t) (hcancelled : r.isCancelled t.token = true) :
    r.asks? s (.step i) = none := by
  cases hstep : r.step? s i with
  | none => exact asks?_of_step? hstep
  | some r' =>
    obtain ⟨u, p, turn, q, hu, hturn, -⟩ := step_cases hstep
    have hended : (r.after s (.step i)).tasks[i]? = some { t with status := .ended } := by
      rw [after, hstep, Option.getD_some, (frozen_step ht hcancelled hstep).tasks, List.getElem?_modify, ht]
      simp
    have hstatus := congrArg Task.status (Option.some.inj ((task_step hu hturn).symm.trans hended))
    rw [asks?_of_turn? hturn, Turn.prompt?_of_ended hstatus, Option.map_none]

/-- Who asks does so in a run that is running, in its epoch. -/
lemma live_of_asks? (hsound : r.course.Sound) {x : Nat × Nat} (hasks : r.asks? s (.step i) = some x) :
    ∃ t, r.tasks[i]? = some t ∧ r.state = .running ∧ t.token = r.token := by
  cases ht : r.tasks[i]? with
  | none => rw [asks?, turn?, ht] at hasks; cases hasks
  | some t =>
    refine ⟨t, rfl, current_of_live hsound (List.mem_of_getElem? ht) ?_⟩
    by_contra hcancelled
    rw [asks?_of_cancelled ht (by simpa using hcancelled)] at hasks
    cases hasks

lemma attended_step (hsound : r.course.Sound) (h : r.Attended s) (hstep : r.step? s i = some r') : r'.Attended s := by
  obtain ⟨t, p, turn, q, ht, hturn, -⟩ := step_cases hstep
  have hafter : r.after s (.step i) = r' := by rw [after, hstep, Option.getD_some]
  have hplaced : ∀ u ∈ r'.tasks, ∀ p a resumption, u.status = .waiting p a resumption →
      (s.definition.node? p.node).isSome = true := by
    intro u hu p' a resumption hstatus
    obtain ⟨j, hj⟩ := List.mem_iff_getElem?.mp hu
    have hwaits : u.await? = some a := by rw [Task.await?, hstatus]
    by_cases hm : r.Steps s j (.step i)
    · obtain rfl : i = j := Move.step.inj hm.1
      rw [← hafter, task_step ht hturn] at hj
      obtain rfl := Option.some.inj hj
      cases turn with
      | acted node o =>
        cases o with
        | waits a' resumption' =>
          obtain ⟨rfl, -⟩ := TaskStatus.waiting.inj hstatus
          rw [node_of_turn? hturn, Option.isSome_some]
        | done code =>
          dsimp only [Turn.status] at hstatus
          split at hstatus <;> cases hstatus
        | fails e => cases hstatus
      | _ => cases hstatus
    · exact h.placed u (List.mem_of_getElem? (waits_before hm (hafter ▸ hj) hwaits)) p' a resumption hstatus
  -- Who else waits for a pending prompt still does.
  have hwaited : ∀ id ∈ (r.dropped t).pending, ∃ j, r'.Awaits j id := by
    intro id hid
    obtain ⟨hpending, hnot⟩ := mem_pending_dropped ht hid
    obtain ⟨j, hj⟩ := h.waited id hpending
    exact ⟨j, (awaits_step hstep).mpr (.inl ⟨fun hji => hnot (hji ▸ hj), hj⟩)⟩
  have hnone : r.state = .stopped → (r.dropped t).pending = [] := by
    intro hstate
    refine List.eq_nil_iff_forall_not_mem.mpr fun id hid => ?_
    have hpending := (mem_pending_dropped ht hid).1
    rw [h.rests hstate] at hpending
    cases hpending
  have hdeserted : (r.dropped t).deserted = [] := (r.deserted_dropped t).trans h.deserted
  cases handles_step ht (h.placed t (List.mem_of_getElem? ht)) hstep with
  | leaves _ hprompts hstate =>
    exact ⟨hplaced, hprompts ▸ hdeserted, hprompts ▸ hwaited, fun hstopped => hprompts ▸ hnone (hstate hstopped)⟩
  | clears _ hprompts =>
    have hpending : r'.prompts.pending = [] := by rw [hprompts]; rfl
    exact ⟨hplaced, hprompts ▸ hdeserted, fun id hid => absurd hid (hpending ▸ List.not_mem_nil), fun _ => hpending⟩
  | issues hasks hprompts hstate =>
    refine ⟨hplaced, hprompts ▸ hdeserted, fun id hid => ?_, fun hstopped => ?_⟩
    · rw [hprompts] at hid
      obtain hid | hid := List.mem_append.mp hid
      · exact hwaited id hid
      · obtain rfl : id = r.prompts.issued + 1 := by simpa [issued_dropped] using hid
        exact ⟨i, (awaits_step hstep).mpr (.inr hasks)⟩
    · obtain ⟨-, -, hrunning, -⟩ := live_of_asks? hsound hasks
      rw [hstate hstopped] at hrunning
      cases hrunning

/-- The next number is given out. -/
lemma asks?_number (h : r.Attended s) (hstep : r.step? s i = some r') {j id : Nat}
    (hasks : r.asks? s (.step i) = some (j, id)) : id = r.prompts.issued + 1 := by
  obtain ⟨t, -, -, -, ht, -⟩ := step_cases hstep
  cases handles_step ht (h.placed t (List.mem_of_getElem? ht)) hstep with
  | leaves hnone => exact absurd (hnone.symm.trans hasks) (by simp)
  | clears hnone => exact absurd (hnone.symm.trans hasks) (by simp)
  | issues hissues => exact congrArg Prod.snd (Option.some.inj (hasks.symm.trans hissues))

/-- Who has waited without taking a step still does so at the same node. -/
lemma placed_host {m : Move} (hstep : ∀ i, m ≠ .step i)
    (h : ∀ t ∈ r.tasks, ∀ p a resumption, t.status = .waiting p a resumption →
      (s.definition.node? p.node).isSome = true) :
    ∀ t ∈ (r.after s m).tasks, ∀ p a resumption, t.status = .waiting p a resumption →
      (s.definition.node? p.node).isSome = true := by
  intro t ht p a resumption hstatus
  obtain ⟨j, hj⟩ := List.mem_iff_getElem?.mp ht
  have hwaits : t.await? = some a := by rw [Task.await?, hstatus]
  exact h t (List.mem_of_getElem? (waits_before (fun hm => hstep j hm.1) hj hwaits)) p a resumption hstatus

lemma attended_answer (h : r.Attended s) (id : Nat) (a : Answer) : (r.answer id a).2.Attended s := by
  have hprompts := r.prompts_answer id a
  have hsub : (r.answer id a).2.prompts.pending ⊆ r.prompts.pending := by
    rw [hprompts, Prompts.answer]
    split
    · exact List.filter_sublist.subset
    · exact fun _ hid => hid
  refine ⟨placed_host (m := .answer id a) (fun _ => Move.noConfusion) h.placed, ?_, fun other hother => ?_,
    fun hstate => ?_⟩
  · rw [hprompts, Prompts.answer]
    split <;> exact h.deserted
  · obtain ⟨j, hj⟩ := h.waited other (hsub hother)
    exact ⟨j, (awaits_after (s := s) (m := .answer id a) fun hm => Move.noConfusion hm.1).mpr hj⟩
  · have hstopped : r.state = .stopped := (r.modifies_answer id a .state (by decide)).symm.trans hstate
    exact List.eq_nil_of_subset_nil (h.rests hstopped ▸ hsub)

lemma attended_host {m : Move} (h : r.Attended s) (hstep : ∀ i, m ≠ .step i) (hanswer : ∀ id a, m ≠ .answer id a) :
    (r.after s m).Attended s := by
  have hplaced := placed_host hstep h.placed
  have hwaited {j id : Nat} (hj : r.Awaits j id) : (r.after s m).Awaits j id :=
    (awaits_after fun hm => hstep j hm.1).mpr hj
  obtain ⟨shared, rfl⟩ | hown := m.others_or_own
  · exact ⟨hplaced, h.deserted, fun id hid => (h.waited id hid).imp fun j hj => hwaited hj, h.rests⟩
  · cases r.leaves_host s hstep hanswer hown with
    | quiet hprompts hstate =>
      refine ⟨hplaced, hprompts ▸ h.deserted, fun id hid => ?_, fun hstopped => hprompts ▸ h.rests (hstate hstopped)⟩
      rw [hprompts] at hid
      exact (h.waited id hid).imp fun j hj => hwaited hj
    | clears hprompts =>
      have hpending : (r.after s m).prompts.pending = [] := by rw [hprompts]; rfl
      exact ⟨hplaced, hprompts ▸ h.deserted, fun id hid => absurd hid (hpending ▸ List.not_mem_nil), fun _ => hpending⟩

lemma attended_after (hsound : r.course.Sound) (h : r.Attended s) (m : Move) : (r.after s m).Attended s := by
  by_cases hstep : ∃ i, m = .step i
  · obtain ⟨i, rfl⟩ := hstep
    rw [after]
    cases htaken : r.step? s i with
    | none => exact h
    | some r' => exact attended_step hsound h htaken
  · by_cases hanswer : ∃ id a, m = .answer id a
    · obtain ⟨id, a, rfl⟩ := hanswer
      exact attended_answer h id a
    · exact attended_host h (fun i heq => hstep ⟨i, heq⟩) fun id a heq => hanswer ⟨id, a, heq⟩

/-- The invariant holds in every reachable state. -/
lemma attended_afterAll (x : Ensemble) (s : Setup) (moves : List Move) :
    ((x.newRun s).afterAll s moves).Attended s := by
  induction moves using List.reverseRecOn with
  | nil =>
    exact ⟨fun t ht => absurd ht List.not_mem_nil, rfl, fun id hid => absurd hid List.not_mem_nil, fun _ => rfl⟩
  | append_singleton moves m ih =>
    rw [afterAll_snoc]
    exact attended_after (sound_afterAll x s moves) ih m

/-- Without a prompt that is pending an answer changes nothing. -/
lemma answer_refused (h : r.Attended s) {id : Nat} {a : Answer} (hrefused : (r.answer id a).1 = false) :
    r.answer id a = (false, r) := by
  rw [answer] at hrefused ⊢
  split
  · next hpending =>
    rw [if_pos hpending] at hrefused
    simp [Prompts.accepts, hpending, h.deserted] at hrefused
  · rfl

end Run

end FieldStudy
