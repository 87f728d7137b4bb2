import Mathlib.Data.List.Induction
import Mathlib.Data.List.Nodup
import Mathlib.Data.List.Range
import Mathlib.Tactic.Common
import FieldStudy.Proofs.Run.Attended

/-!
# Answers

Whatever the order of moves, prompts are numbered one after another, each is asked by one task, at most one answer to it
is accepted, and that answer is used by this task at most once and by no other (`Run.answers_used_once`).  The books are
three lists: what has been asked, accepted and used (`Run.Accounted`).

Pausing leaves the prompts as they are, and an answer to one of them is still accepted until the task has come to its
end (`Run.paused_prompts_lapse`).
-/

namespace FieldStudy

lemma Task.waiting_of_await? {t : Task} {a : Await} (h : t.await? = some a) :
    ∃ p resumption, t.status = .waiting p a resumption := by
  rw [await?] at h
  split at h
  · next p b resumption hstatus =>
    obtain rfl := Option.some.inj h
    exact ⟨p, resumption, hstatus⟩
  · cases h

/-! ## What is asked, accepted and used -/

namespace Run

variable {r r' q : Run} {s : Setup} {i : Nat} {t : Task}

/-- The answer that a move gives, if it is accepted. -/
def accepts? (r : Run) : Move → Option (Nat × Answer)
  | .answer id a => if (r.answer id a).1 then some (id, a) else none
  | _ => none

/-- The answer with which a move ends a wait: the task, the prompt and what has been said to it. -/
def uses? (r : Run) : Move → Option (Nat × Nat × Answer)
  | .step i => r.tasks[i]?.bind fun t =>
    match t.await? with
    | some (.prompt id) => if r.isCancelled t.token then none else (r.prompts.answer? id).map fun a => (i, id, a)
    | _ => none
  | _ => none

/-- The tasks that some moves have wait for the host, with their prompts. -/
def asked (s : Setup) : Run → List Move → List (Nat × Nat) := along (fun r m => (r.asks? s m).toList) s

/-- The prompts that some moves answer, with the answers that are accepted. -/
def accepted (s : Setup) : Run → List Move → List (Nat × Answer) := along (fun r m => (r.accepts? m).toList) s

/-- The tasks that some moves let go on with an answer, with their prompts. -/
def used (s : Setup) : Run → List Move → List (Nat × Nat × Answer) := along (fun r m => (r.uses? m).toList) s

/-- A move pauses or stops a run that is running. -/
def Halts (s : Setup) (r : Run) (m : Move) : Prop := r.state = .running ∧ (r.after s m).state ≠ .running

/-- The next step of the task goes on with what the host has said to the prompt. -/
def GoesOnWith (s : Setup) (r : Run) (i id : Nat) (a : Answer) : Prop :=
  ∃ t p node resumption, r.tasks[i]? = some t ∧ t.status = .waiting p (.prompt id) resumption ∧
    s.definition.node? p.node = some node ∧
    let q := (r.awake i (.prompt id)).proceed s a.result resumption
    r.step? s i = some (q.2.follow s i t p node q.1)

/-! ## The books -/

/-- Who ends a wait with an answer has waited for this prompt, and the answer has been given to it. -/
lemma of_uses? {u : Nat × Nat × Answer} (h : r.uses? (.step i) = some u) :
    u.1 = i ∧ r.Awaits i u.2.1 ∧ u.2 ∈ r.prompts.answers := by
  obtain ⟨t, ht, h⟩ := Option.bind_eq_some_iff.mp h
  split at h
  · next id ha =>
    split at h
    · cases h
    · obtain ⟨a, hanswer, rfl⟩ := Option.map_eq_some_iff.mp h
      obtain ⟨x, hx, rfl⟩ := Option.map_eq_some_iff.mp hanswer
      obtain rfl : x.1 = id := by simpa using List.find?_some hx
      exact ⟨rfl, ⟨t, ht, ha⟩, List.mem_of_find?_eq_some hx⟩
  · cases h

/-- An answer that is accepted is to a prompt that is pending, and takes it away. -/
lemma answer_accepted (hattended : r.Attended s) {id : Nat} {a : Answer} (haccepted : (r.answer id a).1 = true) :
    id ∈ r.prompts.pending ∧ (r.answer id a).2.prompts = { r.prompts with
      pending := r.prompts.pending.filter (· != id), answers := r.prompts.answers ++ [(id, a)] } := by
  have hpending : id ∈ r.prompts.pending := by
    rw [Run.answer] at haccepted
    split at haccepted
    · next hid => simpa [Prompts.isPending] using hid
    · cases haccepted
  refine ⟨hpending, ?_⟩
  rw [prompts_answer, Prompts.answer, if_pos (by simpa [Prompts.isPending] using hpending)]
  simp [hattended.deserted]

/-- What has been asked, accepted and used agrees with the prompts of the run. -/
structure Accounted (r : Run) (questions : List (Nat × Nat)) (given : List (Nat × Answer))
    (taken : List (Nat × Nat × Answer)) : Prop where
  numbers : questions.map (·.2) = List.range' 1 r.prompts.issued
  waits : ∀ i id, r.Awaits i id → (i, id) ∈ questions
  fresh : ∀ id ∈ r.prompts.pending, ∀ a, (id, a) ∉ given
  issued : ∀ x ∈ given, x.1 ≤ r.prompts.issued
  answers : ∀ x ∈ r.prompts.answers, x ∈ given
  kept : ∀ i id a, r.Awaits i id → (id, a) ∈ given → r.prompts.answer? id = some a
  givenOnce : (given.map (·.1)).Nodup
  spent : ∀ u ∈ taken, (u.1, u.2.1) ∈ questions ∧ u.2 ∈ given ∧ ∀ j, ¬ r.Awaits j u.2.1
  takenOnce : (taken.map (·.2.1)).Nodup

variable {questions : List (Nat × Nat)} {given : List (Nat × Answer)}
  {taken : List (Nat × Nat × Answer)}

namespace Accounted

/-- A prompt is asked by one task. -/
lemma unique (h : r.Accounted questions given taken) {i j id : Nat} (hi : (i, id) ∈ questions)
    (hj : (j, id) ∈ questions) :
    i = j := by
  have hnodup : (questions.map (·.2)).Nodup := h.numbers ▸ List.nodup_range'
  exact congrArg Prod.fst (List.inj_on_of_nodup_map hnodup hi hj rfl)

lemma asked_le (h : r.Accounted questions given taken) {i id : Nat} (hi : (i, id) ∈ questions) :
    id ≤ r.prompts.issued := by
  have hid : id ∈ questions.map (·.2) := List.mem_map.mpr ⟨(i, id), hi, rfl⟩
  rw [h.numbers] at hid
  have := List.mem_range'_1.mp hid
  omega

lemma awaits_le (h : r.Accounted questions given taken) {i id : Nat} (hi : r.Awaits i id) : id ≤ r.prompts.issued :=
  h.asked_le (h.waits i id hi)

/-- Nobody has begun to wait, and no answer has come. -/
lemma of_leaves (h : r.Accounted questions given taken) (hawaits : ∀ j id, r'.Awaits j id → r.Awaits j id)
    (hissued : r'.prompts.issued = r.prompts.issued) (hpending : r'.prompts.pending ⊆ r.prompts.pending)
    (hanswers : r'.prompts.answers ⊆ r.prompts.answers)
    (hanswer : ∀ j id, r'.Awaits j id → r'.prompts.answer? id = r.prompts.answer? id) :
    r'.Accounted questions given taken where
  numbers := hissued ▸ h.numbers
  waits i id hi := h.waits i id (hawaits i id hi)
  fresh id hid := h.fresh id (hpending hid)
  issued x hx := hissued ▸ h.issued x hx
  answers x hx := h.answers x (hanswers hx)
  kept i id a hi hx := (hanswer i id hi).trans (h.kept i id a (hawaits i id hi) hx)
  givenOnce := h.givenOnce
  spent u hu := ⟨(h.spent u hu).1, (h.spent u hu).2.1, fun j hj => (h.spent u hu).2.2 j (hawaits j _ hj)⟩
  takenOnce := h.takenOnce

/-- A prompt is issued, and the task has begun to wait for it. -/
lemma issue (h : r.Accounted questions given taken)
    (hawaits : ∀ j id, r'.Awaits j id → r.Awaits j id ∨ (j = i ∧ id = r.prompts.issued + 1))
    (hissued : r'.prompts.issued = r.prompts.issued + 1)
    (hpending : ∀ id ∈ r'.prompts.pending, id ∈ r.prompts.pending ∨ id = r.prompts.issued + 1)
    (hanswers : r'.prompts.answers ⊆ r.prompts.answers)
    (hanswer : ∀ j id, r'.Awaits j id → r.Awaits j id → r'.prompts.answer? id = r.prompts.answer? id) :
    r'.Accounted (questions ++ [(i, r.prompts.issued + 1)]) given taken where
  numbers := by rw [hissued, List.range'_1_concat, List.map_append, h.numbers, Nat.add_comm 1]; rfl
  waits j id hj := by
    obtain hold | ⟨rfl, rfl⟩ := hawaits j id hj
    · exact List.mem_append_left _ (h.waits j id hold)
    · exact List.mem_append_right _ (List.mem_singleton.mpr rfl)
  fresh id hid a ha := by
    obtain hold | rfl := hpending id hid
    · exact h.fresh id hold a ha
    · exact Nat.not_succ_le_self _ (h.issued _ ha)
  issued x hx := hissued ▸ Nat.le_succ_of_le (h.issued x hx)
  answers x hx := h.answers x (hanswers hx)
  kept j id a hj ha := by
    obtain hold | ⟨-, rfl⟩ := hawaits j id hj
    · exact (hanswer j id hj hold).trans (h.kept j id a hold ha)
    · exact absurd (h.issued _ ha) (Nat.not_succ_le_self _)
  givenOnce := h.givenOnce
  spent u hu := by
    obtain ⟨hasked, ha, hover⟩ := h.spent u hu
    refine ⟨List.mem_append_left _ hasked, ha, fun j hj => ?_⟩
    obtain hold | ⟨-, hid⟩ := hawaits j _ hj
    · exact hover j hold
    · exact Nat.not_succ_le_self _ (hid ▸ h.asked_le hasked)
  takenOnce := h.takenOnce

/-- An answer is used, and nobody waits for it any more. -/
lemma use (h : r.Accounted questions given taken) {u : Nat × Nat × Answer} (hasked : (u.1, u.2.1) ∈ questions)
    (ha : u.2 ∈ given) (hover : ∀ j, ¬ r.Awaits j u.2.1) (hnew : u.2.1 ∉ taken.map (·.2.1)) :
    r.Accounted questions given (taken ++ [u]) where
  numbers := h.numbers
  waits := h.waits
  fresh := h.fresh
  issued := h.issued
  answers := h.answers
  kept := h.kept
  givenOnce := h.givenOnce
  spent v hv := by
    obtain hv | hv := List.mem_append.mp hv
    · exact h.spent v hv
    · rw [List.mem_singleton.mp hv]
      exact ⟨hasked, ha, hover⟩
  takenOnce := by
    rw [List.map_append, List.nodup_append]
    refine ⟨h.takenOnce, List.nodup_singleton _, ?_⟩
    rintro id hid _ hu rfl
    obtain rfl : id = u.2.1 := List.mem_singleton.mp hu
    exact hnew hid

/-- An answer that is accepted is the first to its prompt, and is entered. -/
lemma accept (h : r.Accounted questions given taken) (hattended : r.Attended s) {id : Nat} {a : Answer}
    (haccepted : (r.answer id a).1 = true) : (r.answer id a).2.Accounted questions (given ++ [(id, a)]) taken := by
  obtain ⟨hpending, hprompts⟩ := answer_accepted hattended haccepted
  have hawaits (j other : Nat) : (r.answer id a).2.Awaits j other ↔ r.Awaits j other :=
    awaits_after (s := s) (m := .answer id a) fun hm => Move.noConfusion hm.1
  have hnew : ∀ b, (id, b) ∉ given := h.fresh id hpending
  have hnone : r.prompts.answer? id = none := by
    rw [Prompts.answer?, Option.map_eq_none_iff, List.find?_eq_none]
    rintro ⟨other, b⟩ hx heq
    obtain rfl : other = id := by simpa using heq
    exact hnew b (h.answers _ hx)
  exact {
    numbers := by rw [hprompts]; exact h.numbers
    waits := fun j other hj => h.waits j other ((hawaits j other).mp hj)
    fresh := by
      rw [hprompts]
      intro other hother b hb
      obtain ⟨hother, hne⟩ := by simpa using hother
      obtain hb | hb := List.mem_append.mp hb
      · exact h.fresh other hother b hb
      · exact hne (congrArg Prod.fst (List.mem_singleton.mp hb))
    issued := by
      obtain ⟨i, hi⟩ := hattended.waited id hpending
      rw [hprompts]
      intro x hx
      obtain hx | hx := List.mem_append.mp hx
      · exact h.issued x hx
      · rw [List.mem_singleton.mp hx]
        exact h.awaits_le hi
    answers := by
      rw [hprompts]
      intro x hx
      exact (List.mem_append.mp hx).elim (fun hx => List.mem_append_left _ (h.answers x hx)) (List.mem_append_right _)
    kept := by
      rw [hprompts]
      intro j other b hj hb
      rw [Prompts.answer?, List.find?_append, Option.map_or]
      obtain hb | hb := List.mem_append.mp hb
      · have hold := h.kept j other b ((hawaits j other).mp hj) hb
        rw [Prompts.answer?] at hold
        rw [hold, Option.some_or]
      · obtain ⟨rfl, rfl⟩ := Prod.mk.inj (List.mem_singleton.mp hb)
        rw [Prompts.answer?] at hnone
        rw [hnone, Option.none_or]
        simp
    givenOnce := by
      rw [List.map_append, List.nodup_append]
      refine ⟨h.givenOnce, List.nodup_singleton _, ?_⟩
      rintro other hother _ hid rfl
      obtain ⟨⟨_, b⟩, hb, rfl⟩ := List.mem_map.mp hother
      obtain rfl := List.mem_singleton.mp hid
      exact hnew b hb
    spent := fun u hu => by
      obtain ⟨hasked, hb, hover⟩ := h.spent u hu
      exact ⟨hasked, List.mem_append_left _ hb, fun j hj => hover j ((hawaits j _).mp hj)⟩
    takenOnce := h.takenOnce }

lemma answer (h : r.Accounted questions given taken) (hattended : r.Attended s) (id : Nat) (a : Answer) :
    (r.answer id a).2.Accounted questions (given ++ (r.accepts? (.answer id a)).toList) taken := by
  cases haccepted : (r.answer id a).1 with
  | false =>
    rw [answer_refused hattended haccepted, accepts?, haccepted, if_neg Bool.false_ne_true]
    simpa using h
  | true =>
    rw [accepts?, haccepted, if_pos rfl, Option.toList_some]
    exact h.accept hattended haccepted

/-- Two tasks never wait for one prompt. -/
lemma awaits_alone (h : r.Accounted questions given taken) {j id : Nat} (hij : j ≠ i) (hj : r.Awaits j id) :
    ¬ r.Awaits i id :=
  fun hi => hij (h.unique (h.waits j id hj) (h.waits i id hi))

/-- A step that issues no prompt ends the wait of its task, if it ends any. -/
lemma leave (h : r.Accounted questions given taken) (ht : r.tasks[i]? = some t) (hstep : r.step? s i = some r')
    (hnone : r.asks? s (.step i) = none) (hissued : r'.prompts.issued = r.prompts.issued)
    (hpending : r'.prompts.pending ⊆ (r.dropped t).pending) (hanswers : r'.prompts.answers = (r.dropped t).answers) :
    r'.Accounted questions given taken := by
  have hawaits {j id : Nat} (hj : r'.Awaits j id) : j ≠ i ∧ r.Awaits j id := by
    obtain hold | hnew := (awaits_step hstep).mp hj
    · exact hold
    · rw [hnone] at hnew
      cases hnew
  refine h.of_leaves (fun j id hj => (hawaits hj).2) hissued
    (fun id hid => (mem_pending_dropped ht (hpending hid)).1) (hanswers ▸ r.answers_dropped t) fun j id hj => ?_
  rw [Prompts.answer?, hanswers]
  exact answer?_dropped ht (h.awaits_alone (hawaits hj).1 (hawaits hj).2)

/-- A step that issues a prompt has its task wait for it. -/
lemma ask (h : r.Accounted questions given taken) (ht : r.tasks[i]? = some t) (hstep : r.step? s i = some r')
    (hasks : r.asks? s (.step i) = some (i, r.prompts.issued + 1)) (hprompts : r'.prompts = (r.dropped t).issue) :
    r'.Accounted (questions ++ [(i, r.prompts.issued + 1)]) given taken := by
  have hawaits {j id : Nat} (hj : r'.Awaits j id) : (j ≠ i ∧ r.Awaits j id) ∨ (j = i ∧ id = r.prompts.issued + 1) := by
    obtain hold | hnew := (awaits_step hstep).mp hj
    · exact .inl hold
    · obtain ⟨rfl, rfl⟩ := Prod.mk.inj (Option.some.inj (hasks.symm.trans hnew))
      exact .inr ⟨rfl, rfl⟩
  refine h.issue (fun j id hj => (hawaits hj).imp_left And.right) ?_ (fun id hid => ?_) ?_ fun j id hj hold => ?_
  · rw [hprompts, Prompts.issue, issued_dropped]
  · rw [hprompts] at hid
    obtain hid | hid := List.mem_append.mp hid
    · exact .inl (mem_pending_dropped ht hid).1
    · exact .inr (by simpa [issued_dropped] using hid)
  · rw [hprompts]
    exact r.answers_dropped t
  · rw [hprompts]
    obtain ⟨hij, -⟩ | ⟨-, rfl⟩ := hawaits hj
    · exact answer?_dropped ht (h.awaits_alone hij hold)
    · exact absurd (h.awaits_le hold) (Nat.not_succ_le_self _)

lemma step (h : r.Accounted questions given taken) (hattended : r.Attended s) (hstep : r.step? s i = some r') :
    r'.Accounted (questions ++ (r.asks? s (.step i)).toList) given (taken ++ (r.uses? (.step i)).toList) := by
  obtain ⟨t, -, -, -, ht, -⟩ := step_cases hstep
  -- The prompt that the task has waited for is over; the others are as they were.
  have hbooks : r'.Accounted (questions ++ (r.asks? s (.step i)).toList) given taken := by
    cases handles_step ht (hattended.placed t (List.mem_of_getElem? ht)) hstep with
    | leaves hnone hprompts =>
      rw [hnone, Option.toList_none, List.append_nil]
      exact h.leave ht hstep hnone (by rw [hprompts, issued_dropped]) (by rw [hprompts]; exact fun _ h => h)
        (by rw [hprompts])
    | clears hnone hprompts =>
      rw [hnone, Option.toList_none, List.append_nil]
      refine h.leave ht hstep hnone ?_ (by rw [hprompts]; exact List.nil_subset _) (by rw [hprompts]; rfl)
      rw [hprompts]
      exact r.issued_dropped t
    | issues hasks hprompts =>
      rw [hasks, Option.toList_some]
      exact h.ask ht hstep hasks hprompts
  cases huses : r.uses? (.step i) with
  | none => rwa [Option.toList_none, List.append_nil]
  | some u =>
    obtain ⟨rfl, hi, ha⟩ := of_uses? huses
    refine hbooks.use (List.mem_append_left _ (h.waits _ _ hi)) (h.answers _ ha) (fun j hj => ?_) fun hspent => ?_
    · obtain ⟨hij, hold⟩ | hnew := (awaits_step hstep).mp hj
      · exact h.awaits_alone hij hold hi
      · have hle := h.awaits_le hi
        rw [asks?_number hattended hstep hnew] at hle
        exact Nat.not_succ_le_self _ hle
    · obtain ⟨v, hv, hid⟩ := List.mem_map.mp hspent
      exact (h.spent v hv).2.2 _ (hid ▸ hi)

end Accounted

/-! ## All moves -/

/-- How a wait for a prompt ends: it is cancelled, or it brings the answer. -/
lemma waitResult?_prompt (r : Run) (token id : Nat) :
    r.waitResult? token (.prompt id) =
      if r.isCancelled token then some (.error .cancelled)
      else match r.prompts.answer? id with
        | some a => some a.result
        | none => if r.prompts.isPending id then none else some (.error .cancelled) := by
  rw [waitResult?]
  split
  · rfl
  · cases r.prompts.answer? id with
    | none => rfl
    | some a => cases a <;> rfl

/-- Whoever goes on with an answer can take a step. -/
lemma step?_of_uses? {u : Nat × Nat × Answer} (h : r.uses? (.step i) = some u) : (r.step? s i).isSome = true := by
  obtain ⟨t, ht, h⟩ := Option.bind_eq_some_iff.mp h
  split at h
  · next id ha =>
    obtain ⟨p, resumption, hstatus⟩ := Task.waiting_of_await? ha
    split at h
    · cases h
    · next hlive =>
      obtain ⟨a, hanswer, -⟩ := Option.map_eq_some_iff.mp h
      rw [step?_waiting s ht hstatus, waitResult?_prompt, if_neg hlive, hanswer, Option.map_some, Option.isSome_some]
  · cases h

/-- Every move is entered in the books. -/
lemma Accounted.after (h : r.Accounted questions given taken) (hattended : r.Attended s) (m : Move) :
    (r.after s m).Accounted (questions ++ (r.asks? s m).toList) (given ++ (r.accepts? m).toList)
      (taken ++ (r.uses? m).toList) := by
  by_cases hstep : ∃ i, m = .step i
  · obtain ⟨i, rfl⟩ := hstep
    rw [show r.accepts? (.step i) = none from rfl, Option.toList_none, List.append_nil, Run.after]
    cases htaken : r.step? s i with
    | none =>
      have huses : r.uses? (.step i) = none := by
        rw [Option.eq_none_iff_forall_ne_some]
        intro u hu
        have hsome := step?_of_uses? (s := s) hu
        rw [htaken] at hsome
        cases hsome
      rw [asks?_of_step? htaken, huses, Option.toList_none, Option.toList_none, List.append_nil, List.append_nil]
      exact h
    | some r' => exact h.step hattended htaken
  · have hnone : r.asks? s m = none ∧ r.uses? m = none := by
      cases m with
      | step i => exact absurd ⟨i, rfl⟩ hstep
      | _ => exact ⟨rfl, rfl⟩
    rw [hnone.1, hnone.2, Option.toList_none, Option.toList_none, List.append_nil, List.append_nil]
    by_cases hanswer : ∃ id a, m = .answer id a
    · obtain ⟨id, a, rfl⟩ := hanswer
      exact h.answer hattended id a
    · have haccepts : r.accepts? m = none := by
        cases m with
        | answer id a => exact absurd ⟨id, a, rfl⟩ hanswer
        | _ => rfl
      have hawaits (j id : Nat) (hj : (r.after s m).Awaits j id) : r.Awaits j id :=
        (awaits_after fun hm => hstep ⟨j, hm.1⟩).mp hj
      rw [haccepts, Option.toList_none, List.append_nil]
      have hprompts : (r.after s m).prompts = r.prompts ∨ (r.after s m).prompts = r.prompts.clear := by
        obtain ⟨shared, rfl⟩ | hown := m.others_or_own
        · exact .inl rfl
        · cases r.leaves_host s (fun i heq => hstep ⟨i, heq⟩) (fun id a heq => hanswer ⟨id, a, heq⟩) hown with
          | quiet hprompts => exact .inl hprompts
          | clears hprompts => exact .inr hprompts
      obtain hsame | hclear := hprompts
      · exact h.of_leaves hawaits (by rw [hsame]) (by rw [hsame]; exact fun _ hid => hid)
          (by rw [hsame]; exact fun _ hx => hx) fun j id _ => by rw [hsame]
      · exact h.of_leaves hawaits (by rw [hclear]; rfl) (by rw [hclear]; exact List.nil_subset _)
          (by rw [hclear]; exact fun _ hx => hx) fun j id _ => by rw [hclear]; rfl

/-- The books of a run agree with it in every reachable state. -/
lemma accounted_afterAll (x : Ensemble) (s : Setup) (moves : List Move) :
    ((x.newRun s).afterAll s moves).Accounted ((x.newRun s).asked s moves) ((x.newRun s).accepted s moves)
      ((x.newRun s).used s moves) := by
  induction moves using List.reverseRecOn with
  | nil =>
    have hawaits (j id : Nat) : ¬ (x.newRun s).Awaits j id := fun ⟨t, ht, _⟩ => by cases ht
    exact ⟨rfl, fun j id hj => absurd hj (hawaits j id), fun id hid => absurd hid List.not_mem_nil,
      fun y hy => absurd hy List.not_mem_nil, fun y hy => absurd hy List.not_mem_nil,
      fun j id a hj => absurd hj (hawaits j id), List.nodup_nil, fun u hu => absurd hu List.not_mem_nil, List.nodup_nil⟩
  | append_singleton moves m ih =>
    rw [asked, accepted, used, along_snoc, along_snoc, along_snoc, afterAll_snoc]
    exact ih.after (attended_afterAll x s moves) m

/-- The prompts that a move tells the host of are those that it has somebody wait for. -/
lemma prompts_sent (hattended : r.Attended s) (m : Move) :
    (r.sent s m).filterMap Notice.prompt? = (r.asks? s m).toList.map (·.2) := by
  have hsent {ids : List Nat} (hothers : ∀ shared, m ≠ .others shared) (h : Carries r (r.after s m) ids) :
      (r.sent s m).filterMap Notice.prompt? = ids := by
    obtain ⟨ns, hnotices, rfl⟩ := h
    rw [sent_eq ns hothers hnotices]
  by_cases hstep : ∃ i, m = .step i
  · obtain ⟨i, rfl⟩ := hstep
    refine hsent (fun shared => Move.noConfusion) ?_
    rw [Run.after]
    cases htaken : r.step? s i with
    | none =>
      rw [asks?_of_step? htaken]
      exact carries_of_eq rfl
    | some r' =>
      obtain ⟨t, -, -, -, ht, -⟩ := step_cases htaken
      cases handles_step ht (hattended.placed t (List.mem_of_getElem? ht)) htaken with
      | leaves hnone _ _ hcarries => rw [hnone]; exact hcarries
      | clears hnone _ hcarries => rw [hnone]; exact hcarries
      | issues hasks _ _ hcarries => rw [hasks]; exact hcarries
  · have hnone : r.asks? s m = none := by
      cases m with
      | step i => exact absurd ⟨i, rfl⟩ hstep
      | _ => rfl
    rw [hnone, Option.toList_none, List.map_nil]
    obtain ⟨shared, rfl⟩ | hown := m.others_or_own
    · rfl
    · refine hsent hown ?_
      by_cases hanswer : ∃ id a, m = .answer id a
      · obtain ⟨id, a, rfl⟩ := hanswer
        exact (r.modifies_answer id a).carries (by decide)
      · cases r.leaves_host s (fun i heq => hstep ⟨i, heq⟩) (fun id a heq => hanswer ⟨id, a, heq⟩)
            hown with
        | quiet _ _ hcarries => exact hcarries
        | clears _ hcarries => exact hcarries

lemma prompts_allSent (x : Ensemble) (s : Setup) (moves : List Move) :
    ((x.newRun s).allSent s moves).filterMap Notice.prompt? = ((x.newRun s).asked s moves).map (·.2) := by
  induction moves using List.reverseRecOn with
  | nil => rfl
  | append_singleton moves m ih =>
    rw [allSent_snoc, List.filterMap_append, ih, prompts_sent (attended_afterAll x s moves), asked, along_snoc,
      List.map_append]

/-! ## Until the next step -/

/-- A run that is running goes on in its epoch. -/
lemma token_after (hrunning : r.state = .running) (m : Move) : (r.after s m).token = r.token := by
  cases m with
  | start => rw [after, start, if_pos (by simp [hrunning])]
  | pause => exact r.modifies_pause s .token (by decide)
  | resume => rw [after, resume, if_pos (by simp [hrunning])]
  | stop error => exact r.modifies_stop s error .token (by decide)
  | answer id a => exact r.modifies_answer id a .token (by decide)
  | sample role sensor timestamp values => exact r.modifies_sample role sensor timestamp values .token (by decide)
  | step i =>
    rw [after]
    cases h : r.step? s i with
    | none => rfl
    | some r' => exact modifies_step h .token (by decide)
  | others shared => rfl

lemma running_after {m : Move} (hrunning : r.state = .running) (hhalts : ¬ r.Halts s m) :
    (r.after s m).state = .running := by
  by_contra hstate
  exact hhalts ⟨hrunning, hstate⟩

lemma running_afterAll {moves : List Move} (hrunning : r.state = .running) (hhalts : ¬ r.Happens s (Halts s) moves) :
    (r.afterAll s moves).state = .running ∧ (r.afterAll s moves).token = r.token := by
  induction moves generalizing r with
  | nil => exact ⟨hrunning, rfl⟩
  | cons m rest ih =>
    obtain ⟨hfirst, hrest⟩ := not_or.mp hhalts
    obtain ⟨hstate, htoken⟩ := ih (running_after hrunning hfirst) hrest
    exact ⟨hstate, htoken.trans (token_after hrunning m)⟩

/-- Who asks is about to wait, in a run that is still running. -/
lemma of_asks? (hsound : r.course.Sound) (hattended : r.Attended s) {id : Nat}
    (hasks : r.asks? s (.step i) = some (i, id)) :
    (r.after s (.step i)).state = .running ∧ (r.after s (.step i)).token = r.token ∧ ∃ t p node resumption,
      (r.after s (.step i)).tasks[i]? = some t ∧ t.status = .waiting p (.prompt id) resumption ∧
      s.definition.node? p.node = some node ∧ t.token = r.token := by
  obtain ⟨t, ht, hrunning, htoken⟩ := live_of_asks? hsound hasks
  obtain ⟨⟨p, turn⟩, hturn, hprompt⟩ := Option.bind_eq_some_iff.mp hasks
  obtain ⟨id', hid, hpair⟩ := Option.map_eq_some_iff.mp hprompt
  obtain rfl := (Prod.mk.inj hpair).2
  obtain ⟨r', hstep⟩ : ∃ r', r.step? s i = some r' := Option.isSome_iff_exists.mp (by rw [← r.turn?_isSome, hturn]; rfl)
  have hafter : r.after s (.step i) = r' := by rw [after, hstep, Option.getD_some]
  have hstate : r'.state = .running := by
    obtain hsame | hsettled := settles_step hstep
    · exact (congrArg Prod.fst hsame).trans hrunning
    · cases handles_step ht (hattended.placed t (List.mem_of_getElem? ht)) hstep with
      | leaves hnone => rw [hnone] at hasks; cases hasks
      | clears hnone => rw [hnone] at hasks; cases hasks
      | issues _ _ hkept => rw [hkept hsettled.state] at hrunning; cases hrunning
  have htask := task_step ht hturn
  cases turn with
  | acted node o =>
    cases o with
    | waits a resumption =>
      obtain rfl : a = .prompt id' := by cases a <;> simp [Turn.prompt?, Outcome.prompt?] at hid ⊢; exact hid
      exact ⟨hafter ▸ hstate, token_after hrunning _, _, p, node, resumption, htask, rfl, node_of_turn? hturn, htoken⟩
    | _ => cases hid
  | _ => cases hid

/-- The wait of a task brings the answer that has been accepted, if the run is neither paused nor stopped before. -/
lemma waitResult?_of_accepted (x : Ensemble) (s : Setup) (moves : List Move) {i id : Nat}
    (hasks : ((x.newRun s).afterAll s moves).asks? s (.step i) = some (i, id)) {later : List Move} {a : Answer}
    (hlater : ¬ (((x.newRun s).afterAll s moves).after s (.step i)).Happens s (Steps s i) later)
    (hhalts : ¬ (((x.newRun s).afterAll s moves).after s (.step i)).Happens s (Halts s) later)
    (ha : (id, a) ∈ (((x.newRun s).afterAll s moves).after s (.step i)).accepted s later) :
    ∃ t p node resumption, (((x.newRun s).afterAll s moves).after s (.step i)).tasks[i]? = some t ∧
      ((((x.newRun s).afterAll s moves).after s (.step i)).afterAll s later).tasks[i]? = some t ∧
      t.status = .waiting p (.prompt id) resumption ∧ s.definition.node? p.node = some node ∧
      ((((x.newRun s).afterAll s moves).after s (.step i)).afterAll s later).waitResult? t.token (.prompt id) =
        some a.result := by
  have hsound := sound_afterAll x s moves
  obtain ⟨hrunning, htoken, t, p, node, resumption, ht, hstatus, hnode, hepoch⟩ :=
    of_asks? hsound (attended_afterAll x s moves) hasks
  obtain ⟨hstate, hsame⟩ := running_afterAll hrunning hhalts
  have hstill := task_kept ht hlater
  refine ⟨t, p, node, resumption, ht, hstill, hstatus, hnode, ?_⟩
  have hbooks := accounted_afterAll x s (moves ++ .step i :: later)
  have hlast : (x.newRun s).afterAll s (moves ++ .step i :: later) =
      (((x.newRun s).afterAll s moves).after s (.step i)).afterAll s later := by rw [afterAll_append, afterAll_cons]
  have hsound' : ((((x.newRun s).afterAll s moves).after s (.step i)).afterAll s later).course.Sound :=
    hlast ▸ sound_afterAll x s (moves ++ .step i :: later)
  have hgiven : (id, a) ∈ (x.newRun s).accepted s (moves ++ .step i :: later) := by
    rw [accepted, along_append, along]
    exact List.mem_append_right _ (List.mem_append_right _ ha)
  rw [hlast] at hbooks
  generalize ((((x.newRun s).afterAll s moves).after s (.step i)).afterAll s later) = r at *
  have hanswer := hbooks.kept i id a ⟨t, hstill, by rw [Task.await?, hstatus]⟩ hgiven
  have hlive : r.isCancelled t.token = false := by
    have hnot : r.token ∉ r.cancelled := hsound'.current hstate
    rw [hepoch, ← htoken, ← hsame]
    simpa [isCancelled] using hnot
  rw [waitResult?_prompt, hlive, if_neg Bool.false_ne_true, hanswer]

/-- A task goes on with the answer that has been accepted, if the run is neither paused nor stopped before. -/
lemma goesOnWith_of_accepted (x : Ensemble) (s : Setup) (moves : List Move) {i id : Nat}
    (hasks : ((x.newRun s).afterAll s moves).asks? s (.step i) = some (i, id)) {later : List Move} {a : Answer}
    (hlater : ¬ (((x.newRun s).afterAll s moves).after s (.step i)).Happens s (Steps s i) later)
    (hhalts : ¬ (((x.newRun s).afterAll s moves).after s (.step i)).Happens s (Halts s) later)
    (ha : (id, a) ∈ (((x.newRun s).afterAll s moves).after s (.step i)).accepted s later) :
    ((((x.newRun s).afterAll s moves).after s (.step i)).afterAll s later).GoesOnWith s i id a := by
  obtain ⟨t, p, node, resumption, -, ht, hstatus, hnode, hresult⟩ :=
    waitResult?_of_accepted x s moves hasks hlater hhalts ha
  refine ⟨t, p, node, resumption, ht, hstatus, hnode, ?_⟩
  rw [step?_waiting s ht hstatus, hresult, Option.map_some, leaveWait_eq_close, sequel, hnode]
  rfl

/-- A run that is running fails when a task goes on with a rejection. -/
lemma GoesOnWith.rejected {id : Nat} {reason : String} (h : r.GoesOnWith s i id (.rejected reason))
    (hrunning : r.state = .running) :
    (r.after s (.step i)).state = .stopped ∧
      (r.after s (.step i)).finished = some (.ofError (some (.prompt reason))) := by
  obtain ⟨t, p, node, resumption, -, -, -, hstep⟩ := h
  have hawake := r.modifies_awake i (.prompt id)
  have hresolve := (r.awake i (.prompt id)).modifies_resolve t.done 0
  have hbefore : ((r.awake i (.prompt id)).resolve t.done 0).state = .running :=
    ((hresolve .state (by decide)).trans (hawake .state (by decide))).trans hrunning
  have hafter : r.after s (.step i) =
      (((r.awake i (.prompt id)).resolve t.done 0).stop s (some (.prompt reason))).setStatus i .ended := by
    rw [after, hstep, Option.getD_some]
    rfl
  rw [hafter]
  refine ⟨state_stop _ s _, ?_⟩
  rw [stop_eq _ s _ (by rw [hbefore]; decide)]
  rfl

/-- Prompts are numbered one after another, in the notices as in what the tasks wait for, and each is asked by one task.
At most one answer to a prompt is accepted, and one that is refused changes nothing.  A wait for a prompt brings nothing
but an answer that has been accepted for this very prompt, which this very task has asked for, and never again; and if
the run is neither paused nor stopped from the question to the next step of the task, that step goes on with it. -/
theorem answers_used_once (x : Ensemble) (s : Setup) (moves : List Move) :
    let first := x.newRun s
    let r := first.afterAll s moves
    (first.allSent s moves).filterMap Notice.prompt? = List.range' 1 r.prompts.issued ∧
    (first.asked s moves).map (·.2) = List.range' 1 r.prompts.issued ∧
    ((first.accepted s moves).map (·.1)).Nodup ∧
    (∀ id a, (r.answer id a).1 = false → (r.answer id a).2 = r) ∧
    (∀ i t p id resumption result, r.tasks[i]? = some t → t.status = .waiting p (.prompt id) resumption →
      r.waitResult? t.token (.prompt id) = some result →
      result = .error .cancelled ∨ ∃ a, result = a.result ∧ r.uses? (.step i) = some (i, id, a)) ∧
    ((first.used s moves).map (·.2.1)).Nodup ∧
    (∀ i id a, (i, id, a) ∈ first.used s moves → (i, id) ∈ first.asked s moves ∧ (id, a) ∈ first.accepted s moves) ∧
    (∀ i id, r.asks? s (.step i) = some (i, id) → ∀ later,
      ¬ (r.after s (.step i)).Happens s (Steps s i) later → ¬ (r.after s (.step i)).Happens s (Halts s) later →
      ∀ a, (id, a) ∈ (r.after s (.step i)).accepted s later →
      let q := (r.after s (.step i)).afterAll s later
      q.GoesOnWith s i id a ∧ ∀ reason, a = .rejected reason →
        (q.after s (.step i)).state = .stopped ∧
        (q.after s (.step i)).finished = some (.ofError (some (.prompt reason)))) := by
  intro first r
  have hattended := attended_afterAll x s moves
  have hbooks := accounted_afterAll x s moves
  refine ⟨(prompts_allSent x s moves).trans hbooks.numbers, hbooks.numbers, hbooks.givenOnce, ?_, ?_, hbooks.takenOnce,
    fun i id a h => ⟨(hbooks.spent _ h).1, (hbooks.spent _ h).2.1⟩, ?_⟩
  · intro id a hrefused
    exact congrArg Prod.snd (answer_refused hattended hrefused)
  · intro i t p id resumption result ht hstatus hresult
    rw [waitResult?_prompt] at hresult
    split at hresult
    · exact .inl (Option.some.inj hresult).symm
    · next hlive =>
      split at hresult
      · next a hanswer =>
        refine .inr ⟨a, (Option.some.inj hresult).symm, ?_⟩
        rw [uses?, ht, Option.bind_some, Task.await?, hstatus]
        simp [hlive, hanswer]
      · split at hresult
        · cases hresult
        · exact .inl (Option.some.inj hresult).symm
  · intro i id hasks later hsteps hhalts a ha q
    have hgoes : q.GoesOnWith s i id a := goesOnWith_of_accepted x s moves hasks hsteps hhalts ha
    refine ⟨hgoes, ?_⟩
    rintro reason rfl
    exact hgoes.rejected (running_afterAll (of_asks? (sound_afterAll x s moves) hattended hasks).1 hhalts).1

/-- Two branches ask at once.  The one that has asked later is answered first, and a second answer is refused; the
other one is rejected. -/
theorem answers_used_once_forked :
    let nodes : Dict Node :=
      [("f", { Node.ofPrimitive .fork with
          arguments := .obj [("branch_name", .str "side")], next := [some "a", some "b"] }),
        ("a", Node.ofPrimitive .waitOption), ("b", Node.ofPrimitive .waitOption)]
    let s : Setup := { definition := { scenarioId := 1, content := { entry := "f", nodes } }, folder := [] }
    let x : Ensemble := { files := {} }
    let answers : List Move := [.answer 2 (.value 5), .answer 1 (.rejected "no")]
    let main := (x.newRun s).afterAll s [.start, .step 0]
    let side := (x.newRun s).afterAll s [.start, .step 0, .step 0]
    let answered := (x.newRun s).afterAll s [.start, .step 0, .step 0, .step 1, .answer 2 (.value 5)]
    (answered.answer 2 (.value 6)).2 = answered ∧
      ((side.after s (.step 1)).afterAll s answers).GoesOnWith s 1 2 (.value 5) ∧
      ((main.after s (.step 0)).afterAll s (.step 1 :: answers)).GoesOnWith s 0 1 (.rejected "no") ∧
      (((main.after s (.step 0)).afterAll s (.step 1 :: answers)).after s (.step 0)).finished =
        some (.ofError (some (.prompt "no"))) := by
  intro nodes s x answers main side answered
  obtain ⟨-, -, -, hrefused, -⟩ := answers_used_once x s [.start, .step 0, .step 0, .step 1, .answer 2 (.value 5)]
  obtain ⟨-, -, -, -, -, -, -, hside⟩ := answers_used_once x s [.start, .step 0, .step 0]
  obtain ⟨-, -, -, -, -, -, -, hmain⟩ := answers_used_once x s [.start, .step 0]
  have hlater : ¬ (side.after s (.step 1)).Happens s (Steps s 1) answers := by simp [Happens, Steps, answers]
  have hlater' : ¬ (main.after s (.step 0)).Happens s (Steps s 0) (.step 1 :: answers) := by
    simp [Happens, Steps, answers]
  have hhalts : ¬ (side.after s (.step 1)).Happens s (Halts s) answers := by
    rintro (⟨-, h⟩ | ⟨-, h⟩ | h)
    · exact h (by decide +kernel)
    · exact h (by decide +kernel)
    · exact h
  have hhalts' : ¬ (main.after s (.step 0)).Happens s (Halts s) (.step 1 :: answers) := by
    rintro (⟨-, h⟩ | ⟨-, h⟩ | ⟨-, h⟩ | h)
    · exact h (by decide +kernel)
    · exact h (by decide +kernel)
    · exact h (by decide +kernel)
    · exact h
  obtain ⟨hgoes, -⟩ := hside 1 2 (by decide +kernel) answers hlater hhalts (.value 5) (by decide +kernel)
  obtain ⟨hgoes', hrejected⟩ :=
    hmain 0 1 (by decide +kernel) (.step 1 :: answers) hlater' hhalts' (.rejected "no") (by decide +kernel)
  exact ⟨hrefused 2 (.value 6) (by decide +kernel), hgoes, hgoes', (hrejected "no" rfl).2⟩

/-! ## Pausing -/

lemma mem_along {α : Type} {f : Run → Move → List α} {moves : List Move} {y : α} (h : y ∈ along f s r moves) :
    ∃ before m rest, moves = before ++ m :: rest ∧ y ∈ f (r.afterAll s before) m := by
  induction moves generalizing r with
  | nil => exact absurd h List.not_mem_nil
  | cons m rest ih =>
    obtain h | h := List.mem_append.mp h
    · exact ⟨[], m, rest, rfl, h⟩
    · obtain ⟨before, m', rest', rfl, hy⟩ := ih h
      exact ⟨m :: before, m', rest', rfl, hy⟩

/-- An answer to a task whose epoch has ended is never used. -/
lemma notMem_used_of_cancelled (x : Ensemble) (s : Setup) (moves : List Move) {id : Nat}
    (ht : ((x.newRun s).afterAll s moves).tasks[i]? = some t) (ha : t.await? = some (.prompt id))
    (hcancelled : ((x.newRun s).afterAll s moves).isCancelled t.token = true) (later : List Move) (j : Nat)
    (a : Answer) :
    (j, id, a) ∉ ((x.newRun s).afterAll s moves).used s later := by
  intro hused
  obtain ⟨before, m, rest, rfl, huses⟩ := mem_along hused
  have huses := Option.mem_toList.mp huses
  obtain ⟨k, rfl⟩ : ∃ k, m = .step k := by
    cases m with
    | step k => exact ⟨k, rfl⟩
    | _ => cases huses
  obtain ⟨rfl, hj, -⟩ := of_uses? huses
  have hbooks := accounted_afterAll x s (moves ++ before)
  rw [afterAll_append] at hbooks
  have hasked : (i, id) ∈ (x.newRun s).asked s (moves ++ before) := by
    rw [asked, along_append]
    exact List.mem_append_left _ ((accounted_afterAll x s moves).waits i id ⟨t, ht, ha⟩)
  obtain rfl : i = j := hbooks.unique hasked (hbooks.waits _ _ hj)
  -- The task is still there, with the token that has been cancelled.
  have hgrows := (course_afterAll ((x.newRun s).afterAll s moves) s before).grows
  obtain ⟨status, hu⟩ := hgrows.task ht
  obtain ⟨u, hu', h⟩ := Option.bind_eq_some_iff.mp huses
  obtain rfl := Option.some.inj (hu.symm.trans hu')
  split at h
  · rw [isCancelled_of_grows hgrows hcancelled, if_pos rfl] at h
    cases h
  · cases h

/-- A run that has stopped has no pending prompts and accepts no answer.  Pausing leaves the prompts pending that tasks
wait for: each of these tasks will come to its end and do nothing more than take its prompt away, and nobody ever uses
an answer that is accepted until then.  Once all tasks have ended no prompt is left. -/
theorem paused_prompts_lapse (x : Ensemble) (s : Setup) (moves : List Move) :
    let r := (x.newRun s).afterAll s moves
    (r.state = .stopped → r.prompts.pending = [] ∧ ∀ id a, r.answer id a = (false, r)) ∧
    (r.state = .paused → ∀ id ∈ r.prompts.pending,
      (∃ i t, r.tasks[i]? = some t ∧ t.await? = some (.prompt id) ∧ (r.step? s i).isSome = true ∧
        ∀ r', r.step? s i = some r' → Frozen i t r r' ∧ r'.prompts = r.prompts.discard id) ∧
      ∀ later i a, (i, id, a) ∉ r.used s later) ∧
    (r.isIdle = true → r.prompts.pending = []) := by
  intro r
  have hsound : r.course.Sound := sound_afterAll x s moves
  have hattended : r.Attended s := attended_afterAll x s moves
  refine ⟨fun hstopped => ?_, fun hpaused id hid => ?_, fun hidle => ?_⟩
  · have hnone := hattended.rests hstopped
    refine ⟨hnone, fun id a => answer_refused hattended ?_⟩
    rw [answer, Prompts.isPending, hnone]
    rfl
  · obtain ⟨i, t, ht, ha⟩ := hattended.waited id hid
    have hcancelled : r.isCancelled t.token = true := by
      by_contra hlive
      have hrunning := (current_of_live hsound (List.mem_of_getElem? ht) (by simpa using hlive)).1
      exact absurd (hpaused.symm.trans hrunning) (by decide)
    obtain ⟨p, resumption, hstatus⟩ := Task.waiting_of_await? ha
    refine ⟨⟨i, t, ht, ha, step?_isSome s ht hcancelled (by rw [Task.hasEnded, hstatus]), fun r' hstep => ?_⟩,
      fun later j a => notMem_used_of_cancelled x s moves ht ha hcancelled later j a⟩
    refine ⟨frozen_step ht hcancelled hstep, ?_⟩
    rw [step?_waiting s ht hstatus, waitResult?_cancelled _ hcancelled, Option.map_some, leaveWait_cancelled] at hstep
    obtain rfl := Option.some.inj hstep
    rfl
  · refine List.eq_nil_iff_forall_not_mem.mpr fun id hid => ?_
    obtain ⟨i, t, ht, ha⟩ := hattended.waited id hid
    have hended : t.hasEnded = true := List.all_eq_true.mp hidle t (List.mem_of_getElem? ht)
    obtain ⟨p, resumption, hstatus⟩ := Task.waiting_of_await? ha
    rw [Task.hasEnded, hstatus] at hended
    cases hended

/-- A run that is paused while a branch waits for the host, and one that is stopped. -/
theorem paused_prompts_lapse_waitNext :
    let nodes : Dict Node := [("a", Node.ofPrimitive .waitNext)]
    let s : Setup := { definition := { scenarioId := 1, content := { entry := "a", nodes } }, folder := [] }
    let x : Ensemble := { files := {} }
    let paused := (x.newRun s).afterAll s [.start, .step 0, .pause]
    let stopped := (x.newRun s).afterAll s [.start, .step 0, .stop none]
    (∀ later i a, (i, 1, a) ∉ paused.used s later) ∧ (∀ id a, stopped.answer id a = (false, stopped)) ∧
      ((x.newRun s).afterAll s [.start, .step 0, .pause, .answer 1 (.value 0), .step 0]).prompts.pending = [] := by
  intro nodes s x paused stopped
  obtain ⟨-, hpaused, -⟩ := paused_prompts_lapse x s [.start, .step 0, .pause]
  obtain ⟨hstopped, -⟩ := paused_prompts_lapse x s [.start, .step 0, .stop none]
  obtain ⟨-, -, hidle⟩ := paused_prompts_lapse x s [.start, .step 0, .pause, .answer 1 (.value 0), .step 0]
  have hstate : paused.state = .paused := by decide +kernel
  have hpending : 1 ∈ paused.prompts.pending := by decide +kernel
  have hdown : stopped.state = .stopped := by decide +kernel
  exact ⟨(hpaused hstate 1 hpending).2, (hstopped hdown).2, hidle (by decide +kernel)⟩

/-- Right after a pause the prompt is still pending, and an answer to it is accepted. -/
theorem paused_prompts_answered :
    let nodes : Dict Node := [("a", Node.ofPrimitive .waitNext)]
    let s : Setup := { definition := { scenarioId := 1, content := { entry := "a", nodes } }, folder := [] }
    let x : Ensemble := { files := {} }
    let paused := (x.newRun s).afterAll s [.start, .step 0, .pause]
    paused.state = .paused ∧ paused.prompts.pending = [1] ∧ (paused.answer 1 (.value 0)).1 = true := by
  decide +kernel

end Run

end FieldStudy
