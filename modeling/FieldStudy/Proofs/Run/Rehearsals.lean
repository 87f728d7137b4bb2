import Mathlib.Data.List.Basic
import Mathlib.Tactic.Common
import FieldStudy.Proofs.Run.Interruptions

/-!
# Runs without interruption

Whatever walk a run has taken, pauses or not, there is a run from the same beginning that nobody interrupts and that
takes this walk with the same answers (`Run.Walked.rehearsed`).  Only the main branch takes steps in it, and after each
wait the host gives the answer or lets the time pass.
-/

namespace FieldStudy

namespace Run

variable {r r' q c c₀ : Run} {s : Setup} {i : Nat} {t : Task} {p p₀ : Point} {T : Tally}

/-- The host neither pauses nor resumes nor stops the run. -/
def Undisturbed (moves : List Move) : Prop := ∀ m ∈ moves, m ≠ .pause ∧ m ≠ .resume ∧ ∀ error, m ≠ .stop error

lemma Undisturbed.append {moves later : List Move} (h : Undisturbed moves) (h' : Undisturbed later) :
    Undisturbed (moves ++ later) := fun m hm => (List.mem_append.mp hm).elim (h m) (h' m)

lemma undisturbed_step (i : Nat) : Undisturbed [.step i] := by simp [Undisturbed]

/-- A run keeps its place if nobody interrupts it, nor begins it anew or touches its files. -/
lemma Undisturbed.keepsPlace {moves : List Move} (hmoves : Undisturbed moves)
    (hown : ∀ m ∈ moves, m ≠ .start ∧ ∀ shared, m ≠ .others shared) : r.KeepsPlace s p moves := by
  induction moves generalizing r p with
  | nil => trivial
  | cons m rest ih =>
    obtain ⟨hstart, hothers⟩ := hown m List.mem_cons_self
    obtain ⟨-, hresume, -⟩ := hmoves m List.mem_cons_self
    refine ⟨?_, ih (fun m' hm' => hmoves m' (List.mem_cons_of_mem m hm'))
      fun m' hm' => hown m' (List.mem_cons_of_mem m hm')⟩
    cases m with
    | start => exact absurd rfl hstart
    | resume => exact absurd rfl hresume
    | others shared => exact absurd rfl (hothers shared)
    | _ => trivial

lemma tallyAll_append (moves later : List Move) :
    r.tallyAll s T (moves ++ later) = (r.afterAll s moves).tallyAll s (r.tallyAll s T moves) later := by
  induction moves generalizing r T with
  | nil => rfl
  | cons m rest ih => exact ih

/-! ## The rest of an execution -/

/-- A move of the host that leaves the tasks alone, and what is left of the run when it is bare. -/
lemma Ready.unmoved (h : r.Ready s p c i t) (htasks : r'.tasks = r.tasks) (hstate : r'.state = r.state)
    (hcancelled : r'.cancelled = r.cancelled) (hbare : r'.bare = r.bare) (htidy : r'.desk.Tidy s) :
    r'.Ready s p c i t where
  task := htasks ▸ h.task
  last := htasks ▸ h.last
  live := (isLive_congr hstate hcancelled _).trans h.live
  main := h.main
  bare := hbare.trans h.bare
  kept := kept?_of_bare hbare ▸ h.kept
  tidy := htidy

/-- Time passes up to a deadline. -/
def passTime (r : Run) (deadline : Option Nat) : Ensemble where
  files := r.files
  notices := r.notices
  calls := r.calls
  agenda := { r.agenda with clock := deadline.getD r.clock }

/-- A wait that the host has no part in is over when the time has passed. -/
lemma waitResult?_isSome {a b : Await} {v : Int} {token : Nat} (hshape : b.shape = a.shape) (hv : c.passing? b = some v)
    (hsignals : r.signals = c.signals) (hlive : r.isCancelled token = false)
    (hzero : ∀ id v, r.signals.value? id = some v → v = 0)
    (hclock : ∀ deadline, a.deadline? = some deadline → deadline ≤ r.clock) :
    ∃ result, r.waitResult? token a = some result := by
  cases a with
  | time deadline => exact ⟨.ok 0, by simp [waitResult?, hlive, hclock deadline rfl]⟩
  | prompt id =>
    cases b with
    | prompt id' => cases hv
    | _ => cases hshape
  | signals all ids deadline =>
    cases b with
    | signals all' ids' deadline' =>
      obtain ⟨rfl, rfl, hdeadline⟩ := Await.signals.inj hshape
      rw [waitResult?_signals hlive hzero]
      rw [passing?, ← hsignals] at hv
      rw [answer?]
      split at hv
      · next hmeets => exact ⟨.ok 0, by rw [if_pos hmeets]; rfl⟩
      · next hmeets =>
        cases deadline with
        | none =>
          have hnone : deadline' = none := by simpa using hdeadline
          rw [hnone] at hv
          cases hv
        | some time => exact ⟨.ok 1, by simp [hmeets, hclock time rfl]⟩
    | _ => cases hshape

/-- A prompt that has just been asked for is pending, and it has no answer yet. -/
lemma Worked.asks (hforks : s.definition.ForkFree) (hbackend : s.backend.Plain) (hnumbered : r.prompts.Numbered)
    {node : Node} {id : Nat} {resumption : Resumption}
    (h : r.Worked s i t p (.acted node (.waits (.prompt id) resumption)) q) :
    q.prompts.isPending id = true ∧ q.prompts.answers.find? (·.1 == id) = none := by
  obtain ⟨r₁, hleads, -, hcomes⟩ := ((h.works hforks hbackend).2 node _ rfl).waits _ _ rfl
  cases hcomes with
  | ends ho => exact ho.elim
  | waits _ ha => cases ha
  | asks _ hprompts =>
    rw [hprompts]
    refine ⟨by simp [Prompts.isPending, Prompts.issue], List.find?_eq_none.mpr fun x hx => ?_⟩
    have hle := (hnumbered.leads hleads).answers x hx
    simp only [beq_iff_eq]
    omega

/-- The answer to a prompt that is waited for ends the wait. -/
lemma waitResult?_answer {id token : Nat} (hnumbered : r.prompts.Numbered) (hpending : r.prompts.isPending id = true)
    (hnone : r.prompts.answers.find? (·.1 == id) = none) (hlive : (r.answer id a).2.isCancelled token = false) :
    (r.answer id a).2.prompts.answer? id = some a ∧
      (r.answer id a).2.waitResult? token (.prompt id) = some a.result := by
  have hanswer : (r.answer id a).2.prompts.answer? id = some a := by
    rw [prompts_answer, Prompts.answer, if_pos hpending, Prompts.answer?]
    simp [hnumbered.deserted, List.find?_append, hnone]
  refine ⟨hanswer, ?_⟩
  rw [waitResult?, hlive, if_neg Bool.false_ne_true, hanswer]
  cases a <;> rfl

lemma Outcome.waits_of_shape {o : Outcome} {b : Await} {resumption : Resumption}
    (h : o.shape = (Outcome.waits b resumption).shape) : ∃ a, o = .waits a resumption ∧ b.shape = a.shape := by
  cases o with
  | waits a resumption' =>
    obtain ⟨hshape, rfl⟩ := Outcome.waits.inj h
    exact ⟨a, rfl, hshape.symm⟩
  | done code => cases h
  | fails e => cases h

/-- Some moves take a task from a step of its own to the end of an execution, and nobody interrupts them. -/
structure Rehearses (s : Setup) (r : Run) (i : Nat) (T : Tally) (e : Execution) (node : Node) (y : Outcome × Run)
    (moves : List Move) : Prop where
  keeps : ∀ p, r.KeepsPlace s p (.step i :: moves)
  undisturbed : Undisturbed moves
  done : (r.tallyAll s T (.step i :: moves)).done = T.done ++ [e]
  leads : ∀ next, followed node y.1 y.2.state = some next →
    ∃ u, (r.afterAll s (.step i :: moves)).Alone i u ∧ u.status = .entering next

/-- A step up to a wait, and what ends this wait. -/
lemma Rehearses.prepend {T T' : Tally} {e : Execution} {node : Node} {y : Outcome × Run} {moves : List Move} {m : Move}
    (htally : r.tally s T (.step i) = T') (hdone : T'.done = T.done) (hm : Undisturbed [m])
    (hnext : ∀ p, (r.after s (.step i)).Permits s p m)
    (hquiet : (r.after s (.step i)).tally s T' m = T')
    (h : Rehearses s ((r.after s (.step i)).after s m) i T' e node y moves) :
    Rehearses s r i T e node y (m :: .step i :: moves) where
  keeps _ := ⟨trivial, hnext _, h.keeps _⟩
  undisturbed := hm.append ((undisturbed_step i).append h.undisturbed)
  done := by
    rw [tallyAll, tallyAll, htally, hquiet, h.done, hdone]
  leads := h.leads

/-- An action that waits, with the run on which it waits in the same way. -/
lemma Ready.asleep (hforks : s.definition.ForkFree) (h : r.Ready s p c i t) {a b : Await} {resumption : Resumption}
    {node : Node} {d : Run} (hworked : r.Worked s i t p (.acted node (.waits a resumption)) q)
    (hturn : r.turn? s i = some (p, .acted node (.waits a resumption)))
    (hclose : r.after s (.step i) = q.close s i t p (.acted node (.waits a resumption)))
    (hrenders : Renders r (.waits a resumption, q) (.waits b resumption, d)) :
    (r.after s (.step i)).Ready s p c i { t with status := .waiting p a resumption } ∧ d.bare = c ∧
      d.state = .running := by
  obtain ⟨hwaiting, -⟩ := h.waits hforks hworked hturn hclose hrenders
  obtain ⟨hsame, hrunning⟩ := hrenders.waits a resumption rfl
  exact ⟨hwaiting, (hrenders.same.run.symm.trans hsame).trans h.bare, hrenders.state.trans hrunning⟩

/-- When the time has passed up to its deadline a wait is over that the host has no part in. -/
lemma Ready.passed (h : r.Ready s p c i t) (htame : r.Tame) {a b : Await} {v : Int} (hshape : b.shape = a.shape)
    {d : Run} (hv : d.passing? b = some v) (hd : d.bare = c) :
    (r.after s (.others (r.passTime a.deadline?))).Ready s p c i t ∧
      ∃ result, (r.after s (.others (r.passTime a.deadline?))).waitResult? t.token a = some result := by
  have hready : (r.after s (.others (r.passTime a.deadline?))).Ready s p c i t :=
    h.unmoved rfl rfl rfl (lend_bare rfl) (tidy_lend h.tidy rfl)
  have hsignals : (r.after s (.others (r.passTime a.deadline?))).signals = d.signals :=
    (congrArg signals (hready.bare.trans hd.symm) :)
  refine ⟨hready, waitResult?_isSome hshape hv hsignals (of_isLive hready.live).2 htame.zero fun time htime => ?_⟩
  show time ≤ (a.deadline?.getD r.clock)
  rw [htime, Option.getD_some]

/-- When the host answers a prompt the wait for it is over. -/
lemma Ready.answered (h : r.Ready s p c i t) (htame : r.Tame) {id : Nat} (hpending : r.prompts.isPending id = true)
    (hnone : r.prompts.answers.find? (·.1 == id) = none) (a : Answer) (resumption : Resumption) :
    (r.after s (.answer id a)).Ready s p c i t ∧
      (r.after s (.answer id a)).waitResult? t.token (.prompt id) = some a.result ∧
      (r.after s (.answer id a)).heard [] (.waiting p (.prompt id) resumption) = [a] := by
  have hanswer := r.modifies_answer id a
  have hready : (r.after s (.answer id a)).Ready s p c i t :=
    h.unmoved (hanswer .tasks (by decide)) (hanswer .state (by decide)) (hanswer .cancelled (by decide))
      (hanswer.bare (by decide)) (hanswer.desk (by decide) ▸ h.tidy)
  obtain ⟨hgiven, hresult⟩ := waitResult?_answer htame.prompted.numbered hpending hnone (of_isLive hready.live).2
  refine ⟨hready, hresult, ?_⟩
  show [] ++ ((r.answer id a).2.prompts.answer? id).toList = [a]
  rw [hgiven]
  rfl

/-- An execution is taken to its end with the answers that it is given. -/
lemma Concludes.rehearsed (hforks : s.definition.ForkFree) (hbackend : s.backend.Plain) {answers : List Answer}
    {z y : Outcome × Run} (h : Concludes s answers z y) {node : Node} (hnode : s.definition.node? p.node = some node)
    {result : Except ScenarioError Int} (hresult : y.1.result? = some result) {o : Outcome} (htame : r.Tame)
    (hready : r.Ready s p c i t) (hturn : r.turn? s i = some (p, .acted node o))
    (hworked : r.Worked s i t p (.acted node o) q) (hclose : r.after s (.step i) = q.close s i t p (.acted node o))
    (hrenders : Renders r (o, q) z) (T : Tally) :
    ∃ moves, Rehearses s r i T ⟨p.node, r.heard T.answers t.status ++ answers, result⟩ node y moves := by
  have hfirst := tally_live T hready.task hready.live hready.main hturn
  induction h generalizing r q t o T with
  | @ends o' d ho =>
    obtain rfl : o = o' := Outcome.eq_of_shape ho hrenders.same.outcome.symm
    refine ⟨[], fun _ => ⟨trivial, trivial⟩, fun _ hm => absurd hm List.not_mem_nil, ?_, fun next hnext => ?_⟩
    · show (r.tally s T (.step i)).done = _
      rw [hfirst, show (Turn.acted node o).result? = some result from hresult, List.append_nil]
      rfl
    · cases o with
      | done code =>
        rw [followed] at hnext
        split at hnext
        · next hrunning =>
          obtain ⟨id, hid, rfl⟩ := Option.map_eq_some_iff.mp hnext
          have hstate : q.state = .running := hrenders.state.symm.trans hrunning
          exact ⟨_, (hready.passesOn hforks htame hworked hturn hclose hid hstate).toAlone, rfl⟩
        · cases hnext
      | fails e => cases hnext
      | waits a resumption => cases hnext
  | @passes b resumption d v answers y hv hrest ih =>
    obtain ⟨a, rfl, hshape⟩ := Outcome.waits_of_shape hrenders.same.outcome
    obtain ⟨hwaiting, hd, hdstate⟩ := hready.asleep hforks hworked hturn hclose hrenders
    have htame₁ := htame.after hforks hbackend (.step i)
    -- The time passes up to the deadline.
    have htame₂ := htame₁.after hforks hbackend (.others ((r.after s (.step i)).passTime a.deadline?))
    obtain ⟨hready₂, result₁, hresult₁⟩ := hwaiting.passed htame₁ hshape hv hd
    obtain ⟨o', q', result', hturn', hworked', hclose', hyields, hrenders'⟩ :=
      hready₂.wakes hbackend htame₂ rfl hnode hshape hd hdstate hresult₁
    obtain ⟨hnothing, rfl⟩ := hyields.of_passing hv
    obtain ⟨moves, hmoves⟩ := ih hresult htame₂ hready₂ hturn' hworked' hclose' hrenders'
      ⟨r.heard T.answers t.status, T.done⟩ (tally_live _ hready₂.task hready₂.live hready₂.main hturn')
    rw [heard_waiting, hnothing, List.append_nil] at hmoves
    exact ⟨_, hmoves.prepend (m := .others ((r.after s (.step i)).passTime a.deadline?)) hfirst rfl
      (by simp [Undisturbed]) (fun _ => rfl) rfl⟩
  | @hears id resumption d a answers y hrest ih =>
    obtain ⟨await, rfl, hshape⟩ := Outcome.waits_of_shape hrenders.same.outcome
    obtain ⟨id', rfl⟩ : ∃ id', await = .prompt id' := by
      cases await with
      | prompt id' => exact ⟨id', rfl⟩
      | _ => cases hshape
    obtain ⟨hwaiting, hd, hdstate⟩ := hready.asleep hforks hworked hturn hclose hrenders
    have htame₁ := htame.after hforks hbackend (.step i)
    obtain ⟨hpending, hnone⟩ := hworked.asks hforks hbackend htame.prompted.numbered
    rw [← (hready.waits hforks hworked hturn hclose hrenders).2] at hpending hnone
    -- The host answers.
    have htame₂ := htame₁.after hforks hbackend (.answer id' a)
    obtain ⟨hready₂, hresult₁, hheard⟩ := hwaiting.answered htame₁ hpending hnone a resumption
    obtain ⟨o', q', result', hturn', hworked', hclose', hyields, hrenders'⟩ :=
      hready₂.wakes hbackend htame₂ rfl hnode hshape hd hdstate hresult₁
    rw [hheard] at hyields
    obtain ⟨a', ha', rfl⟩ := hyields.of_prompt
    obtain rfl := List.singleton_inj.mp ha'
    obtain ⟨moves, hmoves⟩ := ih hresult htame₂ hready₂ hturn' hworked' hclose' hrenders'
      ⟨r.heard T.answers t.status, T.done⟩ (tally_live _ hready₂.task hready₂.live hready₂.main hturn')
    rw [heard_waiting, hheard, List.append_assoc] at hmoves
    exact ⟨_, hmoves.prepend (m := .answer id' a) hfirst rfl (by simp [Undisturbed]) (fun _ => trivial) rfl⟩

/-! ## Whole walks -/

/-- Every walk from the beginning of a run is taken by one that nobody interrupts. -/
theorem Walked.rehearsed (hforks : s.definition.ForkFree) (hbackend : s.backend.Plain) (htame : r.Tame)
    (hbegins : r.begins s .start = true) {es : List Execution} {place : Option Point}
    (h : Walked s (r.after s .start) ⟨s.entry, none⟩ es place c) :
    ∃ moves, (r.after s .start).KeepsPlace s ⟨s.entry, none⟩ moves ∧ Undisturbed moves ∧
      (r.after s .start).executions s moves = es ∧
      ∀ p, place = some p → ∃ i t, ((r.after s .start).afterAll s moves).Alone i t ∧ t.status = .entering p := by
  have htame₀ := htame.after hforks hbackend .start
  have hstage := stage_begins htame hbegins
  obtain ⟨hrunning, hboard, hlive⟩ := begun htame hbegins
  have htasks : (r.after s .start).tasks =
      r.tasks ++ [⟨mainBranch, r.signals.next, r.tokens, .entering ⟨s.entry, none⟩⟩] := congrArg Board.tasks hboard
  generalize r.after s .start = r₀ at *
  induction h with
  | begins =>
    have ht : r₀.tasks[r.tasks.length]? = some ⟨mainBranch, r.signals.next, r.tokens, .entering ⟨s.entry, none⟩⟩ := by
      rw [htasks, List.getElem?_concat_length]
    refine ⟨[], trivial, fun _ hm => absurd hm List.not_mem_nil, rfl, fun p hp => ⟨_, _, ⟨ht, ?_, ?_⟩, ?_⟩⟩
    · rw [afterAll_nil, htasks, List.length_append, List.length_singleton]
    · simp [isLive, hrunning, hlive]
    · rw [Option.some.inj hp]
  | @goesOn es p c q node x answers o result hwalked hopening hconcludes hresult ih =>
    obtain ⟨moves, hkeeps, hplain, hdone, hplace⟩ := ih
    obtain ⟨i, t, halone, hstatus⟩ := hplace p rfl
    have hlater := stage_afterAll hforks hbackend htame₀ hstage hkeeps
    have htame₁ := htame₀.afterAll hforks hbackend moves
    have hmain := (htame₁.last halone.task halone.live).2
    have hready : (r₀.afterAll s moves).Ready s p c i t := by
      cases hlater with
      | stopped _ hstopped =>
        rw [(of_isLive halone.live).1] at hstopped
        cases hstopped
      | underWay hwalked' h =>
        obtain ⟨-, hp, rfl⟩ := hwalked.unique hwalked' (by rw [show (r₀.tallyAll s {} moves).done = es from hdone])
        obtain rfl := Option.some.inj hp
        exact ⟨halone, hmain, (h.bare hopening).1, (h.bare hopening).2, h.tidy⟩
    have hnext := turn?_entering s halone.task hstatus
    obtain ⟨q', hworked, hclose⟩ := after_step_eq halone.task hnext
    obtain ⟨hnone, -⟩ | ⟨node', o', x', hopening', hacted, hrenders⟩ :=
      hworked.opening hforks hbackend hstatus halone.live hmain
    · rw [hready.bare, hopening] at hnone
      cases hnone
    · rw [hready.bare, hopening] at hopening'
      obtain ⟨rfl, rfl⟩ := Prod.mk.inj (Option.some.inj hopening')
      rw [hacted] at hworked hclose hnext
      obtain ⟨more, hmore⟩ := hconcludes.rehearsed hforks hbackend (node_of_opening hopening) hresult htame₁ hready
        hnext hworked hclose hrenders (r₀.tallyAll s {} moves)
      refine ⟨moves ++ .step i :: more, (keepsPlace_append _ _).mpr ⟨hkeeps, hmore.keeps _⟩,
        hplain.append ((undisturbed_step i).append hmore.undisturbed), ?_, fun next hp => ?_⟩
      · rw [executions, tallyAll_append, hmore.done, show (r₀.tallyAll s {} moves).done = es from hdone, hstatus]
        rfl
      · obtain ⟨u, halone', hentering⟩ := hmore.leads next hp
        rw [afterAll_append]
        exact ⟨i, u, halone', hentering⟩

end Run

end FieldStudy
