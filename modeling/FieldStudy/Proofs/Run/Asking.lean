import Mathlib.Data.List.Range
import Mathlib.Tactic.Common
import FieldStudy.Proofs.Run.Reports
import FieldStudy.Proofs.Run.Walks

/-!
# Prompts and who waits for them

A prompt is issued by the very step that has a task wait for it, and the host is told its number (`Run.Asks`).  A step
takes the prompt away that its task has waited for, and may then issue one or, where it stops the run, withdraw all of
them; there is nothing else that a step does to the prompts (`Run.Handles`).  Branches may fork, and the backend may
reply what it likes.
-/

namespace FieldStudy

/-- The prompt that is to be waited for. -/
def Outcome.prompt? : Outcome → Option Nat
  | .waits (.prompt id) _ => some id
  | _ => none

/-- The prompt that the task waits for after its turn. -/
def Turn.prompt? : Turn → Option Nat
  | .acted _ outcome => outcome.prompt?
  | _ => none

namespace Run

variable {r r' q : Run} {s : Setup} {i : Nat} {t : Task}

/-- The task waits for the prompt. -/
def Awaits (r : Run) (i id : Nat) : Prop := ∃ t, r.tasks[i]? = some t ∧ t.await? = some (.prompt id)

/-- The task that a move has wait for the host, and its prompt. -/
def asks? (s : Setup) (r : Run) : Move → Option (Nat × Nat)
  | .step i => (r.turn? s i).bind fun (_, turn) => turn.prompt?.map (i, ·)
  | _ => none

/-! ## Prompts in notices -/

/-- The notices that are sent tell of these prompts. -/
def Carries (r r' : Run) (ids : List Nat) : Prop :=
  ∃ ns, r'.notices = r.notices ++ ns ∧ ns.filterMap Notice.prompt? = ids

lemma carries_of_eq (h : r'.notices = r.notices) : Carries r r' [] := ⟨[], by rw [h, List.append_nil], rfl⟩

lemma Modifies.carries {fs : List RunField} (h : Modifies fs r r') (hfs : .notices ∉ fs) : Carries r r' [] :=
  carries_of_eq (h .notices hfs)

lemma Carries.trans {ids ids' : List Nat} (h : Carries r q ids) (h' : Carries q r' ids') :
    Carries r r' (ids ++ ids') := by
  obtain ⟨ns, hns, rfl⟩ := h
  obtain ⟨ns', hns', rfl⟩ := h'
  exact ⟨ns ++ ns', by rw [hns', hns, List.append_assoc], List.filterMap_append⟩

lemma carries_emit (r : Run) (n : Notice) : Carries r (r.emit n) n.prompt?.toList :=
  ⟨[n], rfl, by cases n <;> rfl⟩

lemma carries_reported (r : Run) (error : Option ScenarioError) : Carries r (r.reported error) [] :=
  ⟨[.state .stopped, .finished (finishedError? (StopReason.ofError error)) r.metadata.abort],
    by simp [reported, emit], rfl⟩

lemma Sends.carries {kind : Notice → Bool} (h : Sends kind r r') (hkind : ∀ n, kind n = true → n.prompt? = none) :
    Carries r r' [] := by
  obtain ⟨ns, hns, hnotices⟩ := h.notices
  exact ⟨ns, hnotices, List.filterMap_eq_nil_iff.mpr fun n hn => hkind n (hns n hn)⟩

lemma carries_of_mic (h : Sends Notice.isOfMic r r') : Carries r r' [] := by
  refine h.carries fun n hn => ?_
  cases n <;> first | rfl | cases hn

/-! ## Actions -/

/-- No prompt is issued: they are left alone in a run that does not stop, or all are withdrawn. -/
inductive Leaves (r r' : Run) : Prop
  | quiet (hprompts : r'.prompts = r.prompts) (hstate : r'.state = .stopped → r.state = .stopped)
      (hsent : Carries r r' [])
  | clears (hprompts : r'.prompts = r.prompts.clear) (hsent : Carries r r' [])

lemma Leaves.refl (r : Run) : Leaves r r := .quiet rfl (fun h => h) (carries_of_eq rfl)

lemma Modifies.leaves {fs : List RunField} (h : Modifies fs r r')
    (hfs : ∀ f ∈ [RunField.prompts, .state, .notices], f ∉ fs) : Leaves r r' :=
  .quiet (h .prompts (hfs _ (by simp))) (fun hstate => (h .state (hfs _ (by simp))).symm.trans hstate)
    (h.carries (hfs _ (by simp)))

lemma Leaves.trans (h : Leaves r q) (h' : Leaves q r') : Leaves r r' := by
  cases h with
  | quiet hp hs hc =>
    cases h' with
    | quiet hp' hs' hc' => exact .quiet (hp'.trans hp) (fun hstate => hs (hs' hstate)) (hc.trans hc')
    | clears hp' hc' => exact .clears (hp ▸ hp') (hc.trans hc')
  | clears hp hc =>
    cases h' with
    | quiet hp' _ hc' => exact .clears (hp'.trans hp) (hc.trans hc')
    | clears hp' hc' => exact .clears (hp'.trans (by rw [hp]; rfl)) (hc.trans hc')

/-- What the work on an action does to the prompts: it issues the one that it waits for, and no other. -/
inductive Asks (r : Run) : Outcome → Run → Prop
  | leaves {o : Outcome} {q : Run} (ho : o.prompt? = none) (h : Leaves r q) : Asks r o q
  | issues (resumption : Resumption) {q : Run} (hprompts : q.prompts = r.prompts.issue)
      (hstate : q.state = .stopped → r.state = .stopped) (hsent : Carries r q [r.prompts.issued + 1]) :
      Asks r (.waits (.prompt (r.prompts.issued + 1)) resumption) q

lemma asks_of_modifies {fs : List RunField} {o : Outcome} (ho : o.prompt? = none) (h : Modifies fs r q)
    (hfs : ∀ f ∈ [RunField.prompts, .state, .notices], f ∉ fs) : Asks r o q :=
  .leaves ho (h.leaves hfs)

/-- The host has been told something before, but not of a prompt. -/
lemma Asks.after_emit {n : Notice} {o : Outcome} (h : Asks (r.emit n) o q) (hn : n.prompt? = none) : Asks r o q := by
  have hsent : Carries r (r.emit n) [] := by simpa [hn] using r.carries_emit n
  cases h with
  | leaves ho h =>
    have hemit : Leaves r (r.emit n) := .quiet rfl (fun hstate => hstate) hsent
    exact .leaves ho (hemit.trans h)
  | issues resumption hp hs hc => exact .issues resumption hp hs (hsent.trans hc)

lemma asks_promptThen (r : Run) (notice : Nat → Notice) (hnotice : ∀ id, (notice id).prompt? = some id)
    (resumption : Resumption) : Asks r (r.promptThen notice resumption).1 (r.promptThen notice resumption).2 := by
  refine .issues resumption rfl (fun h => h) ⟨[notice (r.prompts.issued + 1)], rfl, ?_⟩
  rw [List.filterMap_cons, hnotice, List.filterMap_nil]

lemma asks_showStages (r : Run) (stages : List DisplayStage) :
    Asks r (r.showStages stages).1 (r.showStages stages).2 := by
  induction stages with
  | nil => exact .leaves rfl (.refl r)
  | cons stage rest ih =>
    cases stage with
    | sleep seconds =>
      rw [showStages]
      split
      · exact .leaves rfl (.refl r)
      · exact ih
    | countdown seconds => exact r.asks_promptThen (.countdown · seconds) (fun _ => rfl) _
    | next => exact r.asks_promptThen .waitNext (fun _ => rfl) _

/-! ## Actions that do not ask -/

lemma prompt?_sleep (r : Run) (seconds : Double) (code : Int) : (r.sleep seconds code).1.prompt? = none := by
  rw [sleep]
  split <;> rfl

lemma prompt?_waitEvents (r : Run) (all : Bool) (a : EventArguments) : (r.waitEvents all a).1.prompt? = none := by
  rw [waitEvents]
  dsimp only
  split
  · rfl
  · split
    · rfl
    · split
      · rfl
      · split
        · exact r.prompt?_sleep _ 1
        · rfl

lemma prompt?_savedWith (r : Run) (s : Setup) (code : Int) : (r.savedWith s code).1.prompt? = none := by
  rw [savedWith]
  split <;> rfl

lemma prompt?_record (r : Run) (s : Setup) (op : RecordOp) (a : RecordArguments) :
    (r.record s op a).1.prompt? = none := by
  rw [record]
  split
  · rfl
  · exact prompt?_savedWith _ s 0

lemma prompt?_logInfo (r : Run) (s : Setup) (message : String) : (r.logInfo s message).1.prompt? = none := by
  rw [logInfo]
  dsimp only
  split <;> rfl

lemma prompt?_bind (r : Run) (s : Setup) (d : Device) (role : String) : (r.bind s d role).1.prompt? = none := by
  rw [bind]
  split
  · rfl
  · exact prompt?_savedWith _ s 0

lemma prompt?_bindChosen (r : Run) (s : Setup) (candidates : List Device) (role : String) (index : Int) :
    (r.bindChosen s candidates role index).1.prompt? = none := by
  rw [bindChosen]
  split
  · exact r.prompt?_bind s _ role
  · rfl

lemma prompt?_forEachSensor {step : Run → RoleBinding → String → Option Outcome × Run}
    (hstep : ∀ r b sensor o, (step r b sensor).1 = some o → o.prompt? = none) (pairs : List (RoleBinding × String))
    (r : Run) : (forEachSensor step pairs r).1.prompt? = none := by
  induction pairs generalizing r with
  | nil => rfl
  | cons pair rest ih =>
    obtain ⟨b, sensor⟩ := pair
    rw [forEachSensor]
    split
    · exact ih _
    · next o q hq => exact hstep r b sensor o (by rw [hq])

lemma prompt?_startSensor (s : Setup) (r : Run) (b : RoleBinding) (sensor : String) (o : Outcome)
    (h : (startSensor s r b sensor).1 = some o) : o.prompt? = none := by
  revert h
  rw [startSensor]
  split
  · rw [startMotion]
    split
    · rintro ⟨⟩
    · dsimp only
      split <;> rintro ⟨⟩ <;> rfl
  · split
    · rw [startMic]
      split
      · rintro ⟨⟩
        rfl
      · split
        · rintro ⟨⟩
          rfl
        · dsimp only
          split <;> rintro ⟨⟩
          rfl
    · rintro ⟨⟩

lemma prompt?_stopSensor (s : Setup) (r : Run) (b : RoleBinding) (sensor : String) (o : Outcome)
    (h : (stopSensor s r b sensor).1 = some o) : o.prompt? = none := by
  revert h
  rw [stopSensor]
  split
  · rw [stopMotion]
    split
    · rintro ⟨⟩
    · split <;> rintro ⟨⟩ <;> rfl
  · split
    · rw [stopMic]
      split
      · rintro ⟨⟩
      · dsimp only
        split <;> rintro ⟨⟩
        rfl
    · rintro ⟨⟩

lemma asks_of_sensors {o : Outcome} (ho : o.prompt? = none) (h : Modifies sensorFields r q)
    (hsent : Sends Notice.isOfMic r q) : Asks r o q :=
  .leaves ho (.quiet (h .prompts (by decide)) (fun hstate => (h .state (by decide)).symm.trans hstate)
    (carries_of_mic hsent))

lemma asks_select (r : Run) (s : Setup) (a : SelectArguments) : Asks r (r.select s a).1 (r.select s a).2 := by
  rw [select]
  dsimp only
  split
  · exact .leaves rfl (.refl r)
  · exact asks_of_modifies (r.prompt?_bind s _ _) (r.modifies_bind s _ _) (by decide)
  · exact r.asks_promptThen
      (fun id => .choice id ⟨none, a.prompt.map s.format, (a.filter.select s.available).map (·.type.text)⟩)
      (fun _ => rfl) _

/-- Stopping withdraws the prompts, unless the run has stopped before. -/
lemma leaves_stop (r : Run) (s : Setup) (error : Option ScenarioError) : Leaves r (r.stop s error) := by
  by_cases hstate : r.state = .stopped
  · rw [stop, if_pos hstate]
    exact .refl r
  · have hcancel : ({ r with state := .stopped } : Run).cancel.prompts = r.prompts :=
      modifies_cancel _ .prompts (by decide)
    have hclear : r.halt.prompts = r.prompts.clear := by
      rw [← hcancel]
      exact modifies_wake { ({ r with state := .stopped } : Run).cancel with
        prompts := ({ r with state := .stopped } : Run).cancel.prompts.clear } _ .prompts (by decide)
    obtain ⟨mics, hnotices⟩ := r.halt.notices_released s
    have hprompts : (r.halt.released s).prompts = r.prompts.clear :=
      (r.halt.modifies_released s .prompts (by decide)).trans hclear
    have hsent : Carries r (r.halt.released s) [] :=
      ⟨List.replicate mics (.micRecording false), r.halt_quiet.1 ▸ hnotices,
        List.filterMap_eq_nil_iff.mpr fun n hn => by rw [List.eq_of_mem_replicate hn]; rfl⟩
    rw [r.stop_eq s error hstate]
    generalize r.halt.released s = q at hprompts hsent
    exact .clears hprompts (hsent.trans (q.carries_reported error))

/-- Whatever an action is, it issues no prompt but the one that it waits for. -/
lemma asks_execute (r : Run) (s : Setup) (v : Visit) (a : Action) :
    Asks r (r.execute s v a).1 (r.execute s v a).2 := by
  have hsaved {fs : List RunField} {q : Run} (h : Modifies fs r q)
      (hfs : ∀ f ∈ [RunField.prompts, .state, .notices], f ∉ fs) (code : Int) :
      Asks r (q.savedWith s code).1 (q.savedWith s code).2 := by
    exact .leaves (q.prompt?_savedWith s code) ((h.leaves hfs).trans ((q.modifies_savedWith s code).leaves (by decide)))
  cases a with
  | nop => exact .leaves rfl (.refl r)
  | fork branch =>
    show Asks r (r.fork v branch).1 (r.fork v branch).2
    rw [fork]
    split
    · exact .leaves rfl (.refl r)
    · exact .leaves rfl (.quiet rfl (fun h => h) (carries_of_eq rfl))
  | join a =>
    show Asks r (r.join v a).1 (r.join v a).2
    rw [join]
    split
    · exact .leaves rfl (.refl r)
    · exact .leaves rfl (.refl r)
  | abort info =>
    have hset := r.modifies_updateMetadata fun m => { m with abort := some info }
    exact .leaves rfl ((hset.leaves (by decide)).trans (leaves_stop _ s (some (.aborted info))))
  | waitDelay seconds =>
    have hsame : Modifies [] r (r.sleep seconds 0).2 := .of_eq (r.sleep_run seconds 0)
    exact asks_of_modifies (r.prompt?_sleep seconds 0) hsame (by decide)
  | waitNext => exact r.asks_promptThen .waitNext (fun _ => rfl) _
  | waitOption a => exact r.asks_promptThen _ (fun _ => rfl) _
  | screenSleep enable => exact r.asks_promptThen (.screenSleep · enable) (fun _ => rfl) _
  | display primitive a =>
    exact (asks_showStages _ _).after_emit rfl
  | progress a => exact .leaves rfl (.quiet rfl (fun h => h) (r.carries_emit _))
  | event op a =>
    refine asks_of_modifies ?_ (r.modifies_event op a) (by decide)
    cases op with
    | wait => exact r.prompt?_waitEvents false a
    | waitAll => exact r.prompt?_waitEvents true a
    | _ => rfl
  | counter op a =>
    refine asks_of_modifies ?_ (r.modifies_counter op a) (by decide)
    cases op <;> rfl
  | metadataSet key value => exact hsaved (r.modifies_updateMetadata _) (by decide) 0
  | logInfo message => exact asks_of_modifies (r.prompt?_logInfo s message) (r.modifies_logInfo s message) (by decide)
  | record op a => exact asks_of_modifies (r.prompt?_record s op a) (r.modifies_record s op a) (by decide)
  | select a => exact r.asks_select s a
  | setConfig roles pairs => exact hsaved (r.modifies_mergeRoles _ _) (by decide) 0
  | dumpConfig roles keys => exact hsaved (r.modifies_updateMetadata _) (by decide) 0
  | pauseSensor paused roles => exact hsaved (r.modifies_mergeRoles _ _) (by decide) 0
  | startSensor a =>
    exact asks_of_sensors (prompt?_forEachSensor (prompt?_startSensor s) _ r) (r.modifies_startSensors s a)
      (r.tells_startSensors s a)
  | stopSensor a =>
    exact asks_of_sensors (prompt?_forEachSensor (prompt?_stopSensor s) _ r) (r.modifies_stopSensors s a)
      (r.tells_stopSensors s a)
  | deviceRecord primitive => exact .leaves rfl (.refl r)

lemma asks_proceed (r : Run) (s : Setup) (result : Except ScenarioError Int) (resumption : Resumption) :
    Asks r (r.proceed s result resumption).1 (r.proceed s result resumption).2 := by
  cases result with
  | error e => exact .leaves rfl (.refl r)
  | ok value =>
    cases resumption with
    | code code => exact .leaves rfl (.refl r)
    | answer => exact .leaves rfl (.refl r)
    | display rest => exact r.asks_showStages rest
    | bind candidates role =>
      exact asks_of_modifies (r.prompt?_bindChosen s candidates role value)
        (r.modifies_bindChosen s candidates role value) (by decide)

/-! ## Steps -/

lemma leaves_setStatus (r : Run) (i : Nat) (status : TaskStatus) : Leaves r (r.setStatus i status) :=
  (r.modifies_setStatus i status).leaves (by decide)

lemma leaves_resolve (r : Run) (signal : Nat) (value : Int) : Leaves r (r.resolve signal value) :=
  (r.modifies_resolve signal value).leaves (by decide)

lemma leaves_finishBranch (r : Run) (s : Setup) (t : Task) : Leaves r (r.finishBranch s t) := by
  rw [finishBranch]
  split
  · exact (r.leaves_resolve t.done 0).trans (leaves_stop _ s none)
  · exact r.leaves_resolve t.done 0

lemma leaves_failBranch (r : Run) (s : Setup) (t : Task) (e : ScenarioError) : Leaves r (r.failBranch s t e) := by
  cases e with
  | cancelled => exact .refl r
  | _ => exact (r.leaves_resolve t.done 0).trans (leaves_stop _ s _)

lemma leaves_suspend (r : Run) (i : Nat) (p : Point) (a : Await) (resumption : Resumption) :
    Leaves r (r.suspend i p a resumption) := by
  rw [suspend]
  split
  · exact .quiet rfl (fun h => h) (carries_of_eq rfl)
  · exact r.leaves_setStatus i _

/-- What follows from the turn of a task issues no prompt. -/
lemma leaves_close (r : Run) (s : Setup) (i : Nat) (t : Task) (p : Point) (turn : Turn) :
    Leaves r (r.close s i t p turn) := by
  cases turn with
  | dropped => exact r.leaves_setStatus i _
  | lost => exact (r.leaves_finishBranch s t).trans (leaves_setStatus _ i _)
  | ownJoin => exact (r.leaves_resolve t.done 0).trans (leaves_setStatus _ i _)
  | acted node outcome =>
    cases outcome with
    | done code =>
      rw [close, follow]
      split
      · exact r.leaves_setStatus i _
      · exact (r.leaves_finishBranch s t).trans (leaves_setStatus _ i _)
    | fails e => exact (r.leaves_failBranch s t e).trans (leaves_setStatus _ i _)
    | waits a resumption => exact r.leaves_suspend i p a resumption

/-- The prompts without the one that a task has waited for. -/
def dropped (r : Run) (t : Task) : Prompts :=
  match t.await? with
  | some (.prompt id) => r.prompts.discard id
  | _ => r.prompts

/-- What a step of a task does to the prompts. -/
inductive Handles (s : Setup) (r : Run) (i : Nat) (t : Task) (r' : Run) : Prop
  | leaves (hnone : r.asks? s (.step i) = none) (hprompts : r'.prompts = r.dropped t)
      (hstate : r'.state = .stopped → r.state = .stopped) (hsent : Carries r r' [])
  | clears (hnone : r.asks? s (.step i) = none) (hprompts : r'.prompts = (r.dropped t).clear) (hsent : Carries r r' [])
  | issues (hasks : r.asks? s (.step i) = some (i, r.prompts.issued + 1)) (hprompts : r'.prompts = (r.dropped t).issue)
      (hstate : r'.state = .stopped → r.state = .stopped) (hsent : Carries r r' [r.prompts.issued + 1])

lemma asks?_of_turn? {p : Point} {turn : Turn} (h : r.turn? s i = some (p, turn)) :
    r.asks? s (.step i) = turn.prompt?.map (i, ·) := by
  rw [asks?, h, Option.bind_some]

lemma Turn.prompt?_of_ended {p : Point} {turn : Turn} (h : turn.status p = .ended) : turn.prompt? = none := by
  cases turn with
  | acted node o =>
    cases o with
    | waits a resumption => cases h
    | _ => rfl
  | _ => rfl

lemma issued_dropped (r : Run) (t : Task) : (r.dropped t).issued = r.prompts.issued := by
  rw [dropped]
  split <;> rfl

/-- The wait is over, if there was one, and the work on an action begins. -/
structure Resumed (r : Run) (t : Task) (r₁ : Run) : Prop where
  prompts : r₁.prompts = r.dropped t
  state : r₁.state = r.state
  sent : Carries r r₁ []

lemma Resumed.leaves {r₁ : Run} (h : Resumed r t r₁) (hnone : r.asks? s (.step i) = none) (hleaves : Leaves r₁ r') :
    Handles s r i t r' := by
  cases hleaves with
  | quiet hp hs hc =>
    exact .leaves hnone (hp.trans h.prompts) (fun hstate => h.state ▸ hs hstate) (h.sent.trans hc)
  | clears hp hc => exact .clears hnone (h.prompts ▸ hp) (h.sent.trans hc)

lemma Resumed.asks {r₁ : Run} {p : Point} {node : Node} {o : Outcome} (h : Resumed r t r₁)
    (hturn : r.turn? s i = some (p, .acted node o)) (hasks : Asks r₁ o q) :
    Handles s r i t (q.close s i t p (.acted node o)) := by
  cases hasks with
  | leaves ho hleaves =>
    refine h.leaves ?_ (hleaves.trans (q.leaves_close s i t p _))
    rw [asks?_of_turn? hturn, Turn.prompt?, ho, Option.map_none]
  | issues resumption hp hs hc =>
    have hissued : r₁.prompts.issued = r.prompts.issued := by rw [h.prompts, issued_dropped]
    rw [hissued] at hturn hc ⊢
    exact .issues (asks?_of_turn? hturn) (hp.trans (by rw [h.prompts])) (fun hstate => h.state ▸ hs hstate)
      (h.sent.trans hc)

/-- What a step does to the prompts.  A task that waits does so at a node of the scenario. -/
lemma handles_step (ht : r.tasks[i]? = some t)
    (hplaced : ∀ p a resumption, t.status = .waiting p a resumption → (s.definition.node? p.node).isSome = true)
    (h : r.step? s i = some r') : Handles s r i t r' := by
  obtain ⟨u, p, turn, q, hu, hturn, hworked, rfl⟩ := step_cases h
  obtain rfl : u = t := Option.some.inj (hu.symm.trans ht)
  cases hworked with
  | enters hstatus hnone =>
    have hresumed : Resumed r u { r with point := some p } := by
      refine ⟨?_, rfl, carries_of_eq rfl⟩
      simp [dropped, Task.await?, hstatus]
    refine hresumed.leaves ?_ (leaves_close _ s i u p _)
    rw [asks?_of_turn? hturn, Turn.prompt?_of_ended (entry_of_none hnone).2, Option.map_none]
  | @takes node a hstatus hnode haction =>
    have hresumed : Resumed r u { r with point := some p } := by
      refine ⟨?_, rfl, carries_of_eq rfl⟩
      simp [dropped, Task.await?, hstatus]
    exact hresumed.asks hturn (asks_execute _ s _ a)
  | @goesOn a resumption result hstatus hresult =>
    have hawake := r.modifies_awake i a
    have hresumed : Resumed r u (r.awake i a) := by
      refine ⟨?_, hawake .state (by decide), hawake.carries (by decide)⟩
      cases a <;> simp [dropped, Task.await?, hstatus, awake, endWait]
    obtain ⟨node, hnode⟩ := Option.isSome_iff_exists.mp (hplaced p a resumption hstatus)
    have hsequel : r.sequel s i p a resumption result =
        .acted node ((r.awake i a).proceed s result resumption).1 := by rw [sequel, hnode]
    rw [hsequel] at hturn ⊢
    exact hresumed.asks hturn (asks_proceed _ s result resumption)

/-! ## The host -/

lemma leaves_start (r : Run) (s : Setup) : Leaves r (r.start s).2 := by
  by_cases hstate : r.state = .stopped
  · have hclear : r.clearPrompts.prompts = r.prompts.clear :=
      modifies_wake { r with prompts := r.prompts.clear } _ .prompts (by decide)
    have hreset : (r.reset s).prompts = r.prompts.clear :=
      (r.clearPrompts.modifies_releaseFiles .prompts (by decide) : r.clearPrompts.releaseFiles.prompts = _).trans hclear
    obtain ⟨q, hq, hstart⟩ := start_of_stopped s hstate
    have hfolder : q.prompts = r.prompts.clear := (hq .prompts (by decide)).trans hreset
    have hprompts : (r.start s).2.prompts = r.prompts.clear := by
      obtain ⟨e, hstart⟩ | hstart := hstart
      · rw [hstart]
        exact (q.modifies_cancel .prompts (by decide) : q.cancel.prompts = q.prompts).trans hfolder
      · rw [hstart]
        exact hfolder
    refine .clears hprompts ?_
    obtain ⟨-, -, hnotices⟩ | ⟨-, hquiet⟩ := r.told_start s hstate
    · exact ⟨_, hnotices, rfl⟩
    · exact carries_of_eq hquiet.notices
  · rw [start, if_pos hstate]
    exact .refl r

lemma leaves_pause (r : Run) (s : Setup) : Leaves r (r.pause s) := by
  by_cases hrunning : r.state = .running
  · have hcancel : Modifies [.cancelled, .agenda, .files] _ ({ r with state := .paused } : Run).cancel :=
      (modifies_cancel _).mono (by decide)
    have hsaved := ({ r with state := .paused } : Run).cancel.modifies_saveMetadata s
    have h := hcancel.trans (hsaved.mono (by decide))
    rw [pause, if_neg (not_not_intro hrunning)]
    generalize (({ r with state := .paused } : Run).cancel.saveMetadata s).2 = q at h
    have hpaused : q.state = .paused := h .state (by decide)
    refine .quiet (h .prompts (by decide)) (fun hstate => ?_)
      ⟨[.state .paused], congrArg (· ++ [Notice.state .paused]) (h .notices (by decide)), rfl⟩
    exact absurd (hpaused.symm.trans hstate) (by decide)
  · rw [pause, if_pos hrunning]
    exact .refl r

lemma leaves_resume (r : Run) (s : Setup) : Leaves r (r.resume s) := by
  by_cases hpaused : r.state = .paused
  · have hprompts : (r.resume s).prompts = r.prompts := r.modifies_resume s .prompts (by decide)
    have hsignal := (({ r with state := .running } : Run).renew.emit (.state .running)).quiet_branchSignal mainBranch
    rw [resume, if_neg (not_not_intro hpaused)] at hprompts ⊢
    dsimp only at hprompts ⊢
    generalize (({ r with state := .running } : Run).renew.emit (.state .running)).branchSignal mainBranch = q
      at hsignal hprompts
    have hrunning : q.2.state = .running := hsignal.state
    refine .quiet hprompts (fun hstate => ?_) ⟨[.state .running], hsignal.notices, rfl⟩
    exact absurd (hrunning.symm.trans hstate) (by decide)
  · rw [resume, if_pos hpaused]
    exact .refl r

/-- The host issues no prompts. -/
lemma leaves_host (r : Run) (s : Setup) {m : Move} (hstep : ∀ i, m ≠ .step i) (hanswer : ∀ id a, m ≠ .answer id a)
    (hothers : ∀ shared, m ≠ .others shared) : Leaves r (r.after s m) := by
  cases m with
  | start => exact r.leaves_start s
  | pause => exact r.leaves_pause s
  | resume => exact r.leaves_resume s
  | stop error => exact leaves_stop r s error
  | answer id a => exact absurd rfl (hanswer id a)
  | sample role sensor timestamp values =>
    exact (r.modifies_sample role sensor timestamp values).leaves (by decide)
  | step i => exact absurd rfl (hstep i)
  | others shared => exact absurd rfl (hothers shared)

end Run

end FieldStudy
