import Mathlib.Data.List.Basic
import Mathlib.Tactic.Common
import FieldStudy.Proofs.Run.Rehearsals

/-!
# Pausing is transparent

A run without forks comes to the same whether it is paused or not (`Run.pauses_are_transparent`): the executions of its
nodes are those of a run that nobody interrupts, and whatever lasts is the same wherever as many executions have come to
an end, in whatever way the runs have come there.  A node in which the run is paused has left nothing behind that lasts,
and the run goes on with this node from its start.
-/

namespace FieldStudy

namespace Run

variable {r r' q c c₀ : Run} {s : Setup} {i : Nat} {t : Task} {p p₀ p₁ : Point} {T T' : Tally}

/-! ## Runs with the same answers -/

lemma Stage.closed (h : Stage s c₀ p₀ T p r) :
    ∃ place c, Walked s c₀ p₀ T.done place c ∧ r.lasting.closed = c.lasting.closed ∧
      r.lasting = if r.state = .stopped then c.lasting.closed else c.lasting := by
  cases h with
  | underWay hwalked h => exact ⟨_, _, hwalked, congrArg Lasting.closed h.lasting, by rw [if_neg h.state, h.lasting]⟩
  | stopped hwalked hstate hlasting =>
    exact ⟨_, _, hwalked, by rw [hlasting, Lasting.closed_closed], by rw [if_pos hstate, hlasting]⟩

/-- Two runs from one beginning that have got the same answers. -/
lemma Stage.agree {p' : Point} (h : Stage s c₀ p₀ T p r) (h' : Stage s c₀ p₀ T' p' q)
    (hanswers : T'.done.map Execution.answers = T.done.map Execution.answers) :
    T'.done = T.done ∧ q.lasting.closed = r.lasting.closed ∧
      ((q.state = .stopped ↔ r.state = .stopped) → q.lasting = r.lasting) := by
  obtain ⟨place, c, hwalked, hclosed, hlasting⟩ := h.closed
  obtain ⟨place', c', hwalked', hclosed', hlasting'⟩ := h'.closed
  obtain ⟨hdone, -, rfl⟩ := hwalked'.unique hwalked hanswers
  exact ⟨hdone, hclosed'.trans hclosed.symm, fun hstate => by simp [hlasting, hlasting', hstate]⟩

/-! ## Interrupted nodes -/

/-- While a run is paused it neither goes on nor is anything counted. -/
lemma paused_after (htame : r.Tame) (hstate : r.state = .paused) (T : Tally) {m : Move} (hresume : m ≠ .resume)
    (hstop : ∀ error, m ≠ .stop error) : (r.after s m).state = .paused ∧ r.tally s T m = T := by
  cases m with
  | start => exact ⟨by rw [after, start, if_pos (by simp [hstate]), hstate], rfl⟩
  | pause => exact ⟨by rw [after, pause, if_pos (by simp [hstate]), hstate], rfl⟩
  | resume => exact absurd rfl hresume
  | stop error => exact absurd rfl (hstop error)
  | answer id a => exact ⟨(r.modifies_answer id a .state (by decide) : _ = r.state).trans hstate, rfl⟩
  | sample role sensor timestamp values =>
    exact ⟨(r.modifies_sample role sensor timestamp values .state (by decide) : _ = r.state).trans hstate, rfl⟩
  | others shared => exact ⟨hstate, rfl⟩
  | step i =>
    refine ⟨?_, tally_idle T fun t _ => .inl (by simp [isLive, hstate])⟩
    cases hstep : r.step? s i with
    | none => rw [after, hstep, Option.getD_none, hstate]
    | some r' =>
      obtain ⟨t, ht, -⟩ := Option.bind_eq_some_iff.mp hstep
      have hfrozen := frozen_step ht (htame.cancelled (by simp [hstate]) ht) hstep
      rw [after, hstep, Option.getD_some]
      exact (hfrozen.rest .state (by decide) : _ = r.state).trans hstate

/-- The host neither goes on with the run nor stops it. -/
def Idle (moves : List Move) : Prop := ∀ m ∈ moves, m ≠ .resume ∧ ∀ error, m ≠ .stop error

lemma paused_afterAll (hforks : s.definition.ForkFree) (hbackend : s.backend.Plain) (htame : r.Tame)
    (hstate : r.state = .paused) (T : Tally) (p : Point) {moves : List Move} (hmoves : Idle moves) :
    (r.afterAll s moves).state = .paused ∧ r.tallyAll s T moves = T ∧ r.placeAll s p moves = p := by
  induction moves generalizing r with
  | nil => exact ⟨hstate, rfl, rfl⟩
  | cons m rest ih =>
    obtain ⟨hresume, hstop⟩ := hmoves m (by simp)
    obtain ⟨hpaused, hsame⟩ := paused_after (s := s) htame hstate T hresume hstop
    rw [afterAll_cons, tallyAll, hsame, placeAll, place_of_state p (by simp [hpaused])]
    exact ih (htame.after hforks hbackend m) hpaused fun m' hm' => hmoves m' (List.mem_cons_of_mem m hm')

lemma Stage.point (htame : r.Tame) (h : Stage s c₀ p₀ T p₁ r) (ht : r.tasks[i]? = some t)
    (hlive : r.isLive t.token = true) (hp : t.point? = some p) : p = p₁ := by
  cases h with
  | stopped _ hstopped =>
    rw [(of_isLive hlive).1] at hstopped
    cases hstopped
  | underWay _ h => exact h.point htame ht hlive hp

/-- A run that is paused in a node goes on with this node from its start. -/
lemma Stage.interrupted (hforks : s.definition.ForkFree) (hbackend : s.backend.Plain) (htame : r.Tame)
    (h : Stage s c₀ p₀ T p r) (hrunning : r.state = .running) {idle : List Move} (hidle : Idle idle)
    (hmoves : r.KeepsPlace s p (.pause :: idle ++ [.resume])) :
    let back := r.afterAll s (.pause :: idle ++ [.resume])
    (∃ u, back.tasks.getLast? = some u ∧ back.isLive u.token = true ∧ u.status = .entering p) ∧
      r.tallyAll s T (.pause :: idle ++ [.resume]) = T ∧ back.lasting = r.lasting := by
  intro back
  have hpaused : (r.after s .pause).state = .paused := congrArg Prod.fst (verdict_pause s hrunning)
  obtain ⟨hbefore, hresume⟩ := (keepsPlace_snoc _ _).mp hmoves
  -- Nothing happens up to the resumption.
  obtain ⟨hstate, htally, hplace⟩ := paused_afterAll hforks hbackend (htame.after hforks hbackend .pause) hpaused
    (r.tally s T .pause) ((r.after s .pause).place p) hidle
  have hlater := stage_afterAll hforks hbackend htame h hbefore
  have htame' := htame.afterAll hforks hbackend (.pause :: idle)
  have hsame : r.tallyAll s T (.pause :: idle) = T := htally
  have hstill : r.placeAll s p (.pause :: idle) = p := hplace.trans (place_of_state p (by simp [hpaused]))
  have hback : back = (r.afterAll s (.pause :: idle)).resume s := afterAll_snoc s r _ _
  rw [hsame, hstill] at hlater
  rw [hstill] at hresume
  rw [tallyAll_snoc, hsame, hback]
  generalize hq : r.afterAll s (.pause :: idle) = q at hlater htame' hresume
  have hqstate : q.state = .paused := hq ▸ hstate
  cases hlater with
  | stopped _ hstopped => rw [hqstate] at hstopped; cases hstopped
  | underWay hwalked hunder =>
    cases h with
    | stopped _ hstopped => rw [hrunning] at hstopped; cases hstopped
    | underWay hwalked' hunder' =>
      obtain ⟨-, -, rfl⟩ := hwalked.unique hwalked' rfl
      obtain ⟨hgoes, v, htasks, hstatus⟩ := resumed (s := s) hqstate
      rw [show q.point.getD ⟨s.entry, none⟩ = p from hresume hqstate] at hstatus
      refine ⟨⟨v, by rw [htasks, List.getLast?_concat], ?_, hstatus⟩, rfl, ?_⟩
      · obtain ⟨k, w, hw, hk, hopen, -⟩ := (hunder.resume htame' hresume).walker hgoes
        obtain rfl : w = v := by
          rw [htasks, List.length_append, List.length_singleton] at hk
          obtain rfl : k = q.tasks.length := by omega
          rw [htasks, List.getElem?_concat_length] at hw
          exact (Option.some.inj hw).symm
        simp [isLive, hgoes, hopen]
      · exact (q.resume_lasting s).trans (hunder.lasting.trans hunder'.lasting.symm)

/-! ## Runs that are paused and resumed -/

/-- An execution in a run that keeps its place is of the successor that the one before has chosen. -/
lemma executions_successor (hforks : s.definition.ForkFree) (hbackend : s.backend.Plain) (htame : r.Tame)
    (hbegins : r.begins s .start = true) {moves : List Move}
    (hmoves : (r.after s .start).KeepsPlace s ⟨s.entry, none⟩ moves)
    (es : List Execution) {e e' : Execution} (h : (r.after s .start).executions s moves = es ++ [e, e']) :
    ∃ node code, s.definition.node? e.node = some node ∧ e.result = .ok code ∧
      node.successor? code = some e'.node := by
  obtain ⟨place, c, hwalked, -⟩ :=
    (stage_afterAll hforks hbackend (htame.after hforks hbackend .start) (stage_begins htame hbegins) hmoves).closed
  have hdone : ((r.after s .start).tallyAll s {} moves).done = es ++ [e, e'] := h
  rw [hdone] at hwalked
  exact hwalked.successor

/-- A run that is paused at will, and resumed wherever the execution point is the place of its walk.  Its executions are
those of a run that nobody interrupts; two runs that have given the same answers have the same executions, and the same
lasts of them; and a node in which the run is paused is executed once more from its start, without anything that lasts
of its first execution. -/
theorem pauses_are_transparent (x : Ensemble) (s : Setup) (before : List Move) (hforks : s.definition.ForkFree)
    (hbackend : s.backend.Plain) (hbegins : ((x.newRun s).afterAll s before).begins s .start = true)
    (moves : List Move) (hmoves : (((x.newRun s).afterAll s before).after s .start).KeepsPlace s ⟨s.entry, none⟩ moves) :
    let first := ((x.newRun s).afterAll s before).after s .start
    let r := first.afterAll s moves
    (∃ plain, first.KeepsPlace s ⟨s.entry, none⟩ plain ∧ Undisturbed plain ∧
      first.executions s plain = first.executions s moves ∧
      (r.state ≠ .stopped → (first.afterAll s plain).state ≠ .stopped)) ∧
    (∀ same, first.KeepsPlace s ⟨s.entry, none⟩ same →
      (first.executions s same).map Execution.answers = (first.executions s moves).map Execution.answers →
      let q := first.afterAll s same
      first.executions s same = first.executions s moves ∧ q.lasting.closed = r.lasting.closed ∧
        ((q.state = .stopped ↔ r.state = .stopped) → q.lasting = r.lasting)) ∧
    ∀ (i : Nat) (t : Task) (p : Point), r.tasks[i]? = some t → r.isLive t.token = true → t.point? = some p →
      ∀ idle, Idle idle → first.KeepsPlace s ⟨s.entry, none⟩ (moves ++ (.pause :: idle ++ [.resume])) →
        let back := first.afterAll s (moves ++ (.pause :: idle ++ [.resume]))
        (∃ u, back.tasks.getLast? = some u ∧ back.isLive u.token = true ∧ u.status = .entering p) ∧
          first.executions s (moves ++ (.pause :: idle ++ [.resume])) = first.executions s moves ∧
          back.lasting = r.lasting := by
  intro first r
  have htame := tame_afterAll hforks hbackend x before
  have htame₀ := htame.after hforks hbackend .start
  have hstage := stage_begins htame hbegins
  have hreached {moves : List Move} (hmoves : first.KeepsPlace s ⟨s.entry, none⟩ moves) :=
    stage_afterAll hforks hbackend htame₀ hstage hmoves
  refine ⟨?_, fun same hsame hanswers => (hreached hmoves).agree (hreached hsame) hanswers,
    fun i t p ht hlive hp idle hidle hback => ?_⟩
  · obtain ⟨place, c, hwalked, hplace⟩ : ∃ place c, Walked s first ⟨s.entry, none⟩ (first.executions s moves) place c ∧
        (r.state ≠ .stopped → ∃ p, place = some p) := by
      cases hreached hmoves with
      | underWay hwalked => exact ⟨_, _, hwalked, fun _ => ⟨_, rfl⟩⟩
      | stopped hwalked hstopped => exact ⟨_, _, hwalked, fun hstate => absurd hstopped hstate⟩
    obtain ⟨plain, hkeeps, hplain, hexecutions, halone⟩ := hwalked.rehearsed hforks hbackend htame hbegins
    refine ⟨plain, hkeeps, hplain, hexecutions, fun hstate => ?_⟩
    obtain ⟨p, hp⟩ := hplace hstate
    obtain ⟨i, t, halone, -⟩ := halone p hp
    exact state_of_isLive halone.live
  · intro back
    obtain ⟨hkeeps, hrest⟩ := (keepsPlace_append _ _).mp hback
    have hlater := hreached hkeeps
    have htame₁ := htame₀.afterAll hforks hbackend moves
    have hplace : p = first.placeAll s ⟨s.entry, none⟩ moves := hlater.point htame₁ ht hlive hp
    rw [← hplace] at hlater hrest
    have hinterrupted := hlater.interrupted hforks hbackend htame₁ (of_isLive hlive).1 hidle hrest
    have hafter : back = r.afterAll s (.pause :: idle ++ [.resume]) := afterAll_append s first moves _
    rw [hafter, executions, tallyAll_append]
    obtain ⟨hlast, htally, hlasting⟩ := hinterrupted
    exact ⟨hlast, congrArg Tally.done htally, hlasting⟩

/-- A choice that is asked for again after a pause, and a run that has asked for it once. -/
theorem pauses_are_transparent_choice :
    let nodes : Dict Node :=
      [("a", { Node.ofPrimitive .waitOption with next := [some "b"] }), ("b", Node.ofPrimitive .waitNext)]
    let s : Setup := { definition := { scenarioId := 1, content := { entry := "a", nodes } }, folder := [] }
    let x : Ensemble := { files := {} }
    let first := (x.newRun s).after s .start
    let asked := first.afterAll s [.step 0]
    let back := first.afterAll s [.step 0, .pause, .step 0, .resume]
    let chosen := first.afterAll s [.step 0, .pause, .step 0, .resume, .step 1, .answer 2 (.value 0), .step 1, .step 1]
    let plain := first.afterAll s [.step 0, .answer 1 (.value 0), .step 0]
    (∃ u, back.tasks.getLast? = some u ∧ back.isLive u.token = true ∧ u.status = .entering ⟨"a", none⟩) ∧
      back.lasting = asked.lasting ∧ plain.lasting = chosen.lasting := by
  intro nodes s x first asked back chosen plain
  have hforks : s.definition.ForkFree := by
    intro id node hnode
    have hmem : (id, node) ∈ nodes := Dict.mem_of_get? hnode
    have hall : ∀ e ∈ nodes, e.2.primitive ≠ .fork := by decide
    exact hall _ hmem
  have hbackend : s.backend.Plain := by
    refine ⟨fun _ _ _ => rfl, fun _ _ => rfl, fun _ _ _ => rfl, fun _ call => ?_, fun _ _ => by simp [s, Backend.none]⟩
    cases call <;> simp [s, Backend.none]
  have hbegins : (x.newRun s).begins s .start = true := by decide +kernel
  have hmoves : first.KeepsPlace s ⟨s.entry, none⟩
      [.step 0, .pause, .step 0, .resume, .step 1, .answer 2 (.value 0), .step 1, .step 1] := by decide +kernel
  have hplain : first.KeepsPlace s ⟨s.entry, none⟩ [.step 0, .answer 1 (.value 0), .step 0] := by decide +kernel
  have hasked : first.KeepsPlace s ⟨s.entry, none⟩ [.step 0] := by decide +kernel
  have hback : first.KeepsPlace s ⟨s.entry, none⟩ ([.step 0] ++ (.pause :: [.step 0] ++ [.resume])) := by decide +kernel
  have hanswers : (first.executions s [.step 0, .answer 1 (.value 0), .step 0]).map Execution.answers =
      (first.executions s [.step 0, .pause, .step 0, .resume, .step 1, .answer 2 (.value 0), .step 1, .step 1]).map
        Execution.answers := by decide +kernel
  have hstates : plain.state = .running ∧ chosen.state = .running := by decide +kernel
  have hat : asked.tasks[0]?.bind Task.point? = some ⟨"a", none⟩ := by decide +kernel
  have hgoes : asked.tasks[0]?.map (fun t => asked.isLive t.token) = some true := by decide +kernel
  obtain ⟨t, ht, hpoint⟩ := Option.bind_eq_some_iff.mp hat
  have hlive : asked.isLive t.token = true := by simpa [ht] using hgoes
  obtain ⟨-, hsame, -⟩ := pauses_are_transparent x s [] hforks hbackend hbegins _ hmoves
  obtain ⟨-, -, hinterrupted⟩ := pauses_are_transparent x s [] hforks hbackend hbegins _ hasked
  obtain ⟨hlast, -, hlasting⟩ := hinterrupted 0 t ⟨"a", none⟩ ht hlive hpoint [.step 0] (by simp [Idle]) hback
  refine ⟨hlast, hlasting, (hsame _ hplain hanswers).2.2 ?_⟩
  show plain.state = .stopped ↔ chosen.state = .stopped
  rw [hstates.1, hstates.2]

/-- A task that enters its point after it has been given up, and a run that is resumed before the main branch has come
to its next node: the node before is executed once more, as in no run that nobody interrupts.  So is a node that has
ended in silence since its backend has answered that it was cancelled, where the run would have come to rest. -/
theorem pauses_repeat_executions :
    let nodes : Dict Node :=
      [("a", { Node.ofPrimitive .counterInc with
          arguments := .obj [("name", .str "n")], next := [some "b"] }),
        ("b", Node.ofPrimitive .waitNext)]
    let s : Setup := { definition := { scenarioId := 1, content := { entry := "a", nodes } }, folder := [] }
    let x : Ensemble := { files := {} }
    let first := (x.newRun s).after s .start
    let stale : List Move := [.pause, .resume, .step 1, .step 1, .step 0, .pause, .resume, .step 2]
    let hasty : List Move := [.step 0, .pause, .resume, .step 1]
    let microphone : Json := .obj [("devices", .arr [.str "mobile_phone"]), ("sensors", .arr [.str "generic.mic"])]
    let recording : Dict Node :=
      [("off", { Node.ofPrimitive .deviceStopSensor with arguments := microphone }),
        ("on", { Node.ofPrimitive .deviceStartSensor with arguments := microphone, next := [some "off"] })]
    let backend : Backend :=
      { Backend.none with
        canRecord := fun _ => true
        reply := fun _ call => match call with
          | .stopRecording _ => .error .cancelled
          | _ => .ok true }
    let t : Setup :=
      { definition := { scenarioId := 1, content := { entry := "on", nodes := recording } }, folder := []
        preselected := [⟨.mobilePhone, [⟨"", "generic.mic", []⟩], []⟩], backend }
    let begun := (x.newRun t).after t .start
    let rest := begun.afterAll t [.step 0, .step 0]
    (∀ moves ∈ [stale, hasty], (first.afterAll s moves).counters.get? "n" = some 2 ∧
      ∀ plain, Undisturbed plain → (∀ m ∈ plain, m ≠ .start ∧ ∀ shared, m ≠ .others shared) →
        first.executions s plain ≠ first.executions s moves) ∧
    begun.executions t [.step 0, .step 0] = [⟨"on", [], .ok 0⟩, ⟨"off", [], .error .cancelled⟩] ∧
    rest.state = .running ∧ (∀ i, rest.step? t i = none) ∧
    rest.executions t [.pause, .resume, .step 1] = [⟨"off", [], .ok 0⟩] := by
  intro nodes s x first stale hasty microphone recording backend t begun rest
  refine ⟨fun moves hmoves => ?_, by decide +kernel, by decide +kernel, fun i => ?_, by decide +kernel⟩
  · have hforks : s.definition.ForkFree := by
      intro id node hnode
      have hmem : (id, node) ∈ nodes := Dict.mem_of_get? hnode
      have hall : ∀ e ∈ nodes, e.2.primitive ≠ .fork := by decide
      exact hall _ hmem
    have hbackend : s.backend.Plain := by
      refine ⟨fun _ _ _ => rfl, fun _ _ => rfl, fun _ _ _ => rfl, fun _ call => ?_,
        fun _ _ => by simp [s, Backend.none]⟩
      cases call <;> simp [s, Backend.none]
    have hbegins : (x.newRun s).begins s .start = true := by decide +kernel
    have hrepeats : (first.afterAll s moves).counters.get? "n" = some 2 ∧
        first.executions s moves = [⟨"a", [], .ok 0⟩, ⟨"a", [], .ok 0⟩] := by
      obtain rfl | rfl := List.mem_pair.mp hmoves <;> decide +kernel
    refine ⟨hrepeats.1, fun plain hplain hown hsame => ?_⟩
    obtain ⟨node, code, hnode, hcode, hnext⟩ := executions_successor hforks hbackend
      (tame_afterAll hforks hbackend x []) hbegins (hplain.keepsPlace hown) []
      (hsame.trans hrepeats.2)
    obtain rfl : code = 0 := (Except.ok.inj hcode).symm
    have hb : (s.definition.node? "a").bind (·.successor? 0) = some "b" := by decide +kernel
    rw [hnode, Option.bind_some, hnext] at hb
    exact absurd (Option.some.inj hb) (by decide)
  · cases i with
    | zero => decide +kernel
    | succ i =>
      have hone : rest.tasks.length ≤ i + 1 := le_trans (by decide +kernel : rest.tasks.length ≤ 1) (by omega)
      rw [step?, List.getElem?_eq_none hone, Option.bind_none]

end Run

end FieldStudy
