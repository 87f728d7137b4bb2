import Mathlib.Data.List.Basic
import Mathlib.Data.Multiset.Defs
import Mathlib.Tactic.Common
import FieldStudy.Proofs.Run.Exchanges
import FieldStudy.Proofs.Run.TwinMoves

/-!
# Restarts

A run that has stopped and is started again behaves like a run of a new scenario (`Run.observations_restart`): whatever
the moves are, as long as both make the same ones, they show the same at each of them, but for the numbers of prompts.
What is shown (`Observation`) are notices, codes, calls of the backend with their replies, and all that a host can look
up in the state.  A run that stops has left its sensors in sets, and drains them in an order of its own.
-/

namespace FieldStudy

/-- What can be seen of a run between its moves.  Events and branches stand with the values of their signals, and the
document without its times. -/
structure View where
  state : RunState
  point : Option Point
  counters : Dict Int
  events : Dict (Option Int)
  branches : Dict (Option Int)
  metadata : Metadata
  roles : Dict RoleBinding
  listening : List (String × String)
  recording : List String
  /-- The prompts that wait for an answer. -/
  pending : List Nat
  finished : Option StopReason

/-- What can be seen of one move of a run. -/
structure Observation where
  sent : List Notice
  /-- Whether an answer is accepted or a step is taken. -/
  isEffective : Bool
  /-- The code that the action of a node ends with. -/
  code : Option Int
  /-- The calls of the action of a node, with their replies. -/
  trades : List Exchange
  /-- The calls beyond those.  A run that stops makes them to stop what still runs, in any order, and does not look at
  the replies. -/
  releases : Multiset BackendCall
  /-- The run after the move. -/
  view : View

/-- The observation with other numbers for the prompts. -/
def Observation.renumber (f : Nat → Nat) (o : Observation) : Observation :=
  { o with sent := o.sent.map (Notice.renumber f), view := { o.view with pending := o.view.pending.map f } }

lemma Backend.Alike.exchanges {b b' : Backend} {calls calls' : List BackendCall} (h : b.Alike calls b' calls')
    (asked : List BackendCall) : b.exchanges calls asked = b'.exchanges calls' asked := by
  induction asked generalizing calls calls' with
  | nil => rfl
  | cons call rest ih =>
    have hreply : b.reply calls call = b'.reply calls' call := by simpa using h.reply [] call
    rw [Backend.exchanges, Backend.exchanges, hreply, ih (h.append [call])]

namespace Run

variable {p : Past} {r₀ q₀ r q r' q' : Run} {s s' : Setup} {m m' : Move}

/-! ## What can be seen -/

def view (r : Run) : View where
  state := r.state
  point := r.point
  counters := r.counters
  events := r.events.mapValues r.signals.value?
  branches := r.branches.mapValues r.signals.value?
  metadata := r.metadata.timeless
  roles := r.roles
  listening := r.listening
  recording := r.recording
  pending := r.prompts.pending
  finished := r.finished

/-- Whether an answer is accepted or a step is taken. -/
def effects (s : Setup) (r : Run) : Move → Bool
  | .answer id a => (r.answer id a).1
  | .step i => (r.step? s i).isSome
  | _ => true

/-- The code that the action of a node ends with. -/
def nodeCode? (s : Setup) (r : Run) : Move → Option Int
  | .step i => r.code? s i
  | _ => none

def observation (s : Setup) (r : Run) (m : Move) : Observation where
  sent := r.sent s m
  isEffective := r.effects s m
  code := r.nodeCode? s m
  trades := (r.trades s m).take (r.actionTrades s m).length
  releases := ((r.trades s m).drop (r.actionTrades s m).length).map Exchange.call
  view := (r.after s m).view

/-- What can be seen of some moves, one after another. -/
def observations (s : Setup) : Run → List Move → List Observation := along (fun r m => [r.observation s m]) s

/-- The runs make the same calls in the move, those beyond its action in any order. -/
structure AsksAlike (s s' : Setup) (r q : Run) (m m' : Move) : Prop where
  action : r.actionTrades s m = q.actionTrades s' m'
  first : ∃ stops, r.trades s m = r.actionTrades s m ++ stops
  first' : ∃ stops, q.trades s' m' = q.actionTrades s' m' ++ stops
  all : ((r.trades s m).map Exchange.call).Perm ((q.trades s' m').map Exchange.call)

lemma AsksAlike.releases (h : AsksAlike s s' r q m m') :
    (((r.trades s m).drop (r.actionTrades s m).length).map Exchange.call).Perm
      (((q.trades s' m').drop (q.actionTrades s' m').length).map Exchange.call) := by
  obtain ⟨stops, hr⟩ := h.first
  obtain ⟨stops', hq⟩ := h.first'
  have hall := h.all
  rw [hr, hq, h.action, List.map_append, List.map_append, List.perm_append_left_iff] at hall
  rwa [hr, hq, List.drop_left, List.drop_left]

lemma AsksAlike.trades (h : AsksAlike s s' r q m m') :
    (r.trades s m).take (r.actionTrades s m).length = (q.trades s' m').take (q.actionTrades s' m').length := by
  obtain ⟨stops, hr⟩ := h.first
  obtain ⟨stops', hq⟩ := h.first'
  rw [hr, hq, List.take_left, List.take_left, h.action]

namespace Twin

lemma view (h : Twin p r₀ q₀ r q) : r.view = { q.view with pending := q.view.pending.map p.prompt } := by
  have hvalues (d : Dict Nat) : (d.mapValues p.signal).mapValues r.signals.value? = d.mapValues q.signals.value? := by
    rw [Dict.mapValues_mapValues]
    exact congrArg d.mapValues (funext (Signals.value?_behind h.signals))
  rw [Run.view, h.state, h.point, h.counters, h.events, h.branches, h.metadata, h.roles, h.listening, h.recording,
    h.prompts.pending, h.finished, hvalues, hvalues]
  rfl

/-- What a move shows, put together. -/
lemma observation (h : Twin p r₀ q₀ (r.after s m) (q.after s' m'))
    (hsent : r.sent s m = (q.sent s' m').map (Notice.renumber p.prompt)) (heffects : r.effects s m = q.effects s' m')
    (hcode : r.nodeCode? s m = q.nodeCode? s' m') (hasks : AsksAlike s s' r q m m') :
    r.observation s m = (q.observation s' m').renumber p.prompt := by
  rw [Run.observation, hsent, heffects, hcode, hasks.trades, Multiset.coe_eq_coe.mpr hasks.releases, h.view]
  rfl

/-! ### Calls -/

/-- As long as twins go on, what they have asked meanwhile is the same. -/
lemma exchanged (hb : s.backend.Alike r.calls s'.backend q.calls) (h : Twin p r q r' q') (hgoes : q'.state ≠ .stopped) :
    r.exchanged s r' = q.exchanged s' q' := by
  obtain ⟨cs, cs', hr, hq, -, hsame⟩ := h.calls
  rw [Run.exchanged, Run.exchanged, hr, hq, List.drop_left, List.drop_left, hsame hgoes, hb.exchanges]

lemma taken? (hs : s.Agrees s') (h : Twin p r₀ q₀ r q) (hm : InStep p s s' r q m m') :
    r.taken? s m = q.taken? s' m' := by
  cases hm with
  | step i =>
    rw [Run.taken?, Run.taken?]
    obtain ⟨ht, hu⟩ | ⟨t, u, ht, hu, htu⟩ := h.task_cases i
    · rw [ht, hu]
      rfl
    · rw [ht, hu, Option.bind_some, Option.bind_some]
      obtain ⟨pt, htstatus, hustatus⟩ | ⟨pt, a, a', resumption, -, htstatus, hustatus⟩ | ⟨htstatus, hustatus⟩ :=
        htu.status.cases
      · rw [htstatus, hustatus]
        exact h.action? htu hs pt
      · rw [htstatus, hustatus]
      · rw [htstatus, hustatus]
  | _ => rfl

/-- An action on sensors asks the same and is replied to in the same way. -/
lemma actionTrades (hs : s.Agrees s') (hb : q.state ≠ .stopped → s.backend.Alike r.calls s'.backend q.calls)
    (h : Twin p r q r q) (hm : InStep p s s' r q m m') : r.actionTrades s m = q.actionTrades s' m' := by
  by_cases hstopped : q.state = .stopped
  · rw [actionTrades_of_stopped (h.state.trans hstopped), actionTrades_of_stopped hstopped]
  · have hsteers := steers (p := p) hs (hb hstopped)
    rw [Run.actionTrades, Run.actionTrades, h.taken? hs hm]
    split
    · next a _ =>
      obtain ⟨-, hrun, hgoes⟩ := hsteers.startSensors ⟨h, hstopped⟩ a
      exact hrun.exchanged (hb hstopped) hgoes
    · next a _ =>
      obtain ⟨-, hrun, hgoes⟩ := hsteers.stopSensors ⟨h, hstopped⟩ a
      exact hrun.exchanged (hb hstopped) hgoes
    · rfl

/-- What the runs tell the host and ask the backend themselves is the same. -/
lemma observation_own (h : Twin p r q (r.after s m) (q.after s' m')) (hown : ∀ shared, m ≠ .others shared)
    (hown' : ∀ shared, m' ≠ .others shared) (heffects : r.effects s m = q.effects s' m')
    (hcode : r.nodeCode? s m = q.nodeCode? s' m') (hrig : r.state = .running → r.rig.Sound)
    (hrig' : q.state = .running → q.rig.Sound) (haction : r.actionTrades s m = q.actionTrades s' m') :
    r.observation s m = (q.observation s' m').renumber p.prompt := by
  obtain ⟨ns, hrnotices, hqnotices⟩ := h.notices
  obtain ⟨cs, cs', hrcalls, hqcalls, hperm, -⟩ := h.calls
  refine h.observation ?_ heffects hcode ⟨haction, exists_stops hrig m, exists_stops hrig' m', ?_⟩
  · rw [sent_eq _ hown hrnotices, sent_eq ns hown' hqnotices]
  · rwa [trades_own hown, trades_own hown', Run.exchanged, Run.exchanged, Backend.exchanges_calls,
      Backend.exchanges_calls, hrcalls, hqcalls, List.drop_left, List.drop_left]

/-- A move that is made in step shows the same, and the runs are twins again. -/
theorem next (hs : s.Agrees s') (hb : q.state ≠ .stopped → s.backend.Alike r.calls s'.backend q.calls)
    (h : Twin p r q r q) (hsound : q.course.Sound) (hattended : q.Attended s') (hrigged : q.Rigged)
    (hm : InStep p s s' r q m m') :
    r.observation s m = (q.observation s' m').renumber p.prompt ∧
      Twin p (r.after s m) (q.after s' m') (r.after s m) (q.after s' m') ∧
      ((q.after s' m').state ≠ .stopped →
        s.backend.Alike (r.after s m).calls s'.backend (q.after s' m').calls) := by
  have heffects : r.effects s m = q.effects s' m' := by
    cases hm with
    | answer id a => exact (h.answer id a).1
    | step i hover hr hq => exact (h.step hs hb hsound hattended.placed hover hr hq).1
    | _ => rfl
  have hcode : r.nodeCode? s m = q.nodeCode? s' m' := by
    cases hm with
    | step i hover hr hq => exact (h.step hs hb hsound hattended.placed hover hr hq).2.1
    | _ => rfl
  obtain ⟨shared, rfl⟩ | hown := m.others_or_own
  · cases hm with
    | others _ shared' hbackend =>
      have htwin := h.lend shared shared'
      exact ⟨htwin.observation rfl heffects hcode ⟨rfl, ⟨[], rfl⟩, ⟨[], rfl⟩, .refl _⟩, htwin, hbackend⟩
  · have hown' : ∀ shared, m' ≠ .others shared := by
      rintro shared' rfl
      cases hm with
      | others shared => exact hown shared rfl
    have htwin := h.after hs hb hsound hattended hm hown
    have hrig : r.rig.Sound := hrigged.sound.congr h.roles h.listening h.recording
    have hobservation := htwin.observation_own hown hown' heffects hcode (fun _ => hrig) (fun _ => hrigged.sound)
      (h.actionTrades hs hb hm)
    refine ⟨hobservation, htwin.rebase, fun hgoes => ?_⟩
    by_cases hstopped : q.state = .stopped
    · cases hm with
      | start hbackend => exact htwin.alike (hbackend hstopped) hgoes
      | _ => exact absurd (state_after_of_stopped s' hstopped (by simp)) hgoes
    · exact htwin.alike (hb hstopped) hgoes

end Twin

/-! ## Runs that move in step -/

/-- The moves of two runs, one beside the other, are made in step all along. -/
def StayInStep (p : Past) (s s' : Setup) : Run → Run → List (Move × Move) → Prop
  | _, _, [] => True
  | r, q, (m, m') :: rest => InStep p s s' r q m m' ∧ StayInStep p s s' (r.after s m) (q.after s' m') rest

lemma InStep.rigged (h : InStep p s s' r q m m') (hrigged : q.Rigged) : (q.after s' m').Rigged := by
  by_cases hbegins : m' = .start ∧ q.state = .stopped
  · obtain ⟨rfl, hstopped⟩ := hbegins
    cases h with
    | start hbackend hr hq => exact rigged_start (by simp [begins, hstopped, hq])
  · exact hrigged.after hbegins

/-- Twins that stay in step show the same at each move. -/
theorem Twin.observations {moves : List (Move × Move)} (hs : s.Agrees s')
    (hb : q.state ≠ .stopped → s.backend.Alike r.calls s'.backend q.calls) (h : Twin p r q r q)
    (hsound : q.course.Sound) (hattended : q.Attended s') (hrigged : q.Rigged)
    (hmoves : StayInStep p s s' r q moves) :
    r.observations s (moves.map Prod.fst) =
      (q.observations s' (moves.map Prod.snd)).map (Observation.renumber p.prompt) := by
  induction moves generalizing r q with
  | nil => rfl
  | cons mm rest ih =>
    obtain ⟨m, m'⟩ := mm
    obtain ⟨hm, hrest⟩ := hmoves
    obtain ⟨hobservation, htwin, hb'⟩ := h.next hs hb hsound hattended hrigged hm
    have hlater := ih hb' htwin (hsound.leads (course_after q s' m')) (attended_after hsound hattended m')
      (hm.rigged hrigged) hrest
    show r.observation s m :: Run.observations s (r.after s m) (rest.map Prod.fst) = _
    rw [hobservation, hlater]
    rfl

/-! ## Restarts -/

/-- What a run has behind it when it is started now. -/
def past (r : Run) : Past := ⟨r.tokens - 1, r.signals.values, r.prompts.issued, r.tasks⟩

/-- A run that has stopped is ahead of a new one by its past. -/
lemma ahead_newRun (x x' : Ensemble) (s s' : Setup) (first : List Move)
    (hstopped : ((x.newRun s).afterAll s first).state = .stopped) :
    Ahead ((x.newRun s).afterAll s first).past ((x.newRun s).afterAll s first) (x'.newRun s') := by
  set r := (x.newRun s).afterAll s first
  have hsound : r.course.Sound := sound_afterAll x s first
  have hattended : r.Attended s := attended_afterAll x s first
  have hbooks := accounted_afterAll x s first
  have htokens : 0 < r.tokens := Nat.zero_lt_of_lt hsound.token_lt
  refine ⟨?_, Nat.one_pos, fun n hn => ?_, (List.append_nil _).symm, ⟨?_, ?_, ?_, fun id hid => ?_⟩, [], ?_, .nil⟩
  · show r.tokens = 1 + (r.tokens - 1)
    omega
  · show r.cancelled.contains (n + (r.tokens - 1)) = false
    refine Bool.eq_false_iff.mpr fun hcontains => ?_
    have hlt : n + (r.tokens - 1) < r.tokens := hsound.cancelled_lt _ (List.contains_iff_mem.mp hcontains)
    omega
  · exact (Nat.zero_add _).symm
  · exact hattended.rests hstopped
  · exact hattended.deserted
  · show (r.prompts.answers.find? _).map (·.2) = none
    refine Option.map_eq_none_iff.mpr (List.find?_eq_none.mpr fun x hx heq => ?_)
    have hle : x.1 ≤ r.prompts.issued := hbooks.issued x (hbooks.answers x hx)
    have hlater : x.1 = id + r.prompts.issued := beq_iff_eq.mp heq
    omega
  · exact (List.append_nil _).symm

/-- A run that has stopped, in whatever way and after whatever moves, behaves like one of a new scenario when it is
started again.  The new one may have another folder, another backend as long as it replies alike, and other orders in
which sets are drained.  If both make the same moves from now on and no file fails, each move shows the same: notices,
codes of nodes, calls of the backend with their replies, and the run afterwards with its counters, the values of its
events, its branches, its devices and its document, times aside, and with the reason for which it has stopped.  Only
the prompts are numbered on, and the calls of a stop may come in any order.  Tasks that the run has had before may have
ended or not, they are just not stepped. -/
theorem observations_restart (x x' : Ensemble) (s s' : Setup) (first : List Move) (moves : List (Move × Move)) :
    let r := (x.newRun s).afterAll s first
    let q := x'.newRun s'
    r.state = .stopped → s.Agrees s' → StayInStep r.past s s' r q ((.start, .start) :: moves) →
    r.observations s (.start :: moves.map Prod.fst) =
      (q.observations s' (.start :: moves.map Prod.snd)).map (Observation.renumber (· + r.prompts.issued)) := by
  intro r q hstopped hs hmoves
  obtain ⟨hstart, hrest⟩ := hmoves
  cases hstart with
  | start hbackend hr hq =>
    have hahead : Ahead r.past r q := ahead_newRun x x' s s' first hstopped
    have hnew : q.state = .stopped := rfl
    have hbegins : q.begins s' .start = true := by simp [begins, hnew, hq]
    have htwin : Twin r.past r q (r.after s .start) (q.after s' .start) :=
      hahead.start hs (by simp [begins, hstopped, hr]) hbegins
    -- Nothing runs before the start, so nothing is asked in it.
    have hobservation : r.observation s .start = (q.observation s' .start).renumber r.past.prompt :=
      htwin.observation_own (fun _ => Move.noConfusion) (fun _ => Move.noConfusion) rfl rfl
        (fun hrunning => by simp [hstopped] at hrunning) (fun hrunning => by simp [hnew] at hrunning) rfl
    have hsound : q.course.Sound := sound_afterAll x' s' []
    have hattended : q.Attended s' := attended_afterAll x' s' []
    have hlater := htwin.rebase.observations hs (htwin.alike (hbackend hnew)) (hsound.leads (course_after q s' .start))
      (attended_after hsound hattended .start) (rigged_start hbegins) hrest
    show r.observation s .start :: Run.observations s (r.after s .start) (moves.map Prod.fst) = _
    rw [hobservation, hlater]
    rfl

/-- A scenario that listens, asks and counts, run to its end and then once more.  Two sensors are left to the end, and
the new run stops them in the other order. -/
theorem observations_restart_listening :
    let sensors : Json := .obj [("sensors", .arr [.str "generic.acc", .str "generic.gyr"])]
    let nodes : Dict Node :=
      [("ask", { Node.ofPrimitive .waitOption with next := [some "count"] }),
        ("count", { Node.ofPrimitive .counterInc with arguments := .obj [("name", .str "answers")] }),
        ("on", { Node.ofPrimitive .deviceStartSensor with next := [some "ask"], arguments := sensors })]
    let s : Setup :=
      { definition := { scenarioId := 1, content := { entry := "on", nodes } }, folder := ["run"]
        preselected := [⟨.mobilePhone, [], []⟩], backend := { Backend.none with reply := fun _ _ => .ok true } }
    let s' : Setup := { s with
      folder := ["other"], drains := { listeners := fun _ => ⟨List.reverse, List.reverse_perm⟩ } }
    let x : Ensemble := { files := {} }
    let fresh : List Move := [.step 0, .step 0, .answer 1 (.value 0), .step 0, .step 0]
    let again : List Move := [.step 1, .step 1, .answer 2 (.value 0), .step 1, .step 1]
    let r := (x.newRun s).afterAll s (.start :: fresh)
    let q := x.newRun s'
    let stopped (s : Setup) (r : Run) (moves : List Move) : List (String × String) :=
      (along (trades s) s r moves).filterMap (·.call.stops?)
    r.state = .stopped ∧ r.prompts.issued = 1 ∧
      stopped s r (.start :: again) = [("mobile_phone", "generic.gyr"), ("mobile_phone", "generic.acc")] ∧
      stopped s' q (.start :: fresh) = [("mobile_phone", "generic.acc"), ("mobile_phone", "generic.gyr")] ∧
      r.observations s (.start :: again) =
        (q.observations s' (.start :: fresh)).map (Observation.renumber (· + r.prompts.issued)) := by
  intro sensors nodes s s' x fresh again r q stopped
  have hstopped : r.state = .stopped := by decide +kernel
  have htask : r.past.task 0 = 1 := by decide +kernel
  have hprompt : r.past.prompt 1 = 2 := by decide +kernel
  have hstep {r' q' : Run} (hover : q'.isTimed 0 = true → (r'.step? s 1).isSome = (q'.step? s' 0).isSome)
      (hr : r'.failsByFile s 1 = false) (hq : q'.failsByFile s' 0 = false) :
      InStep r.past s s' r' q' (.step 1) (.step 0) := by
    rw [← htask] at hover hr ⊢
    exact .step 0 hover hr hq
  have hanswer {r' q' : Run} : InStep r.past s s' r' q' (.answer 2 (.value 0)) (.answer 1 (.value 0)) := by
    rw [← hprompt]
    exact .answer 1 (.value 0)
  have hbackend : s.backend.Alike r.calls s'.backend q.calls := ⟨fun _ _ => rfl, fun _ => rfl, fun _ _ => rfl⟩
  have hmoves : StayInStep r.past s s' r q ((.start, .start) :: again.zip fresh) := by
    refine ⟨.start (fun _ => hbackend) ?_ ?_, hstep ?_ ?_ ?_, hstep ?_ ?_ ?_, hanswer, hstep ?_ ?_ ?_, hstep ?_ ?_ ?_,
      trivial⟩
    all_goals decide +kernel
  have hagain : (again.zip fresh).map Prod.fst = again := rfl
  have hfresh : (again.zip fresh).map Prod.snd = fresh := rfl
  have hsame := observations_restart x x s s' (.start :: fresh) (again.zip fresh) hstopped ⟨rfl⟩ hmoves
  rw [hagain, hfresh] at hsame
  refine ⟨hstopped, by decide +kernel, by decide +kernel, by decide +kernel, ?_⟩
  -- The unifier must not look at the runs, it would compute them.
  dsimp only [r, q]
  exact hsame

end Run

end FieldStudy
