import Mathlib.Data.List.Basic
import Mathlib.Tactic.Common
import FieldStudy.Proofs.Run.Waits

/-!
# Named events

An event is known by one signal from its creation until it is reset, and a signal that is replaced is never known
again.  So the signals that a wait was bound to when it began are resolved by those settings of the events that come
before any reset, whatever the order of steps is (`Run.events_over_histories`).  A wait with a time limit of zero is not
bound to anything: it tells whether the known ones among its events have been set (`Run.zero_wait_looks`).
-/

namespace FieldStudy

namespace Board

variable {b : Board} {given : List SignalUse} {name : String} {id : Nat}

/-- An event keeps a signal unless it is reset or forgotten, and it does not come by one that exists already. -/
lemma known_after (hid : id < b.signals.next) (d : Deed) :
    (b.after d).events.get? name = some id ↔ b.events.get? name = some id ∧ d ≠ .reset name ∧ d ≠ .clear := by
  have hfresh : b.signals.next ≠ id := Nat.ne_of_gt hid
  cases d with
  | create other =>
    rw [after]
    split
    · simp
    · next hunknown =>
      rw [renewEvent, Dict.get?_insert]
      split
      · next heq =>
        have hnone : b.events.get? name = none := by simpa [Dict.contains, heq] using hunknown
        simp [hfresh, hnone]
      · simp
  | reset other =>
    rw [after]
    split
    · rw [renewEvent, Dict.get?_insert]
      split
      · next heq => simp [hfresh, heq]
      · next hne => simp [hne]
    · next hunknown =>
      have hnone : b.events.get? other = none := by simpa [Dict.contains] using hunknown
      refine ⟨fun h => ⟨h, ?_, by simp⟩, fun h => h.1⟩
      rintro heq
      obtain rfl := Deed.reset.inj heq
      rw [hnone] at h
      cases h
  | set other => rw [after]; split <;> simp [resolve]
  | fork branch token p => simp [after, fork]
  | resume token p => rw [after]; split <;> simp [fork]
  | finish i => rw [after]; split <;> simp [resolve]
  | turn i status => simp [after]
  | clear => simp [after]

lemma Assigned.next_le (h : b.Assigned given) (d : Deed) : b.signals.next ≤ (b.after d).signals.next := by
  rw [← h.length, ← (h.after d).length, List.length_append]
  exact Nat.le_add_right _ _

lemma known_afterAll (name : String) (h : b.Assigned given) (hid : id < b.signals.next) (deeds : List Deed) :
    (b.afterAll deeds).events.get? name = some id ↔
      b.events.get? name = some id ∧ .reset name ∉ deeds ∧ .clear ∉ deeds := by
  induction deeds generalizing b given with
  | nil => simp
  | cons d rest ih =>
    rw [afterAll_cons, ih (h.after d) (Nat.lt_of_lt_of_le hid (h.next_le d)), known_after hid, List.mem_cons,
      List.mem_cons, not_or, not_or, and_assoc]
    tauto

end Board

/-- The wait of an action for all, or else any, of some events. -/
def Action.eventWait? : Action → Option (Bool × EventArguments)
  | .event .wait a => some (false, a)
  | .event .waitAll a => some (true, a)
  | _ => none

lemma Double.isFinite_of_isZero {seconds : Double} (h : seconds.isZero = true) : seconds.isFinite = true := by
  rw [isZero, eqv] at h
  rw [isFinite]
  cases hmeaning : seconds.meaning with
  | nan => simp [hmeaning] at h
  | finite negative m q => rfl
  | infinite negative =>
    obtain ⟨bits⟩ := seconds
    obtain rfl : bits = zero.bits := by
      rw [hmeaning] at h
      split at h <;> simp_all
    cases negative <;> exact absurd hmeaning (by decide)

namespace Run

variable {r : Run} {s : Setup} {i : Nat} {name : String} {id : Nat}

/-! ## How long an event keeps its signal -/

/-- The move resets the event, or it begins a run, in which no event is known at first. -/
def Forgets (s : Setup) (name : String) (r : Run) (m : Move) : Prop :=
  r.Does s .reset name m ∨ (m = .start ∧ r.state = .stopped)

lemma reset_mem_actionDeeds : .reset name ∈ r.actionDeeds s i ↔ r.Does s .reset name (.step i) := by
  cases htaken : r.taken? s (.step i) with
  | none => simp [actionDeeds_of_none htaken, Does, htaken]
  | some a =>
    obtain ⟨t, p, node, -, -, -, hdeeds⟩ := actionDeeds_of_taken? htaken
    rw [hdeeds, Does, htaken]
    cases a with
    | event op b => cases op <;> simp [Action.deeds]
    | _ => simp [Action.deeds]

lemma clear_notMem_actionDeeds : .clear ∉ r.actionDeeds s i := by
  cases htaken : r.taken? s (.step i) with
  | none => simp [actionDeeds_of_none htaken]
  | some a =>
    obtain ⟨t, p, node, -, -, -, hdeeds⟩ := actionDeeds_of_taken? htaken
    rw [hdeeds]
    cases a with
    | event op b => cases op <;> simp [Action.deeds]
    | _ => simp [Action.deeds]

lemma forgets_iff {m : Move} : r.Forgets s name m ↔ .reset name ∈ r.deeds s m ∨ .clear ∈ r.deeds s m := by
  cases m with
  | step i =>
    rw [deeds, Forgets, ← reset_mem_actionDeeds]
    cases hturn : r.turn? s i with
    | none =>
      have htaken : r.taken? s (.step i) = none := taken?_of_turn? hturn
      simp [actionDeeds_of_none htaken]
    | some pt =>
      obtain ⟨p, turn⟩ := pt
      have hturns : ∀ d ∈ turn.deeds i p, d ≠ .reset name ∧ d ≠ .clear := by
        rw [Turn.deeds]
        split <;> simp
      have hreset : .reset name ∉ turn.deeds i p := fun h => (hturns _ h).1 rfl
      have hclear : .clear ∉ turn.deeds i p := fun h => (hturns _ h).2 rfl
      simp [hreset, hclear, clear_notMem_actionDeeds]
  | start =>
    rw [deeds, Forgets]
    by_cases hstate : r.state = .stopped
    · simp [hstate]
    · simp [hstate, Does, taken?]
  | resume =>
    rw [deeds, Forgets]
    split <;> simp [Does, taken?]
  | _ => simp [deeds, Forgets, Does, taken?]

/-- An event keeps its signal until it is forgotten, and a signal that it has lost does not come back. -/
lemma known_follows {given : List SignalUse} (h : r.board.Assigned given) (hid : id < r.signals.next)
    (moves : List Move) : (r.afterAll s moves).events.get? name = some id ↔
      r.events.get? name = some id ∧ ¬ r.Happens s (Forgets s name) moves := by
  induction moves generalizing r given with
  | nil => simp
  | cons m rest ih =>
    have hafter := h.afterAll (r.deeds s m)
    have hknown := Board.known_afterAll name h hid (r.deeds s m)
    have hnext : r.signals.next ≤ (r.board.afterAll (r.deeds s m)).signals.next := by
      rw [← hafter.length, show r.signals.next = given.length from h.length.symm, List.length_append]
      exact Nat.le_add_right _ _
    rw [← board_after] at hafter hknown hnext
    rw [afterAll_cons, ih hafter (Nat.lt_of_lt_of_le hid hnext), Happens, forgets_iff]
    have hone : (r.after s m).events.get? name = some id ↔
        r.events.get? name = some id ∧ .reset name ∉ r.deeds s m ∧ .clear ∉ r.deeds s m := hknown
    rw [hone]
    tauto

/-! ## Waits for events -/

/-- The signals that a wait for events is bound to when it begins. -/
def eventSignals (r : Run) (a : EventArguments) : List Nat := a.names.filterMap r.events.get?

/-- The time at which a wait for events gives up if it begins now. -/
def eventDeadline? (r : Run) (a : EventArguments) : Option Nat :=
  ((eventTimeout a).bind Double.timer?).map (r.clock + ·)

lemma waitEvents_waits (all : Bool) {a : EventArguments} (hids : r.eventSignals a ≠ [])
    (hlimit : (eventTimeout a).any (·.isZero) = false) :
    (r.waitEvents all a).1 = .waits (.signals all (r.eventSignals a) (r.eventDeadline? a)) .answer := by
  rw [waitEvents]
  dsimp only
  rw [hlimit, if_neg Bool.false_ne_true]
  have hnonempty : (!(a.names.filterMap r.events.get?).isEmpty) = true := by
    simpa [eventSignals] using hids
  rw [if_pos hnonempty]
  rfl

/-- A number of seconds that sets a timer limits a wait for events. -/
lemma eventDeadline?_of_timer? {a : EventArguments} {seconds : Double} {ms : Nat} (hseconds : a.timeout = some seconds)
    (hms : seconds.timer? = some ms) : r.eventDeadline? a = some (r.clock + ms) := by
  have hfinite : (seconds.isFinite && seconds.isPositive) = true := by
    by_contra h
    rw [Double.timer?, if_neg h] at hms
    cases hms
  obtain ⟨hfin, hpos⟩ := Bool.and_eq_true_iff.mp hfinite
  have hlimit : eventTimeout a = some seconds := by simp [eventTimeout, hseconds, hfin, hpos]
  rw [eventDeadline?, hlimit, Option.bind_some, hms, Option.map_some]

lemma execute_eventWait? {b : Action} {all : Bool} {a : EventArguments} (hwait : b.eventWait? = some (all, a))
    (v : Visit) : r.execute s v b = r.waitEvents all a := by
  cases b with
  | event op c => cases op <;> cases hwait <;> rfl
  | _ => cases hwait

/-- A wait for known events that is not over at once begins when its node is entered. -/
lemma wait_begins {all : Bool} {a : EventArguments}
    (htaken : (r.taken? s (.step i)).bind Action.eventWait? = some (all, a))
    (hids : r.eventSignals a ≠ []) (hlimit : (eventTimeout a).any (·.isZero) = false) :
    ∃ t p node, r.tasks[i]? = some t ∧ t.status = .entering p ∧ s.definition.node? p.node = some node ∧
      (r.after s (.step i)).tasks[i]? =
        some { t with status := .waiting p (.signals all (r.eventSignals a) (r.eventDeadline? a)) .answer } := by
  obtain ⟨b, hb, hwait⟩ := Option.bind_eq_some_iff.mp htaken
  obtain ⟨t, p, node, ht, hstatus, hnode, hturn, -⟩ := after_of_taken? hb
  have houtcome : (({ r with point := some p } : Run).execute s ⟨t.branch, p.node, node, t.token⟩ b).1 =
      .waits (.signals all (r.eventSignals a) (r.eventDeadline? a)) .answer := by
    rw [execute_eventWait? hwait]
    exact waitEvents_waits (r := { r with point := some p }) all hids hlimit
  rw [houtcome] at hturn
  exact ⟨t, p, node, ht, hstatus, hnode, task_step ht hturn⟩

/-! ## Events over histories -/

/-- The signal of an event while it is known and afterwards: how long it is known, and which settings it has its value
from. -/
lemma signal_history (x : Ensemble) (s : Setup) (moves later : List Move)
    (hid : ((x.newRun s).afterAll s moves).events.get? name = some id) :
    (((x.newRun s).afterAll s (moves ++ later)).events.get? name = some id ↔
      ¬ ((x.newRun s).afterAll s moves).Happens s (Forgets s name) later) ∧
    ∀ v, ((x.newRun s).afterAll s (moves ++ later)).signals.value? id = some v ↔ v = 0 ∧
      (x.newRun s).Happens s (fun q m => q.Does s .set name m ∧ q.events.get? name = some id) (moves ++ later) := by
  have hassigned := assigned_afterAll x s moves
  have huse := hassigned.event name id hid
  constructor
  · rw [afterAll_append, known_follows hassigned (hassigned.lt huse)]
    exact and_iff_right hid
  · intro v
    rw [value?_eq_some_iff, isResolved_event (use_after later huse)]

/-- A signal that has a value, or that its event has lost, keeps what it has. -/
lemma signal_kept (x : Ensemble) (s : Setup) (moves later more : List Move)
    (hid : ((x.newRun s).afterAll s moves).events.get? name = some id)
    (hkept : ((x.newRun s).afterAll s (moves ++ later)).signals.isResolved id = true ∨
      ((x.newRun s).afterAll s (moves ++ later)).events.get? name ≠ some id) :
    ((x.newRun s).afterAll s (moves ++ (later ++ more))).signals.value? id =
      ((x.newRun s).afterAll s (moves ++ later)).signals.value? id := by
  have huse := (assigned_afterAll x s moves).event name id hid
  have hassigned := assigned_afterAll x s (moves ++ later)
  refine Option.ext ?_
  intro v
  rw [(signal_history x s moves (later ++ more) hid).2, (signal_history x s moves later hid).2,
    ← List.append_assoc, happens_append (moves ++ later) more]
  refine and_congr_right fun _ => or_iff_left_of_imp ?_
  intro hmore
  obtain hresolved | hlost := hkept
  · exact (isResolved_event (use_after later huse)).mp hresolved
  · obtain ⟨before, m, rest, -, -, hknown⟩ := happens_iff.mp hmore
    rw [known_follows hassigned (hassigned.lt (use_after later huse))] at hknown
    exact absurd hknown.1 hlost

/-- An event keeps its signal until it is reset, and the signal has a value once the event has been set meanwhile; a
signal that has a value or is replaced stays as it is.  A wait for events takes the signals with it that are known
when it begins, and its next step tells of these alone: zero if all or any of them have a value, or else one after
its deadline.  If time does not pass over a deadline, a wait that is met before its own gives zero, and one that is
not met until then gives one at that time. -/
theorem events_over_histories (x : Ensemble) (s : Setup) (moves : List Move) :
    let r := (x.newRun s).afterAll s moves
    (∀ name id, r.events.get? name = some id → ∀ later,
      let q := r.afterAll s later
      (q.events.get? name = some id ↔ ¬ r.Happens s (Forgets s name) later) ∧
      (∀ v, q.signals.value? id = some v ↔ v = 0 ∧ (x.newRun s).Happens s
        (fun q m => q.Does s .set name m ∧ q.events.get? name = some id) (moves ++ later)) ∧
      ∀ more, q.signals.isResolved id = true ∨ q.events.get? name ≠ some id →
        (q.afterAll s more).signals.value? id = q.signals.value? id) ∧
    ∀ i all a, (r.taken? s (.step i)).bind Action.eventWait? = some (all, a) →
      r.eventSignals a ≠ [] → (eventTimeout a).any (·.isZero) = false →
      ∃ t p node, r.tasks[i]? = some t ∧ t.status = .entering p ∧ s.definition.node? p.node = some node ∧
        ∀ later more,
          let r' := r.after s (.step i)
          let q := r'.afterAll s later
          ¬ r'.Happens s (Steps s i) later →
            q.tasks[i]? = some
              { t with status := .waiting p (.signals all (r.eventSignals a) (r.eventDeadline? a)) .answer } ∧
            (q.isCancelled t.token = false →
              q.turn? s i = (q.answer? all (r.eventSignals a) (r.eventDeadline? a)).map
                (fun code => (p, .acted node (.done code))) ∧
              ∀ seconds ms code, a.timeout = some seconds → seconds.timer? = some ms →
                r'.Timely s (later ++ more) → q.code? s i = some code →
                let deadline := r.clock + ms
                q.clock ≤ deadline ∧
                (r'.Sometime s (fun q => q.signals.meets all (r.eventSignals a) = true ∧ q.clock < deadline)
                  (later ++ more) → code = 0) ∧
                (¬ r'.Sometime s (fun q => q.signals.meets all (r.eventSignals a) = true ∧ q.clock ≤ deadline)
                  (later ++ more) → code = 1 ∧ q.clock = deadline)) := by
  intro r
  constructor
  · intro name id hid later
    have hhistory := signal_history x s moves later hid
    have hkept (more : List Move) := signal_kept x s moves later more hid
    simp only [afterAll_append] at hhistory hkept
    exact ⟨hhistory.1, hhistory.2, hkept⟩
  · intro i all a htaken hids hlimit
    obtain ⟨t, p, node, ht, hstatus, hnode, hwaits⟩ := wait_begins htaken hids hlimit
    refine ⟨t, p, node, ht, hstatus, hnode, ?_⟩
    intro later more r' q hlater
    have hkept := task_kept hwaits hlater
    refine ⟨hkept, ?_⟩
    intro hlive
    have hassigned := assigned_follows (s := s) (assigned_afterAll x s moves) (.step i :: later)
    have hturn := turn?_signals hkept rfl hnode hlive hassigned.value
    refine ⟨hturn, ?_⟩
    intro seconds ms code hseconds hms htimely hcode
    have hlimited : r.eventDeadline? a = some (r.clock + ms) := eventDeadline?_of_timer? hseconds hms
    have hclock : (r.after s (.step i)).clock = r.clock := r.clock_after s (by simp)
    have hdeadline : (r.after s (.step i)).deadline? i = some (r.clock + ms) := by
      rw [deadline?, hwaits, hlimited]
      rfl
    rw [code?_of_turn? hturn, hlimited] at hcode
    refine answer?_in_time ?_ hdeadline (hclock ▸ Nat.le_add_right _ _) htimely hlater hcode
    intro before between hmet
    have hmoves : r' = (x.newRun s).afterAll s (moves ++ [.step i]) := (afterAll_snoc ..).symm
    rw [hmoves, ← afterAll_append] at hmet ⊢
    rw [← List.append_assoc]
    exact meets_mono x s _ between hmet

/-- A branch that sets an event two seconds after the main branch has begun to wait for it with a limit of five. -/
theorem events_over_histories_setInTime :
    let event : List (String × Json) := [("event_name", .str "e")]
    let nodes : Dict Node :=
      [("a", { Node.ofPrimitive .eventCreate with arguments := .obj event, next := [some "b"] }),
        ("b", { Node.ofPrimitive .fork with
          arguments := .obj [("branch_name", .str "B")], next := [some "c", some "d"] }),
        ("c", { Node.ofPrimitive .eventWait with arguments := .obj (event ++ [("timeout", .int 5)]) }),
        ("d", { Node.ofPrimitive .eventSet with arguments := .obj event })]
    let s : Setup := { definition := { scenarioId := 1, content := { entry := "a", nodes } }, folder := [] }
    let x : Ensemble := { files := {} }
    let r := (x.newRun s).afterAll s [.start, .step 0, .step 0]
    let r' := r.after s (.step 0)
    let passed : Ensemble :=
      { files := r'.files, notices := r'.notices, agenda := { r'.agenda with clock := 2000 } }
    let q := r'.afterAll s [.others passed, .step 1]
    q.clock = 2000 ∧ q.code? s 0 = some 0 ∧ ∀ code, q.code? s 0 = some code → q.clock ≤ 5000 ∧ code = 0 := by
  intro event nodes s x r r' passed q
  have hevent : r.events.get? "e" = some 1 := by decide +kernel
  have htaken : (r.taken? s (.step 0)).bind Action.eventWait? =
      some (false, ⟨["e"], some (Double.ofInt 5)⟩) := by decide +kernel
  have hids : r.eventSignals ⟨["e"], some (Double.ofInt 5)⟩ = [1] := by
    simp [eventSignals, hevent]
  have hknown : r.eventSignals ⟨["e"], some (Double.ofInt 5)⟩ ≠ [] := by simp [hids]
  have htimer : (Double.ofInt 5).timer? = some 5000 := by decide +kernel
  have hzero : (eventTimeout ⟨["e"], some (Double.ofInt 5)⟩).any (·.isZero) = false := by decide +kernel
  have hlater : ¬ r'.Happens s (Steps s 0) [.others passed, .step 1] := by
    simp [Happens, Steps]
  have hclock : q.clock = 2000 := by decide +kernel
  have hlive : q.isCancelled 1 = false := by decide +kernel
  have hanswer : q.answer? false [1] (some 5000) = some 0 := by decide +kernel
  have hmet : q.signals.meets false [1] = true := by decide +kernel
  have hfirst : r'.deadline? 0 = some 5000 := by decide +kernel
  have hsecond : r'.deadline? 1 = none := by decide +kernel
  have hlength : r'.tasks.length = 2 := by decide +kernel
  have hdeadline (i deadline : Nat) (h : r'.deadline? i = some deadline) : 2000 ≤ deadline := by
    obtain _ | _ | n := i
    · rw [hfirst] at h
      obtain rfl := Option.some.inj h
      decide
    · rw [hsecond] at h
      cases h
    · have hnone : r'.tasks[n + 2]? = none := List.getElem?_eq_none (by omega)
      simp [deadline?, hnone] at h
  have htimely : r'.Timely s ([.others passed, .step 1] ++ []) := by
    refine ⟨?_, ?_, trivial⟩
    · intro shared h
      obtain rfl := Move.others.inj h
      exact ⟨show r'.clock ≤ 2000 by decide +kernel, hdeadline⟩
    · intro shared h
      cases h
  have htoken : r.tasks[0]?.map (·.token) = some 1 := by decide +kernel
  have hstart : r.clock = 0 := by decide +kernel
  obtain ⟨t, p, node, ht, -, -, hwait⟩ :=
    (events_over_histories x s [.start, .step 0, .step 0]).2 0 false ⟨["e"], some (Double.ofInt 5)⟩ htaken
      hknown hzero
  have hown : t.token = 1 := by
    rw [show r.tasks[0]? = some t from ht] at htoken
    exact Option.some.inj htoken
  obtain ⟨-, hgoesOn⟩ := hwait [.others passed, .step 1] [] hlater
  obtain ⟨hturn, htime⟩ := hgoesOn (by rw [hown]; exact hlive)
  have hlimit : r.eventDeadline? ⟨["e"], some (Double.ofInt 5)⟩ = some 5000 := by
    rw [eventDeadline?_of_timer? rfl htimer, hstart]
  rw [hids] at hturn htime
  rw [hlimit] at hturn
  refine ⟨hclock, (code?_of_turn? hturn).trans hanswer, ?_⟩
  intro code hcode
  obtain ⟨hle, hbefore, -⟩ := htime _ _ code rfl htimer htimely hcode
  have hsooner : q.clock < r.clock + 5000 := by
    rw [hclock, hstart]
    decide
  exact ⟨by omega, hbefore ⟨[.others passed, .step 1], [], rfl, hmet, hsooner⟩⟩

/-! ## Looking at events -/

/-- There is an event of that name, and it has been set. -/
def EventIsSet (r : Run) (name : String) : Prop := ∃ v, r.eventValue? name = some (some v)

/-- What a look at events comes to: zero if those among the names that are known have been set, and else one. -/
def eventCode (r : Run) (a : EventArguments) : Int := if r.signals.allResolved (r.eventSignals a) then 0 else 1

/-- The event of a name has been set after it got the signal that it has. -/
lemma eventIsSet_iff (x : Ensemble) (s : Setup) (moves : List Move) :
    ((x.newRun s).afterAll s moves).EventIsSet name ↔
      ∃ id, ((x.newRun s).afterAll s moves).events.get? name = some id ∧
        (x.newRun s).Happens s (fun q m => q.Does s .set name m ∧ q.events.get? name = some id) moves := by
  have hset (id : Nat) (hid : ((x.newRun s).afterAll s moves).events.get? name = some id) (v : Int) :=
    List.append_nil moves ▸ (signal_history x s moves [] hid).2 v
  simp only [EventIsSet, eventValue?, Option.map_eq_some_iff]
  constructor
  · rintro ⟨v, id, hid, hv⟩
    exact ⟨id, hid, ((hset id hid v).mp hv).2⟩
  · rintro ⟨id, hid, hhappens⟩
    exact ⟨0, id, hid, (hset id hid 0).mpr ⟨rfl, hhappens⟩⟩

lemma eventCode_eq_zero_iff {a : EventArguments} :
    r.eventCode a = 0 ↔ ∀ name ∈ a.names, r.eventValue? name = none ∨ r.EventIsSet name := by
  have hname (name : String) : (∀ id, r.events.get? name = some id → r.signals.isResolved id = true) ↔
      r.eventValue? name = none ∨ r.EventIsSet name := by
    rw [EventIsSet, eventValue?]
    cases r.events.get? name with
    | none => simp
    | some id => simp [Signals.isResolved, Option.isSome_iff_exists]
  have hcode : r.eventCode a = 0 ↔ r.signals.allResolved (r.eventSignals a) = true := by
    rw [eventCode]
    split <;> simp_all
  rw [hcode, Signals.allResolved, List.all_eq_true]
  simp only [eventSignals, List.mem_filterMap, ← hname]
  constructor
  · exact fun h name hmem id hid => h id ⟨name, hmem, hid⟩
  · rintro h id ⟨name, hmem, hid⟩
    exact h name hmem id hid

/-- A wait with a time limit of zero looks at the events and is over. -/
lemma waitEvents_looks (all : Bool) {a : EventArguments} (hzero : a.timeout.any (·.isZero) = true) :
    r.waitEvents all a = (.done (r.eventCode a), r) := by
  have hlimit : (eventTimeout a).any (·.isZero) = true := by
    obtain ⟨seconds, hseconds, hnothing⟩ := (Option.any_eq_true _ _).mp hzero
    simp [eventTimeout, hseconds, hnothing, Double.isFinite_of_isZero hnothing]
  rw [waitEvents]
  dsimp only
  rw [if_pos hlimit]
  rfl

/-- The step that enters such a wait only goes on with its code. -/
lemma step_eventWait? {all : Bool} {a : EventArguments}
    (htaken : (r.taken? s (.step i)).bind Action.eventWait? = some (all, a)) (hzero : a.timeout.any (·.isZero) = true) :
    ∃ t p node, r.tasks[i]? = some t ∧ t.status = .entering p ∧ s.definition.node? p.node = some node ∧
      r.turn? s i = some (p, .acted node (.done (r.eventCode a))) ∧
      r.after s (.step i) = ({ r with point := some p } : Run).follow s i t p node (.done (r.eventCode a)) := by
  obtain ⟨b, hb, hwait⟩ := Option.bind_eq_some_iff.mp htaken
  obtain ⟨t, p, node, ht, hstatus, hnode, hturn, hafter⟩ := after_of_taken? hb
  have hexecute : ({ r with point := some p } : Run).execute s ⟨t.branch, p.node, node, t.token⟩ b =
      (.done (r.eventCode a), { r with point := some p }) :=
    (execute_eventWait? hwait _).trans (waitEvents_looks all hzero)
  rw [hexecute] at hturn hafter
  exact ⟨t, p, node, ht, hstatus, hnode, hturn, hafter⟩

/-- A wait for all or any of some events with a time limit of zero is over in the step that enters it.  It changes
nothing: what the step does is to go on with its code, and where there is a successor it changes only the point and the
task.  The code is zero if each of the names that is known is the name of an event that has been set since it got its
signal, and else it is one.  Names of events that do not exist have no part in this; so if all of them exist then the
code tells whether all have been set, and without names it is zero. -/
theorem zero_wait_looks (x : Ensemble) (s : Setup) (moves : List Move) {a : EventArguments}
    (hzero : a.timeout.any (·.isZero) = true) :
    let r := (x.newRun s).afterAll s moves
    (∀ all b v, Action.eventWait? b = some (all, a) → r.execute s v b = (.done (r.eventCode a), r)) ∧
    (∀ i all, (r.taken? s (.step i)).bind Action.eventWait? = some (all, a) →
      ∃ t p node, r.tasks[i]? = some t ∧ t.status = .entering p ∧ s.definition.node? p.node = some node ∧
        r.turn? s i = some (p, .acted node (.done (r.eventCode a))) ∧
        r.after s (.step i) = ({ r with point := some p } : Run).follow s i t p node (.done (r.eventCode a)) ∧
        ∀ next, node.successor? (r.eventCode a) = some next → Modifies [.point, .tasks] r (r.after s (.step i))) ∧
    (r.eventCode a = 0 ∨ r.eventCode a = 1) ∧
    (r.eventCode a = 0 ↔ ∀ name ∈ a.names, r.eventValue? name = none ∨ r.EventIsSet name) ∧
    (∀ name, r.EventIsSet name ↔ ∃ id, r.events.get? name = some id ∧
      (x.newRun s).Happens s (fun q m => q.Does s .set name m ∧ q.events.get? name = some id) moves) ∧
    ((∀ name ∈ a.names, r.eventValue? name ≠ none) → (r.eventCode a = 0 ↔ ∀ name ∈ a.names, r.EventIsSet name)) ∧
    (a.names = [] → r.eventCode a = 0) := by
  intro r
  refine ⟨fun all b v hwait => (execute_eventWait? hwait v).trans (waitEvents_looks all hzero),
    fun i all htaken => ?_, ?_, eventCode_eq_zero_iff, fun name => eventIsSet_iff x s moves, fun hknown => ?_,
    fun hnone => ?_⟩
  · obtain ⟨t, p, node, ht, hstatus, hnode, hturn, hafter⟩ := step_eventWait? htaken hzero
    refine ⟨t, p, node, ht, hstatus, hnode, hturn, hafter, fun next hnext => ?_⟩
    have hpoint : Modifies [.point, .tasks] r { r with point := some p } := by
      intro f hf
      cases f <;> first | rfl | simp at hf
    rw [hafter, follow, hnext]
    exact hpoint.trans ((modifies_setStatus _ i _).mono (by decide))
  · rw [eventCode]
    split
    · exact .inl rfl
    · exact .inr rfl
  · rw [eventCode_eq_zero_iff]
    exact forall₂_congr fun name hname => or_iff_right (hknown name hname)
  · rw [eventCode_eq_zero_iff, hnone]
    simp

/-- A look at an event that has been set and at one that has not. -/
theorem zero_wait_looks_twoEvents :
    let both : List (String × Json) := [("event_names", .arr [.str "e", .str "f"])]
    let nodes : Dict Node :=
      [("a", { Node.ofPrimitive .eventCreate with arguments := .obj both, next := [some "b"] }),
        ("b", { Node.ofPrimitive .eventSet with arguments := .obj [("event_name", .str "e")], next := [some "c"] }),
        ("c", { Node.ofPrimitive .eventWait with arguments := .obj (both ++ [("timeout", .int 0)]) })]
    let s : Setup := { definition := { scenarioId := 1, content := { entry := "a", nodes } }, folder := [] }
    let x : Ensemble := { files := {} }
    let r := (x.newRun s).afterAll s [.start, .step 0, .step 0]
    r.EventIsSet "e" ∧ ¬ r.EventIsSet "f" ∧ r.code? s 0 = some 1 := by
  intro both nodes s x r
  let a : EventArguments := ⟨["e", "f"], some (Double.ofInt 0)⟩
  have hzero : a.timeout.any (·.isZero) = true := by decide +kernel
  have htaken : (r.taken? s (.step 0)).bind Action.eventWait? = some (false, a) := by decide +kernel
  have he : r.eventValue? "e" = some (some 0) := by decide +kernel
  have hf : r.eventValue? "f" = some none := by decide +kernel
  have hunset : ¬ r.EventIsSet "f" := fun ⟨v, hv⟩ => nomatch hf.symm.trans hv
  obtain ⟨-, hsteps, hcodes, -, -, hknown, -⟩ := zero_wait_looks x s [.start, .step 0, .step 0] hzero
  obtain ⟨t, p, node, -, -, -, hturn, -, -⟩ := hsteps 0 false htaken
  have hall : r.eventCode a = 0 ↔ ∀ name ∈ a.names, r.EventIsSet name := hknown (by decide +kernel)
  have hone : r.eventCode a = 1 := hcodes.resolve_left fun h => hunset (hall.mp h "f" (by decide))
  exact ⟨⟨0, he⟩, hunset, (code?_of_turn? hturn).trans (congrArg some hone)⟩

/-- A look at an event that does not exist comes to zero, as if the event had been set. -/
theorem zero_wait_of_unknown :
    let unknown : List (String × Json) := [("event_name", .str "e"), ("timeout", .int 0)]
    let nodes : Dict Node := [("a", { Node.ofPrimitive .eventWait with arguments := .obj unknown })]
    let s : Setup := { definition := { scenarioId := 1, content := { entry := "a", nodes } }, folder := [] }
    let x : Ensemble := { files := {} }
    let r := (x.newRun s).after s .start
    (r.taken? s (.step 0)).bind Action.eventWait? = some (false, ⟨["e"], some (Double.ofInt 0)⟩) ∧
      r.eventValue? "e" = none ∧ ¬ r.EventIsSet "e" ∧ r.code? s 0 = some 0 := by
  intro unknown nodes s x r
  have hnone : r.eventValue? "e" = none := by decide +kernel
  refine ⟨by decide +kernel, hnone, ?_, by decide +kernel⟩
  rintro ⟨v, hv⟩
  rw [hnone] at hv
  cases hv

end Run

end FieldStudy
