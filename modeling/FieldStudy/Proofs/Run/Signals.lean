import Mathlib.Data.List.Basic
import Mathlib.Tactic.Common
import FieldStudy.Proofs.Run.Board

/-!
# What signals stand for

A signal stands for one event or for the end of one branch as long as it exists (`Board.Assigned`), and its value is
a matter of history: it has been resolved exactly if its event was set while it was known by it, or if the branch of
a task that holds it has come to its end (`Run.value?_history`).
-/

namespace FieldStudy

/-- What a signal stands for. -/
inductive SignalUse
  | event (name : String)
  | branch (name : String)
deriving DecidableEq

namespace Deed

/-- What the signal stands for that a deed makes. -/
def uses (b : Board) : Deed → List SignalUse
  | .create name => if b.events.contains name then [] else [.event name]
  | .reset name => if b.events.contains name then [.event name] else []
  | .fork branch _ _ => [.branch branch]
  | .resume _ _ => if b.kept?.isSome then [] else [.branch Run.mainBranch]
  | _ => []

/-- The signal that a deed resolves unless it has a value. -/
def resolved? (b : Board) : Deed → Option Nat
  | .set name => b.events.get? name
  | .finish i => (b.tasks[i]?).map (·.done)
  | _ => none

end Deed

namespace Board

/-! ## Each signal has one use -/

/-- The uses of the signals, one for each in the order in which they were made.  A signal that has a value has the
value zero. -/
structure Assigned (uses : List SignalUse) (b : Board) : Prop where
  length : uses.length = b.signals.next
  event : ∀ name id, b.events.get? name = some id → uses[id]? = some (.event name)
  branch : ∀ name id, b.branches.get? name = some id → uses[id]? = some (.branch name)
  task : ∀ t ∈ b.tasks, uses[t.done]? = some (.branch t.branch)
  value : ∀ id v, b.signals.value? id = some v → v = 0

variable {b : Board} {given : List SignalUse}

lemma use_append {id : Nat} {use : SignalUse} (h : given[id]? = some use) (more : List SignalUse) :
    (given ++ more)[id]? = some use := by
  rw [List.getElem?_append_left (List.getElem?_eq_some_iff.mp h).1, h]

namespace Assigned

lemma lt (h : b.Assigned given) {id : Nat} {use : SignalUse} (hid : given[id]? = some use) : id < b.signals.next :=
  h.length ▸ (List.getElem?_eq_some_iff.mp hid).1

/-- The signal made last has its use behind all others. -/
lemma fresh_use (h : b.Assigned given) (use : SignalUse) : (given ++ [use])[b.signals.next]? = some use := by
  rw [← h.length]
  simp

lemma resolve (h : b.Assigned given) {signal : Nat} (hsignal : signal < b.signals.next) :
    (b.resolve signal).Assigned given where
  length := h.length.trans (b.signals.next_resolve signal 0).symm
  event := h.event
  branch := h.branch
  task := h.task
  value id v hv := by
    rw [Board.resolve, Signals.value?_resolve 0 hsignal, Option.or_eq_some_iff] at hv
    obtain hv | ⟨-, hv⟩ := hv
    · exact h.value id v hv
    · split at hv
      · exact (Option.some.inj hv).symm
      · cases hv

lemma renewEvent (h : b.Assigned given) (name : String) :
    (b.renewEvent name).Assigned (given ++ [.event name]) where
  length := by simp [Board.renewEvent, h.length]
  event other id hid := by
    rw [Board.renewEvent, Dict.get?_insert] at hid
    split at hid
    · next heq =>
      obtain rfl := Option.some.inj hid
      exact heq ▸ h.fresh_use _
    · exact use_append (h.event other id hid) _
  branch other id hid := use_append (h.branch other id hid) _
  task t ht := use_append (h.task t ht) _
  value id v hv := h.value id v (by simpa [Board.renewEvent] using hv)

lemma fork (h : b.Assigned given) (branch : String) (token : Nat) (p : Point) :
    (b.fork branch token p).Assigned (given ++ [.branch branch]) where
  length := by simp [Board.fork, h.length]
  event other id hid := use_append (h.event other id hid) _
  branch other id hid := by
    rw [Board.fork, Dict.get?_insert] at hid
    split at hid
    · next heq =>
      obtain rfl := Option.some.inj hid
      exact heq ▸ h.fresh_use _
    · exact use_append (h.branch other id hid) _
  task t ht := by
    obtain ht | ht := List.mem_append.mp ht
    · exact use_append (h.task t ht) _
    · obtain rfl := List.mem_singleton.mp ht
      exact h.fresh_use _
  value id v hv := h.value id v (by simpa [Board.fork] using hv)

lemma after (h : b.Assigned given) (d : Deed) : (b.after d).Assigned (given ++ d.uses b) := by
  cases d with
  | create name =>
    rw [Board.after, Deed.uses]
    split
    · rwa [List.append_nil]
    · exact h.renewEvent name
  | reset name =>
    rw [Board.after, Deed.uses]
    split
    · exact h.renewEvent name
    · rwa [List.append_nil]
  | set name =>
    rw [show Deed.uses b (.set name) = [] from rfl, List.append_nil, Board.after]
    split
    · next signal hsignal => exact h.resolve (h.lt (h.event name signal hsignal))
    · exact h
  | fork branch token p => exact h.fork branch token p
  | resume token p =>
    rw [Board.after, Deed.uses]
    cases hkept : b.kept? with
    | none => exact h.fork Run.mainBranch token p
    | some done =>
      rw [Option.isSome_some, if_pos rfl, List.append_nil]
      refine ⟨h.length, h.event, h.branch, ?_, h.value⟩
      intro t ht
      obtain ht | ht := List.mem_append.mp ht
      · exact h.task t ht
      · obtain rfl := List.mem_singleton.mp ht
        exact h.branch _ _ (Option.filter_eq_some_iff.mp hkept).1
  | finish i =>
    rw [show Deed.uses b (.finish i) = [] from rfl, List.append_nil, Board.after]
    split
    · next t ht => exact h.resolve (h.lt (h.task t (List.mem_of_getElem? ht)))
    · exact h
  | turn i status =>
    rw [show Deed.uses b (.turn i status) = [] from rfl, List.append_nil]
    refine ⟨h.length, h.event, h.branch, ?_, h.value⟩
    intro t ht
    obtain ⟨u, hu, _, rfl⟩ := Task.mem_modify_status ht
    exact h.task u hu
  | clear =>
    rw [show Deed.uses b .clear = [] from rfl, List.append_nil]
    exact ⟨h.length, fun _ _ h => (by cases h), fun _ _ h => (by cases h), h.task, h.value⟩

end Assigned

/-! ## Values -/

/-- A deed gives a value to the signal that it resolves, and to no other. -/
lemma isResolved_after (h : b.Assigned given) (d : Deed) (id : Nat) :
    (b.after d).signals.isResolved id = true ↔ b.signals.isResolved id = true ∨ d.resolved? b = some id := by
  have hresolve {signal : Nat} (hsignal : signal < b.signals.next) :
      (b.resolve signal).signals.isResolved id = true ↔ b.signals.isResolved id = true ∨ some signal = some id := by
    rw [resolve, Signals.isResolved, Signals.isResolved, Signals.value?_resolve 0 hsignal, Option.isSome_or,
      Bool.or_eq_true, Option.some.injEq]
    by_cases heq : id = signal
    · simp [heq]
    · simp [heq, Ne.symm heq]
  cases d with
  | create name => rw [after]; split <;> simp [renewEvent, Deed.resolved?, Signals.isResolved]
  | reset name => rw [after]; split <;> simp [renewEvent, Deed.resolved?, Signals.isResolved]
  | set name =>
    rw [after, Deed.resolved?]
    cases hname : b.events.get? name with
    | none => simp
    | some signal => exact hresolve (h.lt (h.event name signal hname))
  | fork branch token p => simp [after, fork, Deed.resolved?, Signals.isResolved]
  | resume token p => rw [after]; split <;> simp [fork, Deed.resolved?, Signals.isResolved]
  | finish i =>
    rw [after, Deed.resolved?]
    cases ht : b.tasks[i]? with
    | none => simp
    | some t => exact hresolve (h.lt (h.task t (List.mem_of_getElem? ht)))
  | turn i status => simp [after, Deed.resolved?]
  | clear => simp [after, Deed.resolved?]

/-- One of some deeds resolves the signal. -/
def Resolves (id : Nat) : Board → List Deed → Prop
  | _, [] => False
  | b, d :: rest => d.resolved? b = some id ∨ Resolves id (b.after d) rest

/-- The uses of the signals that some deeds make. -/
def uses : Board → List Deed → List SignalUse
  | _, [] => []
  | b, d :: rest => d.uses b ++ uses (b.after d) rest

lemma Assigned.afterAll (h : b.Assigned given) (deeds : List Deed) :
    (b.afterAll deeds).Assigned (given ++ b.uses deeds) := by
  induction deeds generalizing b given with
  | nil => rwa [Board.uses, List.append_nil]
  | cons d rest ih =>
    rw [Board.uses, ← List.append_assoc]
    exact ih (h.after d)

lemma isResolved_afterAll (h : b.Assigned given) (deeds : List Deed) (id : Nat) :
    (b.afterAll deeds).signals.isResolved id = true ↔ b.signals.isResolved id = true ∨ b.Resolves id deeds := by
  induction deeds generalizing b given with
  | nil => simp [Resolves]
  | cons d rest ih => rw [afterAll_cons, ih (h.after d), isResolved_after h, Resolves, or_assoc]

lemma resolves_append {id : Nat} (deeds others : List Deed) :
    b.Resolves id (deeds ++ others) ↔ b.Resolves id deeds ∨ (b.afterAll deeds).Resolves id others := by
  induction deeds generalizing b with
  | nil => simp [Resolves]
  | cons d rest ih => rw [List.cons_append, Resolves, Resolves, ih, afterAll_cons, or_assoc]

lemma not_resolves {id : Nat} {deeds : List Deed} (h : ∀ d ∈ deeds, ∀ b, d.resolved? b = none) :
    ¬ b.Resolves id deeds := by
  induction deeds generalizing b with
  | nil => exact fun h => h
  | cons d rest ih =>
    rintro (hd | hrest)
    · rw [h d List.mem_cons_self b] at hd
      cases hd
    · exact ih (fun d hd => h d (List.mem_cons_of_mem _ hd)) hrest

/-- Setting some events resolves the signals that they are known by. -/
lemma resolves_set {id : Nat} (names : List String) :
    b.Resolves id (names.map .set) ↔ ∃ name ∈ names, b.events.get? name = some id := by
  induction names generalizing b with
  | nil => simp [Resolves]
  | cons name rest ih =>
    have hevents : (b.after (.set name)).events = b.events := by
      rw [after]
      split <;> rfl
    rw [List.map_cons, Resolves, ih, hevents]
    simp [Deed.resolved?]

end Board

namespace Run

/-! ## What resolves a signal -/

/-- The move is a step that takes this operation on the event of this name. -/
def Does (s : Setup) (op : EventOp) (name : String) (r : Run) (m : Move) : Prop :=
  ∃ a, r.taken? s m = some (.event op a) ∧ name ∈ a.names

/-- The move is a step that is the end of the branch of a task with this signal. -/
def Ends (s : Setup) (signal : Nat) (r : Run) (m : Move) : Prop :=
  ∃ i t, m = .step i ∧ r.tasks[i]? = some t ∧ t.done = signal ∧ r.endsBranch s i = true

variable {r : Run} {s : Setup} {i : Nat}

/-- The action of a step resolves the signals of the events that it sets. -/
lemma resolves_actionDeeds {id : Nat} : r.board.Resolves id (r.actionDeeds s i) ↔
    ∃ name, r.Does s .set name (.step i) ∧ r.events.get? name = some id := by
  cases htaken : r.taken? s (.step i) with
  | none =>
    rw [actionDeeds_of_none htaken]
    refine iff_of_false (fun h => h) ?_
    rintro ⟨name, ⟨a, ha, -⟩, -⟩
    rw [htaken] at ha
    cases ha
  | some a =>
    obtain ⟨t, p, node, -, -, -, hdeeds⟩ := actionDeeds_of_taken? htaken
    rw [hdeeds]
    by_cases hset : ∃ b, a = .event .set b
    · obtain ⟨b, rfl⟩ := hset
      have hdoes (name : String) : r.Does s .set name (.step i) ↔ name ∈ b.names := by
        simp [Does, htaken]
      simp only [hdoes]
      exact Board.resolves_set b.names
    · refine iff_of_false (Board.not_resolves ?_) ?_
      · intro d hd b'
        cases a with
        | fork branch =>
          obtain ⟨entry, -, rfl⟩ := List.mem_map.mp hd
          rfl
        | event op b =>
          cases op with
          | create =>
            obtain ⟨name, -, rfl⟩ := List.mem_map.mp hd
            rfl
          | reset =>
            obtain ⟨name, -, rfl⟩ := List.mem_map.mp hd
            rfl
          | set => exact absurd ⟨b, rfl⟩ hset
          | wait => cases hd
          | waitAll => cases hd
        | _ => cases hd
      · rintro ⟨name, ⟨b, hb, -⟩, -⟩
        exact hset ⟨b, Option.some.inj (htaken.symm.trans hb)⟩

lemma resolves_turn {b : Board} {id : Nat} {t : Task} {p : Point} {turn : Turn} (ht : b.tasks[i]? = some t) :
    b.Resolves id (turn.deeds i p) ↔ turn.isEnd = true ∧ t.done = id := by
  cases hend : turn.isEnd <;> simp [Turn.deeds, hend, Board.Resolves, Deed.resolved?, ht]

lemma endsBranch_iff : r.endsBranch s i = true ↔ ∃ p turn, r.turn? s i = some (p, turn) ∧ turn.isEnd = true := by
  rw [endsBranch]
  cases r.turn? s i with
  | none => simp
  | some pt =>
    obtain ⟨p, turn⟩ := pt
    simp

lemma ends_step_iff {id : Nat} {t : Task} {p : Point} {turn : Turn} (ht : r.tasks[i]? = some t)
    (hturn : r.turn? s i = some (p, turn)) : r.Ends s id (.step i) ↔ turn.isEnd = true ∧ t.done = id := by
  constructor
  · rintro ⟨j, u, hj, hu, hdone, hends⟩
    obtain rfl := Move.step.inj hj
    obtain rfl := Option.some.inj (ht.symm.trans hu)
    obtain ⟨p', turn', h, hend⟩ := endsBranch_iff.mp hends
    obtain ⟨rfl, rfl⟩ := Prod.mk.inj (Option.some.inj (hturn.symm.trans h))
    exact ⟨hend, hdone⟩
  · rintro ⟨hend, hdone⟩
    exact ⟨i, t, rfl, ht, hdone, endsBranch_iff.mpr ⟨p, turn, hturn, hend⟩⟩

/-- What the host does resolves no signal. -/
lemma resolved?_of_mem_deeds {m : Move} (hm : ∀ i, m ≠ .step i) {d : Deed} (hd : d ∈ r.deeds s m) (b : Board) :
    d.resolved? b = none := by
  cases m with
  | start =>
    rw [deeds] at hd
    split at hd
    · obtain rfl | hd := List.mem_cons.mp hd
      · rfl
      · split at hd
        · obtain rfl := List.mem_singleton.mp hd
          rfl
        · cases hd
    · cases hd
  | resume =>
    rw [deeds] at hd
    split at hd
    · obtain rfl := List.mem_singleton.mp hd
      rfl
    · cases hd
  | step i => exact absurd rfl (hm i)
  | _ => cases hd

/-- A move resolves the signals of the events that it sets and, at the end of a branch, the signal of the branch. -/
lemma resolves_deeds {id : Nat} (m : Move) : r.board.Resolves id (r.deeds s m) ↔
    (∃ name, r.Does s .set name m ∧ r.events.get? name = some id) ∨ r.Ends s id m := by
  by_cases hstep : ∃ i, m = .step i
  · obtain ⟨i, rfl⟩ := hstep
    rw [← resolves_actionDeeds]
    cases hturn : r.turn? s i with
    | none =>
      rw [deeds, hturn, actionDeeds_of_none (taken?_of_turn? hturn)]
      refine iff_of_false (fun h => h) (not_or_intro (fun h => h) ?_)
      rintro ⟨j, t, hj, -, -, hends⟩
      obtain rfl := Move.step.inj hj
      obtain ⟨p, turn, h, -⟩ := endsBranch_iff.mp hends
      rw [hturn] at h
      cases h
    | some pt =>
      obtain ⟨p, turn⟩ := pt
      obtain ⟨t, ht, -⟩ := Option.bind_eq_some_iff.mp hturn
      have htask := Board.task_afterAll (b := r.board) ht fun status => r.turn_notMem_actionDeeds s i i status
      rw [deeds, hturn, Board.resolves_append, resolves_turn htask, ends_step_iff ht hturn]
  · have hdoes : ¬ ∃ name, r.Does s .set name m ∧ r.events.get? name = some id := by
      rintro ⟨name, ⟨a, ha, -⟩, -⟩
      exact hstep (step_of_taken? ha)
    have hends : ¬ r.Ends s id m := by
      rintro ⟨j, -, hj, -⟩
      exact hstep ⟨j, hj⟩
    refine iff_of_false (Board.not_resolves ?_) (not_or_intro hdoes hends)
    intro d hd b
    exact resolved?_of_mem_deeds (fun i heq => hstep ⟨i, heq⟩) hd b

/-! ## Histories of signals -/

/-- The uses of the signals that some moves make. -/
def uses (s : Setup) : Run → List Move → List SignalUse
  | _, [] => []
  | r, m :: rest => r.board.uses (r.deeds s m) ++ uses s (r.after s m) rest

lemma uses_append (moves others : List Move) :
    r.uses s (moves ++ others) = r.uses s moves ++ (r.afterAll s moves).uses s others := by
  induction moves generalizing r with
  | nil => rfl
  | cons m rest ih => rw [List.cons_append, uses, uses, ih, afterAll_cons, List.append_assoc]

lemma assigned_follows {given : List SignalUse} (h : r.board.Assigned given) (moves : List Move) :
    (r.afterAll s moves).board.Assigned (given ++ r.uses s moves) := by
  induction moves generalizing r given with
  | nil => rwa [uses, List.append_nil]
  | cons m rest ih =>
    rw [uses, ← List.append_assoc]
    refine ih ?_
    rw [board_after]
    exact h.afterAll (r.deeds s m)

lemma newRun_board (x : Ensemble) (s : Setup) : (x.newRun s).board = ⟨{}, [], [], []⟩ := rfl

/-- Each signal of a run stands for one event or one branch as long as it is known. -/
lemma assigned_afterAll (x : Ensemble) (s : Setup) (moves : List Move) :
    ((x.newRun s).afterAll s moves).board.Assigned ((x.newRun s).uses s moves) := by
  have hnew : (x.newRun s).board.Assigned [] :=
    { length := rfl
      event := fun _ _ h => by cases h
      branch := fun _ _ h => by cases h
      task := fun _ h => by cases h
      value := fun id v h => by simp [newRun_board, Signals.value?] at h }
  exact assigned_follows hnew moves

/-- A signal has a value once a move has resolved it. -/
lemma isResolved_follows {given : List SignalUse} (h : r.board.Assigned given) (moves : List Move) (id : Nat) :
    (r.afterAll s moves).signals.isResolved id = true ↔ r.signals.isResolved id = true ∨
      r.Happens s (fun q m => q.board.Resolves id (q.deeds s m)) moves := by
  induction moves generalizing r given with
  | nil => simp
  | cons m rest ih =>
    have hafter := h.afterAll (r.deeds s m)
    have hfirst := Board.isResolved_afterAll h (r.deeds s m) id
    rw [← board_after] at hafter hfirst
    rw [afterAll_cons, ih hafter, Happens, ← or_assoc]
    exact or_congr_left hfirst

lemma isResolved_afterAll (x : Ensemble) (s : Setup) (moves : List Move) (id : Nat) :
    ((x.newRun s).afterAll s moves).signals.isResolved id = true ↔
      (x.newRun s).Happens s (fun q m => q.board.Resolves id (q.deeds s m)) moves := by
  have hnew := isResolved_follows (assigned_afterAll x s []) (s := s) moves id
  simpa [Signals.isResolved, Signals.value?, show (x.newRun s).signals = {} from rfl] using hnew

/-- A use that some moves have made for a signal. -/
lemma use_after {moves : List Move} (later : List Move) {id : Nat} {use : SignalUse}
    (h : (r.uses s moves)[id]? = some use) :
    (r.uses s (moves ++ later))[id]? = some use := by
  rw [uses_append]
  exact Board.use_append h _

variable {x : Ensemble} {moves : List Move} {id : Nat}

/-- The signal of an event has a value once the event has been set while it was known by the signal. -/
lemma isResolved_event {name : String} (huse : ((x.newRun s).uses s moves)[id]? = some (.event name)) :
    ((x.newRun s).afterAll s moves).signals.isResolved id = true ↔
      (x.newRun s).Happens s (fun q m => q.Does s .set name m ∧ q.events.get? name = some id) moves := by
  rw [isResolved_afterAll]
  refine happens_congr ?_
  intro before m rest hmoves
  have hsame {use : SignalUse} (h : ((x.newRun s).uses s before)[id]? = some use) : use = .event name := by
    have hlast := use_after (m :: rest) h
    rw [← hmoves, huse] at hlast
    exact (Option.some.inj hlast).symm
  have hassigned := assigned_afterAll x s before
  rw [resolves_deeds]
  refine ⟨?_, fun h => .inl ⟨name, h⟩⟩
  rintro (⟨other, hdoes, hid⟩ | ⟨i, t, -, ht, rfl, -⟩)
  · obtain rfl := SignalUse.event.inj (hsame (hassigned.event other id hid))
    exact ⟨hdoes, hid⟩
  · cases hsame (hassigned.task t (List.mem_of_getElem? ht))

/-- The signal of a branch has a value once the branch of a task that holds the signal has come to its end. -/
lemma isResolved_branch {name : String} (huse : ((x.newRun s).uses s moves)[id]? = some (.branch name)) :
    ((x.newRun s).afterAll s moves).signals.isResolved id = true ↔
      (x.newRun s).Happens s (fun q m => q.Ends s id m) moves := by
  rw [isResolved_afterAll]
  refine happens_congr ?_
  intro before m rest hmoves
  have hassigned := assigned_afterAll x s before
  rw [resolves_deeds]
  refine ⟨?_, .inr⟩
  rintro (⟨other, -, hid⟩ | hends)
  · have hlast := use_after (m :: rest) (hassigned.event other id hid)
    rw [← hmoves, huse] at hlast
    cases hlast
  · exact hends

/-- A signal that has a value has the value zero. -/
lemma value?_eq_some_iff (x : Ensemble) (s : Setup) (moves : List Move) (id : Nat) (v : Int) :
    ((x.newRun s).afterAll s moves).signals.value? id = some v ↔
      v = 0 ∧ ((x.newRun s).afterAll s moves).signals.isResolved id = true := by
  have hvalue := (assigned_afterAll x s moves).value id
  constructor
  · intro h
    exact ⟨hvalue v h, by simp [Signals.isResolved, h]⟩
  · rintro ⟨rfl, h⟩
    obtain ⟨w, hw⟩ := Option.isSome_iff_exists.mp h
    rw [hw, hvalue w hw]

end Run

end FieldStudy
