import Mathlib.Data.List.Induction
import Mathlib.Tactic.Common
import FieldStudy.Proofs.Run.Epochs
import FieldStudy.Proofs.Run.Queue
import FieldStudy.Proofs.Run.Signals

/-!
# Waits for signals

A task stays where it is until its own next step, whatever else happens to the run (`Run.task_kept`).  A wait for
signals is bound to the signals that were known when it began, so that its next step depends on the values of these
and on the clock (`Run.answer?`).  The clock stands still while tasks go on; only `Timely` moves are considered where
the time of a step matters.
-/

namespace FieldStudy

namespace Signals

/-- All, or else any, of some signals have a value. -/
def meets (s : Signals) (all : Bool) (ids : List Nat) : Bool :=
  if all then s.allResolved ids else ids.any s.isResolved

/-- Signals that have a value keep a wait met. -/
lemma meets_of_imp {s s' : Signals} {all : Bool} {ids : List Nat}
    (h : ∀ id, s.isResolved id = true → s'.isResolved id = true) (hmeets : s.meets all ids = true) :
    s'.meets all ids = true := by
  cases all with
  | true =>
    have hall : ∀ id ∈ ids, s.isResolved id = true := List.all_eq_true.mp hmeets
    exact List.all_eq_true.mpr fun id hid => h id (hall id hid)
  | false =>
    obtain ⟨id, hid, hresolved⟩ := List.any_eq_true.mp (show ids.any s.isResolved = true from hmeets)
    exact List.any_eq_true.mpr ⟨id, hid, h id hresolved⟩

/-- The first value of some signals that have no other value than zero. -/
lemma firstResolved?_eq {s : Signals} (hzero : ∀ id v, s.value? id = some v → v = 0) (ids : List Nat) :
    s.firstResolved? ids = if ids.any s.isResolved then some 0 else none := by
  rw [firstResolved?]
  induction ids with
  | nil => rfl
  | cons id rest ih =>
    rw [List.findSome?_cons, List.any_cons, ih, isResolved]
    cases hv : s.value? id with
    | none => rfl
    | some v => simp [hzero id v hv]

end Signals

namespace Run

variable {r : Run} {s : Setup} {i : Nat} {t : Task}

/-! ## Between the steps of a task -/

/-- The move is a step that the task can take. -/
def Steps (s : Setup) (i : Nat) (r : Run) (m : Move) : Prop := m = .step i ∧ (r.step? s i).isSome = true

lemma turn_notMem_deeds {m : Move} (hm : ¬ r.Steps s i m) (status : TaskStatus) : .turn i status ∉ r.deeds s m := by
  cases m with
  | start =>
    rw [deeds]
    split
    · split <;> simp
    · exact List.not_mem_nil
  | resume =>
    rw [deeds]
    split <;> simp
  | step j =>
    rw [deeds]
    cases hturn : r.turn? s j with
    | none => exact List.not_mem_nil
    | some pt =>
      obtain ⟨p, turn⟩ := pt
      have hj : i ≠ j := by
        rintro rfl
        refine hm ⟨rfl, ?_⟩
        rw [← turn?_isSome, hturn, Option.isSome_some]
      have hdeeds : .turn i status ∉ turn.deeds j p := by
        rw [Turn.deeds]
        split <;> simp [hj]
      exact fun h => (List.mem_append.mp h).elim (r.turn_notMem_actionDeeds s j i status) hdeeds
  | _ => exact List.not_mem_nil

lemma task_after {m : Move} (ht : r.tasks[i]? = some t) (hm : ¬ r.Steps s i m) :
    (r.after s m).tasks[i]? = some t := by
  have hboard := Board.task_afterAll (b := r.board) ht (turn_notMem_deeds hm)
  rwa [← board_after] at hboard

/-- A task stays as it is until it takes a step. -/
lemma task_kept {moves : List Move} (ht : r.tasks[i]? = some t) (hmoves : ¬ r.Happens s (Steps s i) moves) :
    (r.afterAll s moves).tasks[i]? = some t := by
  induction moves generalizing r with
  | nil => exact ht
  | cons m rest ih =>
    obtain ⟨hfirst, hrest⟩ := not_or.mp hmoves
    exact ih (task_after ht hfirst) hrest

/-- A task that any next step would end stays as it is or has ended. -/
lemma kept_or_ended (ht : r.tasks[i]? = some t)
    (hends : ∀ before, (r.afterAll s before).tasks[i]? = some t → ((r.afterAll s before).step? s i).isSome = true →
      ((r.afterAll s before).after s (.step i)).tasks[i]? = some { t with status := .ended }) (moves : List Move) :
    (r.afterAll s moves).tasks[i]? = some t ∨ (r.afterAll s moves).tasks[i]? = some { t with status := .ended } := by
  induction moves using List.reverseRecOn with
  | nil => exact .inl ht
  | append_singleton moves m ih =>
    have hnext := hends moves
    rw [afterAll_snoc]
    generalize r.afterAll s moves = q at ih hnext ⊢
    by_cases hsteps : q.Steps s i m
    · obtain ⟨rfl, hstep⟩ := hsteps
      obtain ih | ih := ih
      · exact .inr (hnext ih hstep)
      · rw [step?_ended s ih rfl] at hstep
        cases hstep
    · exact ih.imp (fun h => task_after h hsteps) fun h => task_after h hsteps

/-- How a task stands after its step. -/
lemma task_step {p : Point} {turn : Turn} (ht : r.tasks[i]? = some t) (hturn : r.turn? s i = some (p, turn)) :
    (r.after s (.step i)).tasks[i]? = some { t with status := turn.status p } := by
  have haction := Board.task_afterAll (b := r.board) ht fun status => r.turn_notMem_actionDeeds s i i status
  have hboard : ((r.after s (.step i)).board.tasks[i]?) = some { t with status := turn.status p } := by
    rw [board_after, deeds, hturn, Board.afterAll_append]
    generalize r.board.afterAll (r.actionDeeds s i) = b at haction
    cases hend : turn.isEnd with
    | true => simp [afterAll_deeds_end haction hend, Board.after, Board.resolve, haction]
    | false => simp [afterAll_deeds_on hend, Board.after, haction]
  exact hboard

/-- The turn of a task whose epoch has ended neither gives a code nor is the end of its branch. -/
lemma turn_of_cancelled {p : Point} {turn : Turn} (ht : r.tasks[i]? = some t)
    (hcancelled : r.isCancelled t.token = true) (hturn : r.turn? s i = some (p, turn)) :
    turn.code? = none ∧ turn.isEnd = false := by
  cases hstatus : t.status with
  | entering q =>
    rw [turn?_entering s ht hstatus] at hturn
    obtain ⟨-, rfl⟩ := Prod.mk.inj (Option.some.inj hturn)
    have hdropped : r.entry s t q = .dropped := by simp [entry, isLive, hcancelled]
    rw [hdropped]
    exact ⟨rfl, rfl⟩
  | waiting q a resumption =>
    rw [turn?_waiting s ht hstatus, waitResult?_cancelled a hcancelled, Option.map_some] at hturn
    obtain ⟨-, rfl⟩ := Prod.mk.inj (Option.some.inj hturn)
    rw [sequel]
    split
    · exact ⟨rfl, rfl⟩
    · exact ⟨rfl, rfl⟩
  | ended =>
    rw [turn?_ended s ht hstatus] at hturn
    cases hturn

/-- A signal that has a value keeps it. -/
lemma isResolved_mono (x : Ensemble) (s : Setup) (moves later : List Move) {id : Nat}
    (h : ((x.newRun s).afterAll s moves).signals.isResolved id = true) :
    ((x.newRun s).afterAll s (moves ++ later)).signals.isResolved id = true := by
  rw [afterAll_append]
  exact (isResolved_follows (assigned_afterAll x s moves) later id).mpr (.inl h)

lemma meets_mono (x : Ensemble) (s : Setup) (moves later : List Move) {all : Bool} {ids : List Nat}
    (h : ((x.newRun s).afterAll s moves).signals.meets all ids = true) :
    ((x.newRun s).afterAll s (moves ++ later)).signals.meets all ids = true :=
  Signals.meets_of_imp (fun _ => isResolved_mono x s moves later) h

/-! ## The step after a wait -/

/-- What a wait for signals has come to: zero if it is met, or else one if time is up. -/
def answer? (r : Run) (all : Bool) (ids : List Nat) (deadline : Option Nat) : Option Int :=
  if r.signals.meets all ids then some 0 else if deadline.any (· ≤ r.clock) then some 1 else none

lemma waitResult?_signals {token : Nat} (hlive : r.isCancelled token = false)
    (hzero : ∀ id v, r.signals.value? id = some v → v = 0) (all : Bool) (ids : List Nat) (deadline : Option Nat) :
    r.waitResult? token (.signals all ids deadline) = (r.answer? all ids deadline).map .ok := by
  have hmet : (if all then (if r.signals.allResolved ids then some 0 else none) else r.signals.firstResolved? ids) =
      if r.signals.meets all ids then some (0 : Int) else none := by
    cases all with
    | true => rfl
    | false => exact Signals.firstResolved?_eq hzero ids
  rw [waitResult?, hlive, if_neg Bool.false_ne_true]
  rw [hmet, answer?]
  by_cases hmeets : r.signals.meets all ids = true
  · simp [hmeets]
  · by_cases hdue : deadline.any (· ≤ r.clock) = true <;> simp [hmeets, hdue]

/-- The next turn of a task that waits for signals and then goes on with a code. -/
lemma turn?_signals {p : Point} {node : Node} {all : Bool} {ids : List Nat} {deadline : Option Nat}
    {resumption : Resumption} (ht : r.tasks[i]? = some t)
    (hstatus : t.status = .waiting p (.signals all ids deadline) resumption)
    (hnode : s.definition.node? p.node = some node) (hlive : r.isCancelled t.token = false)
    (hzero : ∀ id v, r.signals.value? id = some v → v = 0) :
    r.turn? s i = (r.answer? all ids deadline).map fun v => (p, .acted node
      ((r.awake i (.signals all ids deadline)).proceed s (.ok v) resumption).1) := by
  rw [turn?_waiting s ht hstatus, waitResult?_signals hlive hzero, Option.map_map]
  simp [Function.comp_def, sequel, hnode]

lemma code?_of_turn? {p : Point} {node : Node} {code : Option Int}
    (h : r.turn? s i = code.map fun code => (p, .acted node (.done code))) : r.code? s i = code := by
  rw [code?, h]
  cases code <;> rfl

/-! ## Moves in time -/

/-- The times that a task waits for. -/
def deadline? (r : Run) (i : Nat) : Option Nat := (r.tasks[i]?.bind Task.await?).bind Await.deadline?

/-- Time never goes back, and it does not pass over a deadline before the task that waits for it has gone on. -/
def Timely (s : Setup) : Run → List Move → Prop
  | _, [] => True
  | r, m :: rest => (∀ shared, m = .others shared → r.clock ≤ shared.agenda.clock ∧
      ∀ i deadline, r.deadline? i = some deadline → shared.agenda.clock ≤ deadline) ∧ Timely s (r.after s m) rest

lemma timely_append (moves others : List Move) :
    r.Timely s (moves ++ others) ↔ r.Timely s moves ∧ (r.afterAll s moves).Timely s others := by
  induction moves generalizing r with
  | nil => simp [Timely]
  | cons m rest ih => rw [List.cons_append, Timely, Timely, ih, afterAll_cons, and_assoc]

lemma Timely.clock_le {moves : List Move} (h : r.Timely s moves) : r.clock ≤ (r.afterAll s moves).clock := by
  induction moves generalizing r with
  | nil => exact Nat.le_refl _
  | cons m rest ih =>
    refine Nat.le_trans ?_ (ih h.2)
    by_cases hm : ∃ shared, m = .others shared
    · obtain ⟨shared, rfl⟩ := hm
      exact (h.1 shared rfl).1
    · exact Nat.le_of_eq (r.clock_after s fun shared heq => hm ⟨shared, heq⟩).symm

/-- While a task waits, its deadline does not pass. -/
lemma Timely.le_deadline {moves : List Move} (h : r.Timely s moves) (hmoves : ¬ r.Happens s (Steps s i) moves)
    {deadline : Nat} (hdeadline : r.deadline? i = some deadline) (hle : r.clock ≤ deadline) :
    (r.afterAll s moves).clock ≤ deadline := by
  induction moves generalizing r with
  | nil => exact hle
  | cons m rest ih =>
    obtain ⟨hfirst, hrest⟩ := not_or.mp hmoves
    obtain ⟨a, hawait, ha⟩ := Option.bind_eq_some_iff.mp hdeadline
    obtain ⟨t, ht, hwaits⟩ := Option.bind_eq_some_iff.mp hawait
    refine ih h.2 hrest ?_ ?_
    · rw [deadline?, task_after ht hfirst, Option.bind_some, hwaits]
      exact ha
    · by_cases hm : ∃ shared, m = .others shared
      · obtain ⟨shared, rfl⟩ := hm
        exact (h.1 shared rfl).2 i deadline hdeadline
      · exact (r.clock_after s fun shared heq => hm ⟨shared, heq⟩).symm ▸ hle

/-- Between two of the moves, or before or after all of them, this holds of the run. -/
def Sometime (s : Setup) (P : Run → Prop) (r : Run) (moves : List Move) : Prop :=
  ∃ before rest, moves = before ++ rest ∧ P (r.afterAll s before)

/-- When a wait with a deadline is over, and whether it has been met by then: a wait that is met before the deadline
gives zero, and one that is not met until the deadline gives one at that time. -/
lemma answer?_in_time {later more : List Move} {deadline : Nat} {all : Bool} {ids : List Nat} {code : Int}
    (hmono : ∀ before between, (r.afterAll s before).signals.meets all ids = true →
      (r.afterAll s (before ++ between)).signals.meets all ids = true)
    (hdeadline : r.deadline? i = some deadline) (hle : r.clock ≤ deadline) (htimely : r.Timely s (later ++ more))
    (hlater : ¬ r.Happens s (Steps s i) later)
    (hcode : (r.afterAll s later).answer? all ids (some deadline) = some code) :
    (r.afterAll s later).clock ≤ deadline ∧
    (r.Sometime s (fun q => q.signals.meets all ids = true ∧ q.clock < deadline) (later ++ more) → code = 0) ∧
    (¬ r.Sometime s (fun q => q.signals.meets all ids = true ∧ q.clock ≤ deadline) (later ++ more) →
      code = 1 ∧ (r.afterAll s later).clock = deadline) := by
  obtain ⟨hfirst, hsecond⟩ := (timely_append later more).mp htimely
  have hclock := hfirst.le_deadline hlater hdeadline hle
  rw [answer?] at hcode
  refine ⟨hclock, ?_, ?_⟩
  · rintro ⟨before, rest, hmoves, hmeets, htime⟩
    have hmet : (r.afterAll s later).signals.meets all ids = true := by
      obtain ⟨between, hbefore, -⟩ | ⟨between, hbefore, hmore⟩ := List.append_eq_append_iff.mp hmoves.symm
      · -- It was met when the wait was over or earlier.
        exact hbefore ▸ hmono before between hmeets
      · -- It was met later, so that time was not up yet.
        by_contra hmet
        rw [hmore, timely_append] at hsecond
        have hearly := hsecond.1.clock_le
        rw [← afterAll_append, ← hbefore] at hearly
        have hnot : ¬ deadline ≤ (r.afterAll s later).clock := Nat.not_le_of_lt (Nat.lt_of_le_of_lt hearly htime)
        simp [hmet, hnot] at hcode
    rw [if_pos hmet] at hcode
    exact (Option.some.inj hcode).symm
  · intro hnever
    have hmet : (r.afterAll s later).signals.meets all ids = false := by
      by_contra hmet
      exact hnever ⟨later, more, rfl, by simpa using hmet, hclock⟩
    rw [hmet, if_neg Bool.false_ne_true, Option.any_some] at hcode
    split at hcode
    · next hdue => exact ⟨(Option.some.inj hcode).symm, Nat.le_antisymm hclock (of_decide_eq_true hdue)⟩
    · cases hcode

end Run

end FieldStudy
