import Mathlib.Tactic.Common
import FieldStudy.Proofs.Run.Accounts

/-!
# Exchanges with the backend

A call and its reply say what listens from then on: a pair of role and sensor listens when one more call has started
than stopped it (`Listens`), and calls are in order when none starts what listens already or stops what does not
(`Orderly`).  The calls that a run makes on its way come with the replies that the backend gives after all calls before
(`Run.Trades`).
-/

namespace FieldStudy

/-! ## Exchanges with the backend -/

/-- A call of the backend and what it replies. -/
structure Exchange where
  call : BackendCall
  reply : Except ScenarioError Bool

/-- Calls with their replies, where other calls have been made before. -/
def Backend.exchanges (b : Backend) : List BackendCall → List BackendCall → List Exchange
  | _, [] => []
  | before, call :: rest => ⟨call, b.reply before call⟩ :: b.exchanges (before ++ [call]) rest

lemma Backend.exchanges_append (b : Backend) (before calls later : List BackendCall) :
    b.exchanges before (calls ++ later) = b.exchanges before calls ++ b.exchanges (before ++ calls) later := by
  induction calls generalizing before with
  | nil => rw [List.nil_append, exchanges, List.nil_append, List.append_nil]
  | cons call rest ih =>
    rw [List.cons_append, exchanges, exchanges, ih, List.append_assoc, List.singleton_append, List.cons_append]

lemma Backend.exchanges_calls (b : Backend) (before calls : List BackendCall) :
    (b.exchanges before calls).map Exchange.call = calls := by
  induction calls generalizing before with
  | nil => rfl
  | cons call rest ih => rw [exchanges, List.map_cons, ih]

/-- Role and sensor of a call that is to start listening. -/
def BackendCall.starts? : BackendCall → Option (String × String)
  | .startListening b sensor _ _ => some (b.role, sensor)
  | _ => none

/-- Role and sensor of a call that is to stop listening. -/
def BackendCall.stops? : BackendCall → Option (String × String)
  | .stopListening b sensor => some (b.role, sensor)
  | _ => none

namespace Exchange

/-- Whether the call took effect. -/
def isDone (e : Exchange) : Bool :=
  match e.reply with
  | .ok done => done
  | .error _ => false

def hasStarted (pair : String × String) (e : Exchange) : Bool := e.call.starts? == some pair && e.isDone

def hasStopped (pair : String × String) (e : Exchange) : Bool := e.call.stops? == some pair && e.isDone

end Exchange

/-- One more call has started the pair than stopped it. -/
def Listens (es : List Exchange) (pair : String × String) : Prop :=
  es.countP (Exchange.hasStarted pair) = es.countP (Exchange.hasStopped pair) + 1

/-- After this history, each call that starts a pair finds it silent, and each that stops one finds it listening. -/
def Orderly (history es : List Exchange) : Prop :=
  ∀ earlier e later, es = earlier ++ e :: later →
    (∀ pair, e.call.starts? = some pair → ¬ Listens (history ++ earlier) pair) ∧
      ∀ pair, e.call.stops? = some pair → Listens (history ++ earlier) pair

/-- Each pair that listens after this history is stopped, once, and no other pair is stopped or started. -/
structure StopsAll (history es : List Exchange) : Prop where
  starts : es.filterMap (·.call.starts?) = []
  once : (es.filterMap (·.call.stops?)).Nodup
  mem_iff : ∀ pair, pair ∈ es.filterMap (·.call.stops?) ↔ Listens history pair

@[simp] lemma orderly_nil (history : List Exchange) : Orderly history [] := by
  intro earlier e later h
  simp at h

lemma orderly_cons {history : List Exchange} {e : Exchange} {rest : List Exchange} :
    Orderly history (e :: rest) ↔
      ((∀ pair, e.call.starts? = some pair → ¬ Listens history pair) ∧
        ∀ pair, e.call.stops? = some pair → Listens history pair) ∧ Orderly (history ++ [e]) rest := by
  constructor
  · intro h
    refine ⟨by simpa using h [] e rest rfl, fun earlier e' later hrest => ?_⟩
    have hlater := h (e :: earlier) e' later (by rw [hrest, List.cons_append])
    rwa [List.append_cons] at hlater
  · rintro ⟨hfirst, hrest⟩ earlier e' later heq
    cases earlier with
    | nil =>
      obtain ⟨rfl, -⟩ := List.cons.inj heq
      rwa [List.append_nil]
    | cons e'' earlier =>
      obtain ⟨rfl, hlater⟩ := List.cons.inj heq
      rw [List.append_cons]
      exact hrest earlier e' later hlater

namespace Run

variable {r r' q : Run} {s : Setup} {es fs : List Exchange}

/-- What the backend has been asked on the way from one run to another, and its replies. -/
def exchanged (s : Setup) (r r' : Run) : List Exchange :=
  s.backend.exchanges r.calls (r'.calls.drop r.calls.length)

/-- The exchanges with the backend in a move.  What other runs ask is not counted. -/
def trades (s : Setup) (r : Run) : Move → List Exchange
  | .others _ => []
  | m => r.exchanged s (r.after s m)

/-- The exchanges of a sensor action, if a move takes one. -/
def actionTrades (s : Setup) (r : Run) (m : Move) : List Exchange :=
  match r.taken? s m with
  | some (.startSensor a) => r.exchanged s (r.startSensors s a).2
  | some (.stopSensor a) => r.exchanged s (r.stopSensors s a).2
  | _ => []

/-- These calls are made on the way from one run to another. -/
structure Trades (s : Setup) (r : Run) (es : List Exchange) (r' : Run) : Prop where
  calls : r'.calls = r.calls ++ es.map Exchange.call
  replies : s.backend.exchanges r.calls (es.map Exchange.call) = es

namespace Trades

lemma of_eq (h : r'.calls = r.calls) : Trades s r [] r' := ⟨by rw [h, List.map_nil, List.append_nil], rfl⟩

lemma trans (h : Trades s r es q) (h' : Trades s q fs r') : Trades s r (es ++ fs) r' where
  calls := by rw [h'.calls, h.calls, List.map_append, List.append_assoc]
  replies := by rw [List.map_append, Backend.exchanges_append, h.replies, ← h.calls, h'.replies]

lemma exchanged (h : Trades s r es r') : r.exchanged s r' = es := by
  rw [Run.exchanged, h.calls, List.drop_left, h.replies]

lemma replied (r : Run) (s : Setup) {call : BackendCall} {reply : Except ScenarioError Bool}
    (hreply : s.backend.reply r.calls call = reply) (hcalls : r'.calls = r.calls ++ [call]) :
    Trades s r [⟨call, reply⟩] r' := by
  subst hreply
  exact ⟨hcalls, rfl⟩

end Trades

/-! ## The calls of an action -/

lemma actionTrades_of_taken? {m : Move} (h : r.taken? s m = none) : r.actionTrades s m = [] := by
  rw [actionTrades, h]

/-- No action is taken once the run has stopped. -/
lemma actionTrades_of_stopped (h : r.state = .stopped) {m : Move} : r.actionTrades s m = [] := by
  refine actionTrades_of_taken? (Option.eq_none_iff_forall_ne_some.mpr fun a ha => ?_)
  obtain ⟨i, rfl⟩ := step_of_taken? ha
  obtain ⟨t, p, -, -, haction⟩ := taken?_step_iff.mp ha
  simp [(of_isLive (live_of_action? haction)).1] at h

lemma exchanges_actionTrades (s : Setup) (r : Run) (m : Move) :
    s.backend.exchanges r.calls ((r.actionTrades s m).map Exchange.call) = r.actionTrades s m := by
  have hexchanged (q : Run) : s.backend.exchanges r.calls ((r.exchanged s q).map Exchange.call) = r.exchanged s q := by
    rw [exchanged, Backend.exchanges_calls]
  rw [actionTrades]
  split
  · exact hexchanged _
  · exact hexchanged _
  · rfl

/-- A move other than those of other runs. -/
lemma trades_own {m : Move} (hothers : ∀ shared, m ≠ .others shared) :
    r.trades s m = r.exchanged s (r.after s m) := by
  cases m with
  | others shared => exact absurd rfl (hothers shared)
  | _ => rfl

/-- The calls of a move are those of its action and what follows. -/
lemma trades_eq {m : Move} (hothers : ∀ shared, m ≠ .others shared) {calls : List BackendCall}
    (h : (r.after s m).calls = r.calls ++ ((r.actionTrades s m).map Exchange.call ++ calls)) :
    ∃ stops, r.trades s m = r.actionTrades s m ++ stops ∧ stops.map Exchange.call = calls := by
  refine ⟨_, ?_, s.backend.exchanges_calls (r.calls ++ (r.actionTrades s m).map Exchange.call) calls⟩
  rw [trades_own hothers, exchanged, h, List.drop_left, Backend.exchanges_append, exchanges_actionTrades]

end Run

end FieldStudy
