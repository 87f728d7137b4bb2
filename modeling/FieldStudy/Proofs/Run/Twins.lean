import Mathlib.Data.List.Basic
import Mathlib.Data.List.Forall2
import Mathlib.Tactic.Common
import FieldStudy.Proofs.Run.Answers

/-!
# Runs that differ in what is behind them

A run that is started again does not begin to count anew: its tokens, signals, prompts and tasks come behind those that
it has had before (`Past`).  `Run.Twin` relates such a run to one that has nothing behind it and agrees with it apart
from these numbers.  Files, open records, the log, the number of the run and whose turn it is are left out, and so are
times: what a twin does can only depend on them by the failure of a file or by a deadline.  Twins stop what runs on
their devices in any order, so the calls that they have made agree up to the order once they have stopped.

Here are the relation and the operations that all actions are made of.  Each leads from twins to twins.
-/

namespace FieldStudy

/-! ## Numbers behind others -/

/-- What a run has behind it when it is started again. -/
structure Past where
  /-- The tokens that have been given out, but for the one that every run is made with. -/
  tokens : Nat
  signals : List (Option Int)
  /-- How many prompts have been issued. -/
  prompts : Nat
  tasks : List Task

namespace Past

variable (p : Past)

/-- The number that a token has behind those of the past; likewise for signals, prompts and tasks. -/
def token (n : Nat) : Nat := n + p.tokens

lemma token_succ (n : Nat) : p.token (n + 1) = p.token n + 1 := Nat.add_right_comm _ _ _

def signal (id : Nat) : Nat := id + p.signals.length

def prompt (id : Nat) : Nat := id + p.prompts

def task (i : Nat) : Nat := i + p.tasks.length

@[simp] lemma token_inj {n n' : Nat} : p.token n = p.token n' ↔ n = n' := Nat.add_right_cancel_iff

@[simp] lemma prompt_inj {id id' : Nat} : p.prompt id = p.prompt id' ↔ id = id' := Nat.add_right_cancel_iff

end Past

/-- The notice with another number for its prompt. -/
def Notice.renumber (f : Nat → Nat) : Notice → Notice
  | .waitNext id => .waitNext (f id)
  | .countdown id seconds => .countdown (f id) seconds
  | .choice id c => .choice (f id) c
  | .screenSleep id enable => .screenSleep (f id) enable
  | n => n

/-- The waits are for the same, and both have a deadline or none. -/
inductive Await.Matches (p : Past) : Await → Await → Prop
  | time (deadline deadline' : Nat) : Matches p (.time deadline) (.time deadline')
  | prompt {id : Nat} (h : 0 < id) : Matches p (.prompt (p.prompt id)) (.prompt id)
  | signals (all : Bool) (ids : List Nat) {deadline deadline' : Option Nat} (h : deadline.isSome = deadline'.isSome) :
      Matches p (.signals all (ids.map p.signal) deadline) (.signals all ids deadline')

inductive Outcome.Matches (p : Past) : Outcome → Outcome → Prop
  | done (code : Int) : Matches p (.done code) (.done code)
  | fails (e : ScenarioError) : Matches p (.fails e) (.fails e)
  | waits {a a' : Await} (h : a.Matches p a') (resumption : Resumption) :
      Matches p (.waits a resumption) (.waits a' resumption)

inductive TaskStatus.Matches (p : Past) : TaskStatus → TaskStatus → Prop
  | entering (point : Point) : Matches p (.entering point) (.entering point)
  | waiting (point : Point) {a a' : Await} (h : a.Matches p a') (resumption : Resumption) :
      Matches p (.waiting point a resumption) (.waiting point a' resumption)
  | ended : Matches p .ended .ended

lemma TaskStatus.Matches.cases {p : Past} {status status' : TaskStatus} (h : status.Matches p status') :
    (∃ pt, status = .entering pt ∧ status' = .entering pt) ∨
      (∃ pt a a' resumption, a.Matches p a' ∧ status = .waiting pt a resumption ∧
        status' = .waiting pt a' resumption) ∨
      (status = .ended ∧ status' = .ended) := by
  cases h with
  | entering pt => exact .inl ⟨pt, rfl, rfl⟩
  | waiting pt h resumption => exact .inr (.inl ⟨pt, _, _, resumption, h, rfl, rfl⟩)
  | ended => exact .inr (.inr ⟨rfl, rfl⟩)

/-- The tasks walk the same branch and stand at the same point of it. -/
structure Task.Matches (p : Past) (t u : Task) : Prop where
  branch : t.branch = u.branch
  done : t.done = p.signal u.done
  token : t.token = p.token u.token
  /-- The token belongs to a run that has been started. -/
  begun : 0 < u.token
  status : t.status.Matches p u.status

lemma Task.Matches.withStatus {p : Past} {t u : Task} (h : t.Matches p u) {status status' : TaskStatus}
    (hstatus : status.Matches p status') : Task.Matches p { t with status } { u with status := status' } :=
  { h with status := hstatus }

/-! ## Lists one beside the other -/

section Lists

variable {α β : Type} {R : α → β → Prop} {as : List α} {bs : List β}

lemma forall₂_modify {f : α → α} {g : β → β} (hfg : ∀ a b, R a b → R (f a) (g b)) (h : List.Forall₂ R as bs)
    (i : Nat) : List.Forall₂ R (as.modify i f) (bs.modify i g) := by
  induction h generalizing i with
  | nil => simp
  | cons hab htail ih =>
    cases i with
    | zero => exact .cons (hfg _ _ hab) htail
    | succ i => exact .cons hab (ih i)

lemma forall₂_getElem? (h : List.Forall₂ R as bs) (i : Nat) :
    (as[i]? = none ∧ bs[i]? = none) ∨ ∃ a b, as[i]? = some a ∧ bs[i]? = some b ∧ R a b := by
  induction h generalizing i with
  | nil => exact .inl ⟨rfl, rfl⟩
  | cons hab _ ih =>
    cases i with
    | zero => exact .inr ⟨_, _, rfl, rfl, hab⟩
    | succ i => exact ih i

end Lists

/-! ## Signals and prompts -/

namespace Signals

variable {p : Past} {a b : Signals}

lemma value?_behind (h : a.values = p.signals ++ b.values) (id : Nat) : a.value? (p.signal id) = b.value? id := by
  rw [value?, value?, h, Past.signal, List.getElem?_append_right (Nat.le_add_left _ _), Nat.add_sub_cancel]

lemma next_behind (h : a.values = p.signals ++ b.values) : a.next = p.signal b.next := by
  rw [next, next, h, List.length_append, Past.signal, Nat.add_comm]

lemma create_behind (h : a.values = p.signals ++ b.values) : a.create.values = p.signals ++ b.create.values := by
  rw [create, create, h, List.append_assoc]

lemma resolve_behind (h : a.values = p.signals ++ b.values) (id : Nat) (value : Int) :
    (a.resolve (p.signal id) value).values = p.signals ++ (b.resolve id value).values := by
  rw [resolve, resolve, isResolved, isResolved, value?_behind h]
  split
  · exact h
  · rw [h, Past.signal, List.set_append_right _ _ (Nat.le_add_left _ _), Nat.add_sub_cancel]

lemma firstResolved?_behind (h : a.values = p.signals ++ b.values) (ids : List Nat) :
    a.firstResolved? (ids.map p.signal) = b.firstResolved? ids := by
  rw [firstResolved?, firstResolved?, List.findSome?_map]
  exact congrArg (ids.findSome? ·) (funext (value?_behind h))

lemma allResolved_behind (h : a.values = p.signals ++ b.values) (ids : List Nat) :
    a.allResolved (ids.map p.signal) = b.allResolved ids := by
  rw [allResolved, allResolved, List.all_map]
  exact congrArg (ids.all ·) (funext fun id => congrArg Option.isSome (value?_behind h id))

end Signals

namespace Prompts

/-- The prompts are those of `b` behind prompts of which none is pending. -/
structure Follow (p : Past) (a b : Prompts) : Prop where
  issued : a.issued = p.prompt b.issued
  pending : a.pending = b.pending.map p.prompt
  deserted : a.deserted = b.deserted.map p.prompt
  answers : ∀ id, 0 < id → a.answer? (p.prompt id) = b.answer? id

namespace Follow

variable {p : Past} {a b : Prompts}

lemma contains_map (ids : List Nat) (id : Nat) : (ids.map p.prompt).contains (p.prompt id) = ids.contains id := by
  simp

lemma isPending (h : a.Follow p b) (id : Nat) : a.isPending (p.prompt id) = b.isPending id := by
  rw [Prompts.isPending, Prompts.isPending, h.pending, contains_map]

lemma accepts (h : a.Follow p b) (id : Nat) : a.accepts (p.prompt id) = b.accepts id := by
  rw [Prompts.accepts, Prompts.accepts, h.isPending, h.deserted, contains_map]

lemma issue (h : a.Follow p b) : a.issue.Follow p b.issue where
  issued := by rw [Prompts.issue, Prompts.issue, h.issued, Past.prompt, Past.prompt, Nat.add_right_comm]
  pending := by
    simp only [Prompts.issue, h.pending, h.issued, List.map_append, List.map_singleton, Past.prompt, Nat.add_right_comm]
  deserted := h.deserted
  answers := h.answers

lemma clear (h : a.Follow p b) : a.clear.Follow p b.clear := { h with pending := rfl }

lemma filter_map (ids : List Nat) (id : Nat) :
    (ids.map p.prompt).filter (· != p.prompt id) = (ids.filter (· != id)).map p.prompt := by
  rw [List.filter_map]
  refine congrArg (List.map p.prompt) (List.filter_congr fun other _ => ?_)
  simp [bne]

lemma discard (h : a.Follow p b) (id : Nat) : (a.discard (p.prompt id)).Follow p (b.discard id) where
  issued := h.issued
  pending := by rw [Prompts.discard, Prompts.discard, h.pending, filter_map]
  deserted := h.deserted
  answers other hother := by
    by_cases heq : other = id
    · subst heq
      have hnone (q : Prompts) (n : Nat) : (q.discard n).answer? n = none := by
        simp [Prompts.discard, answer?, List.find?_filter]
      rw [hnone, hnone]
    · rw [answer?_discard (by simpa using heq), answer?_discard heq, h.answers other hother]

lemma answer?_append {q q' : Prompts} {n : Nat} {x : Answer} (h : q'.answers = q.answers ++ [(n, x)]) (id : Nat) :
    q'.answer? id = (q.answer? id).or (if n = id then some x else none) := by
  rw [answer?, answer?, h, List.find?_append, Option.map_or]
  by_cases heq : n = id <;> simp [heq]

lemma answer (h : a.Follow p b) (id : Nat) (x : Answer) : (a.answer (p.prompt id) x).Follow p (b.answer id x) := by
  rw [Prompts.answer, Prompts.answer, h.isPending]
  split
  · refine ⟨h.issued, ?_, h.deserted, fun other hother => ?_⟩
    · rw [h.pending, filter_map]
    · rw [h.deserted, contains_map]
      split
      · exact h.answers other hother
      · refine (answer?_append (q := a) rfl _).trans (Eq.trans ?_ (answer?_append (q := b) rfl _).symm)
        rw [h.answers other hother]
        simp
  · exact h

end Follow

end Prompts

/-! ## Setups -/

/-- What one backend replies after these calls is what another one replies after those. -/
structure Backend.Alike (b : Backend) (calls : List BackendCall) (b' : Backend) (calls' : List BackendCall) :
    Prop where
  reply : ∀ more call, b.reply (calls ++ more) call = b'.reply (calls' ++ more) call
  canRecord : ∀ more, b.canRecord (calls ++ more) = b'.canRecord (calls' ++ more)
  deviceInfo : ∀ more d, b.deviceInfo (calls ++ more) d = b'.deviceInfo (calls' ++ more) d

/-- The same calls more make no difference. -/
lemma Backend.Alike.append {b b' : Backend} {calls calls' : List BackendCall} (h : b.Alike calls b' calls')
    (asked : List BackendCall) : b.Alike (calls ++ asked) b' (calls' ++ asked) where
  reply more call := by rw [List.append_assoc, List.append_assoc, h.reply]
  canRecord more := by rw [List.append_assoc, List.append_assoc, h.canRecord]
  deviceInfo more d := by rw [List.append_assoc, List.append_assoc, h.deviceInfo]

/-- The setups agree but for their folders, their backends and the orders in which they drain sets. -/
structure Setup.Agrees (s s' : Setup) : Prop where
  same : s' = { s with folder := s'.folder, backend := s'.backend, drains := s'.drains }

namespace Setup.Agrees

variable {s s' : Setup} (h : s.Agrees s')
include h

lemma definition : s'.definition = s.definition := (congrArg Setup.definition h.same :)

lemma config : s'.config = s.config := (congrArg Setup.config h.same :)

lemma available : s'.available = s.available := (congrArg Setup.available h.same :)

lemma roles : s'.roles = s.roles := (congrArg Setup.roles h.same :)

lemma metadata : s'.metadata = s.metadata := (congrArg Setup.metadata h.same :)

lemma entry : s'.entry = s.entry := (congrArg Setup.entry h.same :)

lemma format : s'.format = s.format := (congrArg Setup.format h.same :)

end Setup.Agrees

/-! ## Twins -/

namespace Run

/-- The run counts on from its past where the other counts from the beginning. -/
structure Ahead (p : Past) (r q : Run) : Prop where
  tokens : r.tokens = p.token q.tokens
  begun : 0 < q.tokens
  cancelled : ∀ n, 0 < n → r.isCancelled (p.token n) = q.isCancelled n
  signals : r.signals.values = p.signals ++ q.signals.values
  prompts : r.prompts.Follow p q.prompts
  tasks : ∃ ts, r.tasks = p.tasks ++ ts ∧ List.Forall₂ (Task.Matches p) ts q.tasks

/-- The run agrees with the other apart from what is behind it, and since `r₀` and `q₀` both have told the host the
same and made the same calls, those of a stop in any order. -/
structure Twin (p : Past) (r₀ q₀ r q : Run) : Prop extends Ahead p r q where
  state : r.state = q.state
  token : r.token = p.token q.token
  current : 0 < q.token
  point : r.point = q.point
  counters : r.counters = q.counters
  events : r.events = q.events.mapValues p.signal
  branches : r.branches = q.branches.mapValues p.signal
  metadata : r.metadata.timeless = q.metadata.timeless
  roles : r.roles = q.roles
  listening : r.listening = q.listening
  recording : r.recording = q.recording
  finished : r.finished = q.finished
  notices : ∃ ns, r.notices = r₀.notices ++ ns.map (Notice.renumber p.prompt) ∧ q.notices = q₀.notices ++ ns
  calls : ∃ cs cs', r.calls = r₀.calls ++ cs ∧ q.calls = q₀.calls ++ cs' ∧ cs.Perm cs' ∧
    (q.state ≠ .stopped → cs = cs')

/-- The fields that twins need not agree on. -/
def freeFields : List RunField := [.writers, .routes, .log, .files, .number, .agenda]

variable {p : Past} {r₀ q₀ r q r' q' : Run} {s s' : Setup}

lemma Modifies.restored (h : Modifies freeFields r r') :
    r' = { r with
      writers := r'.writers, routes := r'.routes, log := r'.log, files := r'.files, number := r'.number
      agenda := r'.agenda } := by
  have hget (f : RunField) (hf : f ∉ freeFields) : f.get r' = f.get r := h f hf
  obtain ⟨_⟩ := r
  obtain ⟨_⟩ := r'
  rw [Run.mk.injEq]
  refine ⟨hget .state (by decide), hget .token (by decide), hget .tokens (by decide), hget .cancelled (by decide),
    hget .point (by decide), hget .counters (by decide), hget .signals (by decide), hget .events (by decide),
    hget .branches (by decide), hget .metadata (by decide), hget .roles (by decide), hget .prompts (by decide), rfl, rfl,
    rfl, hget .listening (by decide), hget .recording (by decide), rfl, hget .notices (by decide),
    hget .calls (by decide), hget .finished (by decide), hget .tasks (by decide), rfl, rfl⟩

namespace Twin

/-- Runs are twins from the point of view of either's own present. -/
lemma rebase (h : Twin p r₀ q₀ r q) : Twin p r q r q :=
  { h with notices := ⟨[], by simp⟩, calls := ⟨[], [], by simp⟩ }

/-- What happens to files, open records, the log and the agenda makes no difference. -/
lemma of_modifies (h : Twin p r₀ q₀ r q) (hr : Modifies freeFields r r') (hq : Modifies freeFields q q') :
    Twin p r₀ q₀ r' q' := by
  rw [hr.restored, hq.restored]
  exact { h with }

/-! ### Notices and calls -/

lemma emit (h : Twin p r₀ q₀ r q) (n : Notice) :
    Twin p r₀ q₀ (r.emit (n.renumber p.prompt)) (q.emit n) := by
  obtain ⟨ns, hr, hq⟩ := h.notices
  refine { h with notices := ⟨ns ++ [n], ?_, ?_⟩ }
  · simp [Run.emit, hr]
  · simp [Run.emit, hq]

/-- A notice without a prompt. -/
lemma tell (h : Twin p r₀ q₀ r q) {n : Notice} (hn : n.renumber p.prompt = n) : Twin p r₀ q₀ (r.emit n) (q.emit n) := by
  simpa only [hn] using h.emit n

section Backends

variable (hb : s.backend.Alike r₀.calls s'.backend q₀.calls) (h : Twin p r₀ q₀ r q) (hgoes : q.state ≠ .stopped)
include hb h hgoes

/-- As long as twins go on, what they ask is replied to in the same way. -/
lemma alike : s.backend.Alike r.calls s'.backend q.calls := by
  obtain ⟨cs, cs', hr, hq, -, hsame⟩ := h.calls
  rw [hr, hq, ← hsame hgoes]
  exact hb.append cs

lemma reply (call : BackendCall) : s.backend.reply r.calls call = s'.backend.reply q.calls call := by
  simpa using (h.alike hb hgoes).reply [] call

lemma canRecord : s.backend.canRecord r.calls = s'.backend.canRecord q.calls := by
  simpa using (h.alike hb hgoes).canRecord []

lemma deviceInfo (d : Device) : s.backend.deviceInfo r.calls d = s'.backend.deviceInfo q.calls d := by
  simpa using (h.alike hb hgoes).deviceInfo [] d

lemma ask (call : BackendCall) :
    (r.ask s call).1 = (q.ask s' call).1 ∧ Twin p r₀ q₀ (r.ask s call).2 (q.ask s' call).2 := by
  obtain ⟨cs, cs', hr, hq, hperm, hsame⟩ := h.calls
  refine ⟨h.reply hb hgoes call, { h with calls := ⟨cs ++ [call], cs' ++ [call], ?_, ?_, ?_, ?_⟩ }⟩
  · simp [Run.ask, hr]
  · simp [Run.ask, hq]
  · exact hperm.append_right [call]
  · exact fun _ => congrArg (· ++ [call]) (hsame hgoes)

end Backends

/-! ### Signals -/

lemma wake (h : Twin p r₀ q₀ r q) (concerns concerns' : Task → Await → Bool) :
    Twin p r₀ q₀ (r.wake concerns) (q.wake concerns') :=
  h.of_modifies ((r.modifies_wake concerns).mono (by decide)) ((q.modifies_wake concerns').mono (by decide))

lemma resolve (h : Twin p r₀ q₀ r q) (signal : Nat) (value : Int) :
    Twin p r₀ q₀ (r.resolve (p.signal signal) value) (q.resolve signal value) := by
  have hset : Twin p r₀ q₀ { r with signals := r.signals.resolve (p.signal signal) value }
      { q with signals := q.signals.resolve signal value } :=
    { h with signals := Signals.resolve_behind h.signals signal value }
  exact hset.wake _ _

lemma isResolved (h : Twin p r₀ q₀ r q) (signal : Nat) :
    r.signals.isResolved (p.signal signal) = q.signals.isResolved signal :=
  congrArg Option.isSome (Signals.value?_behind h.signals signal)

lemma createSignal (h : Twin p r₀ q₀ r q) :
    r.createSignal.1 = p.signal q.createSignal.1 ∧ Twin p r₀ q₀ r.createSignal.2 q.createSignal.2 :=
  ⟨Signals.next_behind h.signals, { h with signals := Signals.create_behind h.signals }⟩

lemma registerBranch (h : Twin p r₀ q₀ r q) (name : String) :
    (r.registerBranch name).1 = p.signal (q.registerBranch name).1 ∧
      Twin p r₀ q₀ (r.registerBranch name).2 (q.registerBranch name).2 := by
  obtain ⟨hsignal, hrun⟩ := h.createSignal
  refine ⟨hsignal, { hrun with branches := ?_ }⟩
  show r.branches.insert name r.createSignal.1 = (q.branches.insert name q.createSignal.1).mapValues p.signal
  rw [Dict.mapValues_insert, ← h.branches, hsignal]

/-! ### Epochs -/

lemma cancel (h : Twin p r₀ q₀ r q) : Twin p r₀ q₀ r.cancel q.cancel := by
  have hset : Twin p r₀ q₀ { r with cancelled := r.token :: r.cancelled }
      { q with cancelled := q.token :: q.cancelled } := by
    refine { h with cancelled := fun n hn => ?_ }
    have hbefore : r.cancelled.contains (p.token n) = q.cancelled.contains n := h.cancelled n hn
    have hsame : (p.token n == p.token q.token) = (n == q.token) := by rw [Bool.eq_iff_iff]; simp
    simp only [isCancelled, h.token, List.contains_cons, hbefore, hsame]
  exact hset.wake _ _

lemma renew (h : Twin p r₀ q₀ r q) : Twin p r₀ q₀ r.renew q.renew :=
  { h with
    token := h.tokens
    current := h.begun
    begun := Nat.succ_pos _
    tokens := (congrArg (· + 1) h.tokens).trans (p.token_succ _).symm }

lemma withState (h : Twin p r₀ q₀ r q) {state : RunState} (hgoes : state ≠ .stopped → q.state ≠ .stopped) :
    Twin p r₀ q₀ { r with state } { q with state } := by
  obtain ⟨cs, cs', hr, hq, hperm, hsame⟩ := h.calls
  exact { h with state := rfl, calls := ⟨cs, cs', hr, hq, hperm, fun hstate => hsame (hgoes hstate)⟩ }

/-! ### Prompts -/

lemma clearPrompts (h : Twin p r₀ q₀ r q) : Twin p r₀ q₀ r.clearPrompts q.clearPrompts := by
  have hset : Twin p r₀ q₀ { r with prompts := r.prompts.clear } { q with prompts := q.prompts.clear } :=
    { h with prompts := h.prompts.clear }
  exact hset.wake _ _

lemma answer (h : Twin p r₀ q₀ r q) (id : Nat) (a : Answer) :
    (r.answer (p.prompt id) a).1 = (q.answer id a).1 ∧
      Twin p r₀ q₀ (r.answer (p.prompt id) a).2 (q.answer id a).2 := by
  rw [Run.answer, Run.answer, h.prompts.isPending]
  split
  · have hset : Twin p r₀ q₀ { r with prompts := r.prompts.answer (p.prompt id) a }
        { q with prompts := q.prompts.answer id a } :=
      { h with prompts := h.prompts.answer id a }
    refine ⟨h.prompts.accepts id, ?_⟩
    exact hset.wake (fun _ w => w.waitsForPrompt (p.prompt id)) fun _ w => w.waitsForPrompt id
  · exact ⟨rfl, h⟩

/-! ### Metadata -/

lemma updateMetadata (h : Twin p r₀ q₀ r q) {f g : Metadata → Metadata}
    (hfg : (f r.metadata).timeless = (g q.metadata).timeless) :
    Twin p r₀ q₀ (r.updateMetadata f) (q.updateMetadata g) :=
  { h with metadata := hfg }

lemma saveMetadata (h : Twin p r₀ q₀ r q) : Twin p r₀ q₀ (r.saveMetadata s).2 (q.saveMetadata s').2 :=
  h.of_modifies ((r.modifies_saveMetadata s).mono (by decide)) ((q.modifies_saveMetadata s').mono (by decide))

/-! ### Tasks -/

lemma enqueue (h : Twin p r₀ q₀ r q) (i j : Nat) : Twin p r₀ q₀ (r.enqueue i) (q.enqueue j) :=
  h.of_modifies ((r.modifies_enqueue i).mono (by decide)) ((q.modifies_enqueue j).mono (by decide))

/-- A task and the one at its place in the other run. -/
lemma task_cases (h : Twin p r₀ q₀ r q) (i : Nat) :
    (r.tasks[p.task i]? = none ∧ q.tasks[i]? = none) ∨
      ∃ t u, r.tasks[p.task i]? = some t ∧ q.tasks[i]? = some u ∧ t.Matches p u := by
  obtain ⟨ts, hts, hmatches⟩ := h.tasks
  rw [hts, Past.task, List.getElem?_append_right (Nat.le_add_left _ _), Nat.add_sub_cancel]
  exact forall₂_getElem? hmatches i

lemma setStatus (h : Twin p r₀ q₀ r q) (i : Nat) {status status' : TaskStatus} (hstatus : status.Matches p status') :
    Twin p r₀ q₀ (r.setStatus (p.task i) status) (q.setStatus i status') := by
  obtain ⟨ts, hts, hmatches⟩ := h.tasks
  refine { h with tasks := ⟨ts.modify i fun t => { t with status }, ?_, ?_⟩ }
  · show r.tasks.modify (p.task i) _ = _
    rw [hts, Past.task, Nat.add_comm, List.modify, List.modifyTailIdx_add]
    rfl
  · exact forall₂_modify (fun t u htu => htu.withStatus hstatus) hmatches i

lemma spawn (h : Twin p r₀ q₀ r q) (branch : String) {done done' token token' : Nat} (hdone : done = p.signal done')
    (htoken : token = p.token token') (hbegun : 0 < token') (point : Point) :
    Twin p r₀ q₀ (r.spawn branch done token point) (q.spawn branch done' token' point) := by
  obtain ⟨ts, hts, hmatches⟩ := h.tasks
  have hadd : Twin p r₀ q₀ { r with tasks := r.tasks ++ [⟨branch, done, token, .entering point⟩] }
      { q with tasks := q.tasks ++ [⟨branch, done', token', .entering point⟩] } := by
    refine { h with tasks := ⟨ts ++ [⟨branch, done, token, .entering point⟩], ?_, ?_⟩ }
    · rw [hts, List.append_assoc]
    · exact List.rel_append hmatches (.cons ⟨rfl, hdone, htoken, hbegun, .entering point⟩ .nil)
  exact hadd.enqueue _ _

lemma spawnBranch (h : Twin p r₀ q₀ r q) (branch : String) {token token' : Nat} (htoken : token = p.token token')
    (hbegun : 0 < token') (point : Point) :
    Twin p r₀ q₀ (r.spawnBranch branch token point) (q.spawnBranch branch token' point) := by
  obtain ⟨hsignal, hrun⟩ := h.registerBranch branch
  exact hrun.spawn branch hsignal htoken hbegun point

end Twin

end Run

end FieldStudy
