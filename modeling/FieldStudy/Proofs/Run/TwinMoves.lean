import FieldStudy.Proofs.Run.TwinActions

/-!
# Moves of twins

Runs move in step if they make the same moves but for the numbers of tasks and prompts, and no file fails
(`Run.InStep`).  Twins that move in step stay twins (`Run.Twin.after`).  Runs that both start need not have been twins
before: a start makes everything anew but the numbers (`Run.Ahead.start`).
-/

namespace FieldStudy

/-- The turn has failed by a file. -/
def Turn.isOfFile : Turn → Bool
  | .acted _ o => o.isOfFile
  | _ => false

/-- The steps come to the same. -/
inductive Turn.Matches (p : Past) : Turn → Turn → Prop
  | dropped : Matches p .dropped .dropped
  | lost : Matches p .lost .lost
  | ownJoin : Matches p .ownJoin .ownJoin
  | acted (node : Node) {o o' : Outcome} (h : o.Matches p o') : Matches p (.acted node o) (.acted node o')

lemma Turn.Matches.code? {p : Past} {turn turn' : Turn} (h : turn.Matches p turn') : turn.code? = turn'.code? := by
  cases h with
  | acted node ho => cases ho <;> rfl
  | _ => rfl

namespace Run

variable {p : Past} {r₀ q₀ r q : Run} {s s' : Setup} {t u : Task}

/-- The task waits, and not longer than until a deadline. -/
def isTimed (r : Run) (i : Nat) : Bool := (r.tasks[i]?.bind Task.await?).any (·.deadline?.isSome)

/-- The next step of the task fails by a file. -/
def failsByFile (s : Setup) (r : Run) (i : Nat) : Bool := (r.turn? s i).any (·.2.isOfFile)

/-- One move of two runs of which the first has a past: the same but for the numbers of prompts and tasks, and no file
fails.  Time may pass in another way, as long as a wait with a deadline is over on both sides or on neither when the
task is to go on.  Runs that have stopped may have done so in another order of calls, so it is when they start that
their backends are to reply alike. -/
inductive InStep (p : Past) (s s' : Setup) (r q : Run) : Move → Move → Prop
  | start (hbackend : q.state = .stopped → s.backend.Alike r.calls s'.backend q.calls)
      (hr : (r.start s).1.isOk = true) (hq : (q.start s').1.isOk = true) : InStep p s s' r q .start .start
  | pause : InStep p s s' r q .pause .pause
  | resume : InStep p s s' r q .resume .resume
  | stop (error : Option ScenarioError) : InStep p s s' r q (.stop error) (.stop error)
  | answer (id : Nat) (a : Answer) : InStep p s s' r q (.answer (p.prompt id) a) (.answer id a)
  | sample (role sensor : String) (timestamp : UInt64) (values : List Single) :
      InStep p s s' r q (.sample role sensor timestamp values) (.sample role sensor timestamp values)
  | step (i : Nat) (hover : q.isTimed i = true → (r.step? s (p.task i)).isSome = (q.step? s' i).isSome)
      (hr : r.failsByFile s (p.task i) = false) (hq : q.failsByFile s' i = false) :
      InStep p s s' r q (.step (p.task i)) (.step i)
  /-- The backends reply alike also after what other runs have asked meanwhile. -/
  | others (shared shared' : Ensemble)
      (hbackend : q.state ≠ .stopped → s.backend.Alike shared.calls s'.backend shared'.calls) :
      InStep p s s' r q (.others shared) (.others shared')

/-! ## What twins need not agree on -/

lemma modifies_reopened (r : Run) :
    Modifies freeFields { r with prompts := r.prompts.clear } r.clearPrompts.releaseFiles :=
  ((modifies_wake _ _).mono (by decide)).trans ((modifies_releaseFiles _).mono (by decide))

lemma exists_files_of_createFolder {result : Except IoError Unit} {r₁ : Run} (h : r.createFolder s = (result, r₁)) :
    ∃ files, r₁ = { r with files } := by
  rw [createFolder] at h
  split at h
  · exact ⟨_, (Prod.mk.inj h).2.symm⟩
  · split at h
    · exact ⟨_, (Prod.mk.inj h).2.symm⟩
    · split at h <;> exact ⟨_, (Prod.mk.inj h).2.symm⟩

lemma exists_agenda_of_suspend (r : Run) (i : Nat) (pt : Point) (a : Await) (resumption : Resumption) :
    ∃ agenda, r.suspend i pt a resumption = ({ r with agenda } : Run).setStatus i (.waiting pt a resumption) := by
  rw [suspend]
  split <;> exact ⟨_, rfl⟩

/-! ## Starting -/

/-- A start makes everything anew but the numbers. -/
lemma Ahead.reset (hs : s.Agrees s') (h : Ahead p r q) :
    Twin p r q { r.reset s with finished := none } { q.reset s' with finished := none } := by
  have hmetadata (time time' : Int) : (s.metadata.markStart time).timeless = (s'.metadata.markStart time').timeless :=
    (congrArg Metadata.timeless hs.metadata.symm :)
  rw [Run.reset, Run.reset, r.modifies_reopened.restored, q.modifies_reopened.restored]
  exact {
    tokens := (congrArg (· + 1) h.tokens).trans (p.token_succ _).symm
    begun := Nat.succ_pos _
    cancelled := h.cancelled
    signals := h.signals
    prompts := h.prompts.clear
    tasks := h.tasks
    state := rfl
    token := h.tokens
    current := h.begun
    point := rfl
    counters := rfl
    events := rfl
    branches := rfl
    metadata := hmetadata _ _
    roles := hs.roles.symm
    listening := rfl
    recording := rfl
    finished := rfl
    notices := ⟨[], by simp [renew]⟩
    calls := ⟨[], [], by simp [renew]⟩ }

theorem Ahead.start (hs : s.Agrees s') (h : Ahead p r q) (hr : r.begins s .start = true)
    (hq : q.begins s' .start = true) : Twin p r q (r.start s).2 (q.start s').2 := by
  obtain ⟨-, r₁, hrfolder, hrstart⟩ := begins_cases hr
  obtain ⟨-, q₁, hqfolder, hqstart⟩ := begins_cases hq
  obtain ⟨rfiles, rfl⟩ := exists_files_of_createFolder hrfolder
  obtain ⟨qfiles, rfl⟩ := exists_files_of_createFolder hqfolder
  have htwin : Twin p r q { { r.reset s with files := rfiles } with finished := none }
      { { q.reset s' with files := qfiles } with finished := none } := { h.reset hs with }
  have htold := htwin.tell (n := .state .running) rfl
  rw [hrstart, hqstart, hs.entry]
  exact htold.spawnBranch mainBranch htwin.token htwin.current _

namespace Twin

lemma start (hs : s.Agrees s') (h : Twin p r q r q) (hr : (r.start s).1.isOk = true)
    (hq : (q.start s').1.isOk = true) : Twin p r q (r.start s).2 (q.start s').2 := by
  by_cases hstate : q.state = .stopped
  · exact h.toAhead.start hs (by simp [begins, h.state, hstate, hr]) (by simp [begins, hstate, hq])
  · rw [Run.start, Run.start, if_pos (h.state ▸ hstate), if_pos hstate]
    exact h

/-! ## Pausing and resuming -/

lemma pause (h : Twin p r₀ q₀ r q) : Twin p r₀ q₀ (r.pause s) (q.pause s') := by
  rw [Run.pause, Run.pause, h.state]
  split
  · exact h
  · next hrunning =>
    have hgoes : q.state ≠ .stopped := by simp [not_not.mp hrunning]
    exact (h.withState fun _ => hgoes).cancel.saveMetadata.tell rfl

lemma branchSignal (h : Twin p r₀ q₀ r q) (branch : String) :
    (r.branchSignal branch).1 = p.signal (q.branchSignal branch).1 ∧
      Twin p r₀ q₀ (r.branchSignal branch).2 (q.branchSignal branch).2 := by
  rw [Run.branchSignal, Run.branchSignal, h.branches, Dict.get?_mapValues]
  cases q.branches.get? branch with
  | none => exact h.registerBranch branch
  | some done =>
    rw [Option.map_some]
    dsimp only
    rw [h.isResolved]
    split
    · exact h.registerBranch branch
    · exact ⟨rfl, h⟩

lemma resume (hs : s.Agrees s') (h : Twin p r₀ q₀ r q) : Twin p r₀ q₀ (r.resume s) (q.resume s') := by
  rw [Run.resume, Run.resume, h.state, hs.entry]
  split
  · exact h
  · next hpaused =>
    have hgoes : q.state ≠ .stopped := by simp [not_not.mp hpaused]
    have hrenewed : Twin p r₀ q₀ (({ r with state := .running } : Run).renew.emit (.state .running))
        (({ q with state := .running } : Run).renew.emit (.state .running)) :=
      (h.withState fun _ => hgoes).renew.tell rfl
    obtain ⟨hsignal, hrun⟩ := hrenewed.branchSignal mainBranch
    dsimp only
    rw [hrun.point]
    exact hrun.spawn mainBranch hsignal hrun.token hrun.current _

/-! ## Ends of branches -/

section Tasks

variable (h : Twin p r₀ q₀ r q) (htu : t.Matches p u)
include h htu

lemma finishBranch : Twin p r₀ q₀ (r.finishBranch s t) (q.finishBranch s' u) := by
  have hresolved := h.resolve u.done 0
  rw [Run.finishBranch, Run.finishBranch, htu.done, htu.branch]
  split
  · exact hresolved.stop none
  · exact hresolved

lemma failBranch (e : ScenarioError) : Twin p r₀ q₀ (r.failBranch s t e) (q.failBranch s' u e) := by
  have hresolved := h.resolve u.done 0
  rw [← htu.done] at hresolved
  cases e with
  | cancelled => exact h
  | _ => exact hresolved.stop _

omit htu in
lemma suspend (i : Nat) (pt : Point) {a a' : Await} (ha : a.Matches p a') (resumption : Resumption) :
    Twin p r₀ q₀ (r.suspend (p.task i) pt a resumption) (q.suspend i pt a' resumption) := by
  obtain ⟨ragenda, hr⟩ := r.exists_agenda_of_suspend (p.task i) pt a resumption
  obtain ⟨qagenda, hq⟩ := q.exists_agenda_of_suspend i pt a' resumption
  have htimers : Twin p r₀ q₀ { r with agenda := ragenda } { q with agenda := qagenda } := { h with }
  rw [hr, hq]
  exact htimers.setStatus i (.waiting pt ha resumption)

lemma follow (i : Nat) (pt : Point) (node : Node) {o o' : Outcome} (ho : o.Matches p o') :
    Twin p r₀ q₀ (r.follow s (p.task i) t pt node o) (q.follow s' i u pt node o') := by
  cases ho with
  | done code =>
    rw [Run.follow, Run.follow]
    split
    · exact h.setStatus i (.entering _)
    · exact (h.finishBranch htu).setStatus i .ended
  | fails e => exact (h.failBranch htu e).setStatus i .ended
  | waits ha resumption => exact h.suspend i pt ha resumption

/-! ## Steps of tasks -/

lemma isLive : r.isLive t.token = q.isLive u.token := by
  rw [Run.isLive, Run.isLive, htu.token, h.cancelled _ htu.begun, h.state]

lemma close (i : Nat) (pt : Point) {turn turn' : Turn} (hturn : turn.Matches p turn') :
    Twin p r₀ q₀ (r.close s (p.task i) t pt turn) (q.close s' i u pt turn') := by
  cases hturn with
  | dropped => exact h.setStatus i .ended
  | lost => exact (h.finishBranch htu).setStatus i .ended
  | ownJoin =>
    have hresolved := h.resolve u.done 0
    rw [← htu.done] at hresolved
    exact hresolved.setStatus i .ended
  | acted node ho => exact h.follow htu i pt node ho

section Setups

variable (hs : s.Agrees s')
include hs

lemma action? (pt : Point) : r.action? s t pt = q.action? s' u pt := by
  rw [Run.action?, Run.action?, h.isLive htu, hs.definition, htu.branch]

lemma entry_of_action?_eq_none {pt : Point} (hnone : q.action? s' u pt = none) :
    (r.entry s t pt).Matches p (q.entry s' u pt) := by
  rw [Run.entry, Run.entry, h.isLive htu, hs.definition, htu.branch]
  rw [Run.action?, hs.definition] at hnone
  cases hlive : q.isLive u.token with
  | false => exact .dropped
  | true =>
    rw [hlive, if_pos rfl] at hnone
    cases hnode : s.definition.node? pt.node with
    | none => exact .lost
    | some node =>
      rw [hnode, Option.bind_some] at hnone
      cases hok : Action.ofNode node with
      | error e => simpa [hok] using .acted node (.fails e)
      | ok a =>
        have hends : a.endsBranch u.branch = true := by simpa [hok] using hnone
        simpa [hok, hends] using .ownJoin

section Backends

variable (hb : q.state ≠ .stopped → s.backend.Alike r₀.calls s'.backend q₀.calls)
include hb

/-- A task that enters a point comes to the same there, unless a file fails. -/
lemma enter (i : Nat) (pt : Point) (hr : (r.entry s t pt).isOfFile = false) (hq : (q.entry s' u pt).isOfFile = false) :
    (r.entry s t pt).Matches p (q.entry s' u pt) ∧
      Twin p r₀ q₀ (r.enter s (p.task i) t pt) (q.enter s' i u pt) := by
  have hpoint : Twin p r₀ q₀ { r with point := some pt } { q with point := some pt } := { h with point := rfl }
  have haction := h.action? htu hs pt
  cases hqaction : q.action? s' u pt with
  | none =>
    have hturn := h.entry_of_action?_eq_none htu hs hqaction
    rw [enter_of_action?_eq_none _ (haction.trans hqaction), enter_of_action?_eq_none _ hqaction]
    exact ⟨hturn, hpoint.close htu i pt hturn⟩
  | some a =>
    have hraction := haction.trans hqaction
    obtain ⟨-, node, hrnode, -⟩ := action?_eq_some_iff.mp hraction
    have hqnode : s'.definition.node? pt.node = some node := hs.definition ▸ hrnode
    have hgoes : q.state ≠ .stopped := by simp [state_of_isLive (live_of_action? hqaction)]
    rw [entry_of_action? hrnode hraction] at hr ⊢
    rw [entry_of_action? hqnode hqaction] at hq ⊢
    rw [enter_of_action? _ hrnode hraction, enter_of_action? _ hqnode hqaction]
    obtain ⟨houtcome, hrun⟩ := execute (q := { q with point := some pt }) hs hb hpoint hgoes
      ⟨t.branch, _, _, t.token⟩ ⟨u.branch, _, _, u.token⟩ htu.branch rfl rfl htu.token htu.begun a hr hq
    exact ⟨.acted node houtcome, hrun.close htu i pt (.acted node houtcome)⟩

/-- So does a task that goes on after a wait. -/
lemma leaveWait (i : Nat) {pt : Point} {node : Node} (hnode : s'.definition.node? pt.node = some node) {a a' : Await}
    (ha : a.Matches p a') (resumption : Resumption) {result : Except ScenarioError Int}
    (hgoes : ∀ value, result = .ok value → q.state ≠ .stopped)
    (hr : (r.sequel s (p.task i) pt a resumption result).isOfFile = false)
    (hq : (q.sequel s' i pt a' resumption result).isOfFile = false) :
    (r.sequel s (p.task i) pt a resumption result).Matches p (q.sequel s' i pt a' resumption result) ∧
      Twin p r₀ q₀ (r.leaveWait s (p.task i) t pt a resumption result)
        (q.leaveWait s' i u pt a' resumption result) := by
  rw [leaveWait_eq_close, leaveWait_eq_close]
  rw [sequel, ← hs.definition, hnode] at hr ⊢
  rw [sequel, hnode] at hq ⊢
  have hstate : (q.awake i a').state = q.state := q.modifies_awake i a' .state (by decide)
  rw [← hstate] at hb hgoes
  obtain ⟨houtcome, hrun⟩ := (h.awake ha (p.task i) i).proceed hb hgoes resumption hr hq
  exact ⟨.acted node houtcome, hrun.close htu i pt (.acted node houtcome)⟩

omit htu in
/-- A step is taken on both sides or on neither, and comes to the same, unless a file fails. -/
lemma step (hsound : q.course.Sound) {i : Nat}
    (hplaced : ∀ u ∈ q.tasks, ∀ pt a resumption, u.status = .waiting pt a resumption →
      (s'.definition.node? pt.node).isSome = true)
    (hover : q.isTimed i = true → (r.step? s (p.task i)).isSome = (q.step? s' i).isSome)
    (hr : r.failsByFile s (p.task i) = false) (hq : q.failsByFile s' i = false) :
    (r.step? s (p.task i)).isSome = (q.step? s' i).isSome ∧ r.code? s (p.task i) = q.code? s' i ∧
      Twin p r₀ q₀ (r.after s (.step (p.task i))) (q.after s' (.step i)) := by
  rw [after, after, Run.code?, Run.code?]
  rw [failsByFile] at hr hq
  obtain ⟨ht, hu⟩ | ⟨t, u, ht, hu, htu⟩ := h.task_cases i
  · rw [Run.step?, Run.step?, turn?, turn?, ht, hu]
    exact ⟨rfl, rfl, h⟩
  · obtain ⟨pt, htstatus, hustatus⟩ | ⟨pt, a, a', resumption, ha, htstatus, hustatus⟩ | ⟨htstatus, hustatus⟩ :=
      htu.status.cases
    · rw [turn?_entering s ht htstatus] at hr ⊢
      rw [turn?_entering s' hu hustatus] at hq ⊢
      rw [step?_entering s ht htstatus, step?_entering s' hu hustatus]
      obtain ⟨hturn, hrun⟩ := h.enter htu hs hb i pt hr hq
      exact ⟨rfl, hturn.code?, hrun⟩
    · have hresult : r.waitResult? (p.token u.token) a = q.waitResult? u.token a' := by
        refine h.waitResult? ha htu.begun fun htimed => ?_
        have htaken := hover (by rw [isTimed, hu, Option.bind_some, Task.await?, hustatus]; exact htimed)
        rwa [step?_waiting s ht htstatus, step?_waiting s' hu hustatus, Option.isSome_map, Option.isSome_map,
          htu.token] at htaken
      rw [step?_waiting s ht htstatus, step?_waiting s' hu hustatus, htu.token, hresult]
      rw [turn?_waiting s ht htstatus, htu.token, hresult] at hr ⊢
      rw [turn?_waiting s' hu hustatus] at hq ⊢
      cases hqresult : q.waitResult? u.token a' with
      | none => exact ⟨rfl, rfl, h⟩
      | some result =>
        rw [hqresult] at hr hq
        have hnode := hplaced u (List.mem_of_getElem? hu) pt a' resumption hustatus
        obtain ⟨node, hnode⟩ := Option.isSome_iff_exists.mp hnode
        have hgoes : ∀ value, result = .ok value → q.state ≠ .stopped := by
          rintro value rfl
          have hlive : q.isCancelled u.token = false := isCancelled_of_waitResult? hqresult
          simp [(current_of_live hsound (List.mem_of_getElem? hu) hlive).1]
        obtain ⟨hturn, hrun⟩ := h.leaveWait htu hs hb i hnode ha resumption hgoes hr hq
        exact ⟨rfl, hturn.code?, hrun⟩
    · rw [turn?_ended s ht htstatus, turn?_ended s' hu hustatus, step?_ended s ht htstatus, step?_ended s' hu hustatus]
      exact ⟨rfl, rfl, h⟩

end Backends

end Setups

end Tasks

/-! ## All moves -/

lemma sample (h : Twin p r₀ q₀ r q) (role sensor : String) (timestamp : UInt64) (values : List Single) :
    Twin p r₀ q₀ (r.sample role sensor timestamp values) (q.sample role sensor timestamp values) :=
  h.of_modifies ((r.modifies_sample role sensor timestamp values).mono (by decide))
    ((q.modifies_sample role sensor timestamp values).mono (by decide))

/-- Other runs have told the host and asked the backend what they like. -/
lemma lend (h : Twin p r₀ q₀ r q) (shared shared' : Ensemble) :
    Twin p (shared.lend r) (shared'.lend q) (shared.lend r) (shared'.lend q) :=
  { h with notices := ⟨[], by simp⟩, calls := ⟨[], [], by simp⟩ }

/-- Twins that move in step stay twins.  Where others move, they are so with what is shared since then (`lend`). -/
theorem after (hs : s.Agrees s') (hb : q.state ≠ .stopped → s.backend.Alike r.calls s'.backend q.calls)
    (h : Twin p r q r q) (hsound : q.course.Sound) (hattended : q.Attended s') {m m' : Move}
    (hm : InStep p s s' r q m m') (hown : ∀ shared, m ≠ .others shared) : Twin p r q (r.after s m) (q.after s' m') := by
  cases hm with
  | start hbackend hr hq => exact h.start hs hr hq
  | pause => exact h.pause
  | resume => exact h.resume hs
  | stop error => exact h.stop error
  | answer id a => exact (h.answer id a).2
  | sample role sensor timestamp values => exact h.sample role sensor timestamp values
  | step i hover hr hq => exact (h.step hs hb hsound hattended.placed hover hr hq).2.2
  | others shared shared' => exact absurd rfl (hown shared)

end Twin

end Run

end FieldStudy
