import Mathlib.Data.List.Induction
import Mathlib.Tactic.Common
import FieldStudy.Proofs.Run.Documents
import FieldStudy.Proofs.Run.Failures
import FieldStudy.Proofs.Run.Interruptions
import FieldStudy.Proofs.Run.Tidy

/-!
# Accounts of the end of a run

The end of a run is told in three ways: by its reason, by its last notice, and by the metadata that are stored at last.
They agree, whoever has stopped the run, and the metadata tell of an abort only where it was that abort which has
stopped it (`Run.accounts_agree`).  A backend can reply that the scenario is aborted although it is not: then the reason
says so and the metadata do not (`Run.accounts_differ`).
-/

namespace FieldStudy

/-- Whether a notice tells how a run has ended. -/
def Notice.isFinished : Notice → Bool
  | .finished _ _ => true
  | _ => false

/-- The abort that a run has ended by. -/
def StopReason.abort? : StopReason → Option AbortInfo
  | .aborted info => some info
  | _ => none

lemma Notice.unfinished {n : Notice} (h : n.isOfNode = true) : n.isFinished = false := by
  cases n with
  | finished error abort => cases h
  | _ => rfl

/-- Only a move that stops the run tells how it has ended. -/
lemma Told.unfinished {state state' : RunState} {ns : List Notice} (h : Told state ns state')
    (hstate : state' ≠ .stopped) : ∀ n ∈ ns, n.isFinished = false := by
  cases h with
  | quiet => simp
  | node hns => exact fun n hn => Notice.unfinished (hns n hn)
  | pauses => simp [Notice.isFinished]
  | resumes => simp [Notice.isFinished]
  | stops => exact absurd rfl hstate

/-! ## Errors -/

/-- No error but an abort ends a run as aborted. -/
lemma StopReason.abort?_ofError {e : ScenarioError} (h : ∀ info, e ≠ .aborted info) :
    (ofError (some e)).abort? = none := by
  cases e with
  | aborted info => exact absurd rfl (h info)
  | _ => rfl

/-- An action fails as aborted only with what the backend has replied. -/
lemma Outcome.Fair.replies {b : Backend} {info : AbortInfo} (h : (Outcome.fails (.aborted info)).Fair b) :
    b.Replies (.aborted info) :=
  h.resolve_left Bool.noConfusion

/-- The metadata name their abort in the document that they are stored as. -/
lemma Metadata.toJson_abort (m : Metadata) : m.toJson.get? "abort" = some (Json.ofOption AbortInfo.toJson m.abort) := by
  rw [toJson]
  cases m.startDate <;> cases m.endDate <;> cases m.startTime <;> cases m.endTime <;> rfl

namespace Run

variable {r r' q : Run} {s : Setup} {i : Nat} {t : Task} {p : Point} {turn : Turn} {reason : StopReason}
  {noted : Option AbortInfo} {m : Move}

/-! ## Failures of turns -/

/-- A wait ends in a failure when its epoch has ended, or by the host. -/
lemma waitResult?_error {token : Nat} {a : Await} {e : ScenarioError} (h : r.waitResult? token a = some (.error e))
    (info : AbortInfo) : e ≠ .aborted info := by
  unfold waitResult? at h
  split at h
  · cases h
    exact ScenarioError.noConfusion
  · cases a with
    | time deadline =>
      dsimp only at h
      split at h <;> cases h
    | prompt id =>
      dsimp only at h
      split at h
      · cases h
      · cases h
        exact ScenarioError.noConfusion
      · split at h
        · cases h
        · cases h
          exact ScenarioError.noConfusion
    | signals all ids deadline =>
      dsimp only at h
      split at h
      · cases h
      · split at h <;> cases h

/-- A turn fails as aborted only with what the backend has replied: an abort of the scenario itself does not fail. -/
lemma Worked.replies {node : Node} {info : AbortInfo}
    (hworked : r.Worked s i t p (.acted node (.fails (.aborted info))) q) : s.backend.Replies (.aborted info) := by
  generalize hturn : Turn.acted node (.fails (.aborted info)) = turn at hworked
  cases hworked with
  | enters hstatus hnone =>
    rw [entry] at hturn
    split at hturn
    · cases hturn
    · split at hturn
      · cases hturn
      · next node' _ =>
        split at hturn
        · next hnode =>
          cases hturn
          rw [Action.ofNode] at hnode
          split at hnode <;> cases hnode
        · next a hok =>
          split at hturn
          · cases hturn
          · have hfair := fair_execute { r with point := some p } s ⟨t.branch, p.node, node', t.token⟩ a
            rw [← (Turn.acted.inj hturn).2] at hfair
            exact hfair.replies
  | @takes node' a hstatus hnode haction =>
    have hfair := fair_execute { r with point := some p } s ⟨t.branch, p.node, node', t.token⟩ a
    rw [← (Turn.acted.inj hturn).2] at hfair
    exact hfair.replies
  | @goesOn a resumption result hstatus hresult =>
    rw [sequel] at hturn
    split at hturn
    · obtain ⟨-, houtcome⟩ := Turn.acted.inj hturn
      cases result with
      | error e =>
        cases houtcome
        exact absurd rfl (waitResult?_error hresult info)
      | ok value =>
        have hfair := (r.awake i a).fair_proceed s value resumption
        rw [← houtcome] at hfair
        exact hfair.replies
    · cases hturn

/-! ## The end of a run -/

/-- The run is stopped for this reason, and its last notice and the metadata tell of the same abort, or of none. -/
structure EndsAs (s : Setup) (r r' : Run) (reason : StopReason) (noted : Option AbortInfo) : Prop where
  begun : r.state ≠ .stopped
  state : r'.state = .stopped
  closed : r'.writers = []
  finished : r'.finished = some reason
  abort : r'.metadata.abort = noted
  stored : r'.files.read? (s.folder ++ [Metadata.file]) = some (Utf8.encode r'.metadata.text.toList)
  told : ∃ ns, (∀ n ∈ ns, n.isFinished = false) ∧
    r'.notices = r.notices ++ (ns ++ [.finished (finishedError? reason) noted])

lemma NodeTells.unfinished (h : NodeTells r q) :
    ∃ ns, (∀ n ∈ ns, n.isFinished = false) ∧ q.notices = r.notices ++ ns := by
  obtain ⟨ns, hns, hnotices⟩ := h.notices
  exact ⟨ns, fun n hn => Notice.unfinished (hns n hn), hnotices⟩

/-- Notices of nodes may come before the end. -/
lemma EndsAs.after_tells (htells : NodeTells r q) (h : EndsAs s q r' reason noted) : EndsAs s r r' reason noted := by
  obtain ⟨ns, hns, hnotices⟩ := htells.unfinished
  obtain ⟨more, hmore, hnotices'⟩ := h.told
  refine ⟨htells.state ▸ h.begun, h.state, h.closed, h.finished, h.abort, h.stored, ns ++ more, fun n hn => ?_, ?_⟩
  · exact (List.mem_append.mp hn).elim (hns n) (hmore n)
  · rw [hnotices', hnotices]
    simp

/-- What follows the end does not tell of it. -/
lemma EndsAs.then_modifies {fs : List RunField} (h : EndsAs s r q reason noted) (hq : Modifies fs q r')
    (hfs : ∀ f ∈ [RunField.state, .writers, .finished, .metadata, .files, .notices], f ∉ fs) :
    EndsAs s r r' reason noted := by
  have hstate : r'.state = q.state := hq .state (hfs _ (by decide))
  have hwriters : r'.writers = q.writers := hq .writers (hfs _ (by decide))
  have hfinished : r'.finished = q.finished := hq .finished (hfs _ (by decide))
  have hmetadata : r'.metadata = q.metadata := hq .metadata (hfs _ (by decide))
  have hfiles : r'.files = q.files := hq .files (hfs _ (by decide))
  have hnotices : r'.notices = q.notices := hq .notices (hfs _ (by decide))
  refine ⟨h.begun, hstate.trans h.state, hwriters.trans h.closed, hfinished.trans h.finished, ?_, ?_, ?_⟩
  · rw [hmetadata, h.abort]
  · rw [hfiles, hmetadata, h.stored]
  · rw [hnotices]
    exact h.told

lemma abort_halt (r : Run) : r.halt.metadata.abort = r.metadata.abort := by
  have hcancel := (modifies_cancel { r with state := .stopped }).abort (by decide)
  have hclear := (({ r with state := .stopped } : Run).cancel.modifies_clearPrompts).abort (by decide)
  exact Eq.trans rfl (hclear.trans hcancel)

lemma writers_released (r : Run) (s : Setup) : (r.released s).writers = [] := by
  have hsensors := r.releaseFiles.modifies_releaseSensors s .writers (by decide)
  have hsaved := (r.releaseFiles.releaseSensors s).modifies_saveMetadata s .writers (by decide)
  exact Eq.trans hsaved (Eq.trans hsensors rfl)

lemma documented_halt (h : Documented s r.files) : Documented s (r.halt.releaseFiles.releaseSensors s).files := by
  have hfall : Desk.Leads s (r.desk, []) ((r.halt.releaseFiles.releaseSensors s).desk, []) := by
    have hreleased : (r.halt.releaseFiles).desk = ⟨false, [], [], none, r.desk.released⟩ := by
      rw [desk_releaseFiles, desk_halt]
      rfl
    rw [(r.halt.releaseFiles.modifies_releaseSensors s).desk (by decide), hreleased]
    exact .single .fall
  exact hfall.documented h

/-- Everything is closed before the metadata are stored for the last time. -/
lemma stored_released (h : Documented s r.files) :
    (r.halt.released s).files.read? (s.folder ++ [Metadata.file]) =
      some (Utf8.encode (r.halt.released s).metadata.text.toList) :=
  stored_saveMetadata (documented_halt h)

/-- Whoever stops a run: the last notice tells of the abort that the metadata have noted. -/
lemma endsAs_stop (error : Option ScenarioError) (h : Documented s r.files) (hstate : r.state ≠ .stopped) :
    EndsAs s r (r.stop s error) (StopReason.ofError error) r.metadata.abort := by
  obtain ⟨hnotices, hhalted⟩ := r.halt_quiet
  obtain ⟨mics, hmics⟩ := r.halt.notices_released s
  have hreleased := r.halt.modifies_released s
  have hdown : (r.halt.released s).state = .stopped := (hreleased .state (by decide)).trans hhalted
  have hnoted : (r.halt.released s).metadata.abort = r.metadata.abort :=
    (hreleased.abort (by decide)).trans r.abort_halt
  have hclosed := r.halt.writers_released s
  have hstored := stored_released h
  rw [r.stop_eq s error hstate]
  generalize r.halt.released s = q at hmics hdown hnoted hclosed hstored
  refine ⟨hstate, hdown, hclosed, rfl, hnoted, hstored,
    List.replicate mics (.micRecording false) ++ [.state .stopped], fun n hn => ?_, ?_⟩
  · obtain hn | hn := List.mem_append.mp hn
    · rw [(List.mem_replicate.mp hn).2]
      rfl
    · rw [List.mem_singleton.mp hn]
      rfl
  · show q.notices ++ [.state .stopped] ++ [.finished _ q.metadata.abort] = _
    rw [hmics, hnotices, hnoted]
    simp

/-- An abort notes itself before it stops the run. -/
lemma endsAs_abort (h : Documented s r.files) (hstate : r.state ≠ .stopped) (info : AbortInfo) :
    EndsAs s r (r.abort s info).2 (.aborted info) (some info) := by
  have hnoted : Quiet r (r.updateMetadata fun m => { m with abort := some info }) := ⟨rfl, rfl⟩
  have hstops := endsAs_stop (r := r.updateMetadata fun m => { m with abort := some info }) (some (.aborted info)) h
    hstate
  exact hstops.after_tells hnoted.tells

/-! ## Steps -/

/-- What follows from a turn: the task goes on or ends, or the run is stopped, with an error only if the action has
failed with it. -/
lemma close_cases (r : Run) (s : Setup) (i : Nat) (t : Task) (p : Point) (turn : Turn) :
    Modifies [.tasks, .signals, .agenda] r (r.close s i t p turn) ∨
    ∃ error q, (∀ e ∈ error, ∃ node, turn = .acted node (.fails e)) ∧ Modifies [.tasks, .signals, .agenda] r q ∧
      r.close s i t p turn = (q.stop s error).setStatus i .ended := by
  have hended (q : Run) : Modifies [.tasks, .signals, .agenda] q (q.setStatus i .ended) :=
    (q.modifies_setStatus i .ended).mono (by decide)
  have hresolve : Modifies [.tasks, .signals, .agenda] r (r.resolve t.done 0) :=
    (r.modifies_resolve t.done 0).mono (by decide)
  have hfinish : Modifies [.tasks, .signals, .agenda] r ((r.finishBranch s t).setStatus i .ended) ∨
      (r.finishBranch s t).setStatus i .ended = ((r.resolve t.done 0).stop s none).setStatus i .ended := by
    rw [finishBranch]
    split
    · exact .inr rfl
    · exact .inl (hresolve.trans (hended _))
  have hstops (error : Option ScenarioError) {turn : Turn}
      (herror : ∀ e ∈ error, ∃ node, turn = .acted node (.fails e)) :
      ∃ error' q, (∀ e ∈ error', ∃ node, turn = .acted node (.fails e)) ∧ Modifies [.tasks, .signals, .agenda] r q ∧
        ((r.resolve t.done 0).stop s error).setStatus i .ended = (q.stop s error').setStatus i .ended :=
    ⟨error, _, herror, hresolve, rfl⟩
  cases turn with
  | dropped => exact .inl (hended r)
  | lost => exact hfinish.imp_right fun h => by rw [close, h]; exact hstops none (by simp)
  | ownJoin => exact .inl (hresolve.trans (hended _))
  | acted node outcome =>
    cases outcome with
    | done code =>
      rw [close, follow]
      split
      · exact .inl ((r.modifies_setStatus i _).mono (by decide))
      · exact hfinish.imp_right fun h => by rw [h]; exact hstops none (by simp)
    | fails e =>
      cases e with
      | cancelled => exact .inl (hended r)
      | _ => exact .inr (hstops (some _) fun e he => ⟨node, by rw [Option.mem_some_iff.mp he]⟩)
    | waits a resumption =>
      left
      rw [close, follow, suspend]
      split
      · intro f hf
        cases f <;> first | rfl | simp at hf
      · exact (r.modifies_setStatus i _).mono (by decide)

/-- Nothing that follows from a turn is of interest once the run has stopped. -/
lemma modifies_close_of_stopped (h : r.state = .stopped) (s : Setup) (i : Nat) (t : Task) (p : Point) (turn : Turn) :
    Modifies [.tasks, .signals, .agenda] r (r.close s i t p turn) := by
  obtain hmodifies | ⟨error, q, -, hq, hclose⟩ := r.close_cases s i t p turn
  · exact hmodifies
  · have hstopped : q.state = .stopped := (hq .state (by decide)).trans h
    rw [hclose, stop, if_pos hstopped]
    exact hq.trans ((q.modifies_setStatus i .ended).mono (by decide))

/-- The run goes on: nothing has been aborted, and the metadata have their file. -/
structure Pending (s : Setup) (r : Run) : Prop where
  state : r.state ≠ .stopped
  abort : r.metadata.abort = none
  documented : Documented s r.files

lemma Pending.of_modifies {fs : List RunField} (h : r.Pending s) (hq : Modifies fs r r')
    (hfs : ∀ f ∈ [RunField.state, .metadata, .files], f ∉ fs) : r'.Pending s := by
  have hstate : r'.state = r.state := hq .state (hfs _ (by decide))
  have hfiles : r'.files = r.files := hq .files (hfs _ (by decide))
  exact ⟨hstate ▸ h.state, (hq.abort (hfs _ (by decide))).trans h.abort, hfiles ▸ h.documented⟩

/-- The work on an action that is no abort. -/
lemma Worked.pending (hworked : r.Worked s i t p turn q) (h : r.Pending s)
    (habort : t.status = .entering p → ∀ info, r.action? s t p ≠ some (.abort info)) :
    q.Pending s ∧ NodeTells r q := by
  have hdocumented := hworked.documented h.documented
  cases hworked with
  | enters => exact ⟨⟨h.state, h.abort, hdocumented⟩, Quiet.tells ⟨rfl, rfl⟩⟩
  | @takes node a hstatus hnode haction =>
    have hnot : ∀ info, a ≠ .abort info := by
      rintro info rfl
      exact habort hstatus info haction
    have hpoint : Quiet r { r with point := some p } := ⟨rfl, rfl⟩
    have htells := hpoint.tells.trans (tells_execute _ s ⟨t.branch, p.node, node, t.token⟩ hnot)
    exact ⟨⟨ne_of_eq_of_ne htells.state h.state, (abort_execute _ s _ hnot).trans h.abort, hdocumented⟩, htells⟩
  | @goesOn a resumption result hstatus hresult =>
    have hawake := r.modifies_awake i a
    have htells := (hawake.quiet (by decide) (by decide)).tells.trans ((r.awake i a).tells_proceed s result resumption)
    have hkept := ((r.awake i a).abort_proceed s result resumption).trans (hawake.abort (by decide))
    exact ⟨⟨ne_of_eq_of_ne htells.state h.state, hkept.trans h.abort, hdocumented⟩, htells⟩

/-- The action of a step fails with this error. -/
def Fails (s : Setup) (r : Run) (m : Move) (e : ScenarioError) : Prop :=
  ∃ i p node, m = .step i ∧ r.turn? s i = some (p, .acted node (.fails e))

/-- The abort that is noted is one that the move was to take.  It is that of the reason, unless the action of the move
has failed with an abort that the backend has replied with. -/
structure Grounds (s : Setup) (r : Run) (m : Move) (reason : StopReason) (noted : Option AbortInfo) : Prop where
  taken : ∀ info, noted = some info ↔ r.taken? s m = some (.abort info)
  agrees : noted = reason.abort? ∨
    noted = none ∧ ∃ info, reason = .aborted info ∧ s.backend.Replies (.aborted info) ∧ r.Fails s m (.aborted info)

/-- An action that is no abort has stopped the run, which has not noted any. -/
lemma Worked.grounds (hworked : r.Worked s i t p turn q) (hturn : r.turn? s i = some (p, turn))
    (habort : ¬∃ info, r.taken? s (.step i) = some (.abort info)) {error : Option ScenarioError}
    (herror : ∀ e ∈ error, ∃ node, turn = .acted node (.fails e)) :
    Grounds s r (.step i) (StopReason.ofError error) none := by
  refine ⟨fun info => ⟨nofun, fun htaken => absurd ⟨info, htaken⟩ habort⟩, ?_⟩
  by_cases hreplied : ∃ info, error = some (.aborted info)
  · obtain ⟨info, rfl⟩ := hreplied
    obtain ⟨node, rfl⟩ := herror _ rfl
    exact .inr ⟨rfl, info, rfl, hworked.replies, i, p, node, rfl, hturn⟩
  · left
    cases error with
    | none => rfl
    | some e => exact (StopReason.abort?_ofError fun info he => hreplied ⟨info, by rw [he]⟩).symm

/-- A step of a run that goes on: it goes on after it, or it ends. -/
lemma pending_step (h : r.Pending s) (hstep : r.step? s i = some r') :
    r'.Pending s ∨ ∃ reason noted, EndsAs s r r' reason noted ∧ Grounds s r (.step i) reason noted := by
  by_cases habort : ∃ info, r.taken? s (.step i) = some (.abort info)
  · obtain ⟨info, htaken⟩ := habort
    right
    obtain ⟨t, p, node, -, -, -, -, hafter⟩ := after_of_taken? htaken
    rw [after, hstep, Option.getD_some] at hafter
    have hpoint : Quiet r { r with point := some p } := ⟨rfl, rfl⟩
    have hends := (endsAs_abort (r := { r with point := some p }) h.documented h.state info).after_tells hpoint.tells
    have hrest := modifies_close_of_stopped hends.state s i t p (.acted node (.done 1))
    refine ⟨.aborted info, some info, hafter ▸ hends.then_modifies hrest (by decide), fun info' => ?_, .inl rfl⟩
    rw [htaken]
    simp
  · obtain ⟨t, p, turn, q, ht, hturn, hworked, rfl⟩ := step_cases hstep
    obtain ⟨hpending, htells⟩ := hworked.pending h fun hstatus info haction =>
      habort ⟨info, taken?_step_iff.mpr ⟨t, p, ht, hstatus, haction⟩⟩
    obtain hmodifies | ⟨error, q', herror, hq', hclose⟩ := q.close_cases s i t p turn
    · exact .inl (hpending.of_modifies hmodifies (by decide))
    · have hpending' := hpending.of_modifies hq' (by decide)
      have hstops := endsAs_stop error hpending'.documented hpending'.state
      rw [hpending'.abort] at hstops
      refine .inr ⟨StopReason.ofError error, none, ?_, hworked.grounds hturn habort herror⟩
      rw [hclose]
      exact (hstops.then_modifies (modifies_setStatus _ i .ended) (by decide)).after_tells
        (htells.trans (hq'.quiet (by decide) (by decide)).tells)

/-! ## All moves -/

/-- What other runs leave as it is: the file of the metadata of this one. -/
structure Spares (s : Setup) (files files' : FileStore) : Prop where
  numbered : files'.Numbered
  place : files'.locate s.folder Metadata.file = files.locate s.folder Metadata.file
  file : files'.find? (s.folder ++ [Metadata.file]) = files.find? (s.folder ++ [Metadata.file])
  contents : files'.read? (s.folder ++ [Metadata.file]) = files.read? (s.folder ++ [Metadata.file])

/-- The metadata of the run stay where they can be written, whatever other runs do in between. -/
def AllSpared (s : Setup) : Run → List Move → Prop
  | _, [] => True
  | r, m :: rest => (∀ shared, m = .others shared → Spares s r.files shared.files) ∧ AllSpared s (r.after s m) rest

/-- Once it has stopped the run is not started again, not even in vain. -/
def StartsOnce (s : Setup) (r : Run) (moves : List Move) : Prop :=
  ¬ r.Happens s (fun q m => m = .start ∧ q.state = .stopped) moves

/-- The move takes this abort, and it is what stops the run. -/
def AbortedBy (s : Setup) (info : AbortInfo) (r : Run) (m : Move) : Prop :=
  r.state ≠ .stopped ∧ (r.after s m).state = .stopped ∧ r.taken? s m = some (.abort info)

/-- The move fails with this error, and it is what stops the run. -/
def FailedBy (s : Setup) (e : ScenarioError) (r : Run) (m : Move) : Prop :=
  r.state ≠ .stopped ∧ (r.after s m).state = .stopped ∧ r.Fails s m e

/-- As long as the run goes on, no notice tells of its end. -/
lemma unfinished_sent (hsound : r.course.Sound) {m : Move} (hstart : m ≠ .start)
    (hstate : (r.after s m).state ≠ .stopped) : ∀ n ∈ r.sent s m, n.isFinished = false := by
  obtain ⟨shared, rfl⟩ | hown := m.others_or_own
  · simp [sent]
  · obtain ⟨ns, hnotices, htold⟩ := told_after (s := s) hsound hstart hown
    rw [sent_eq ns hown hnotices]
    exact htold.unfinished hstate

/-- A move that takes no action and does not stop the run. -/
lemma Pending.after_quietly (h : r.Pending s) {m : Move} (hstop : ∀ error, m ≠ .stop error) (hstep : ∀ i, m ≠ .step i)
    (hspared : ∀ shared, m = .others shared → Spares s r.files shared.files) : (r.after s m).Pending s := by
  cases m with
  | start =>
    rw [after, start, if_pos h.state]
    exact h
  | pause =>
    by_cases hrunning : r.state = .running
    · have hstate : (r.pause s).state = .paused := congrArg Prod.fst (verdict_pause s hrunning)
      refine ⟨?_, ((r.modifies_pause s).abort (by decide)).trans h.abort, (r.leads_pause s []).documented h.documented⟩
      rw [after, hstate]
      decide
    · rw [after, pause, if_pos hrunning]
      exact h
  | resume =>
    by_cases hpaused : r.state = .paused
    · have hstate : (r.resume s).state = .running := congrArg Prod.fst (verdict_resume s hpaused)
      have hfiles : (r.resume s).files = r.files := congrArg Desk.files (r.desk_resume s)
      refine ⟨?_, ?_, ?_⟩
      · rw [after, hstate]
        decide
      · exact ((r.modifies_resume s).abort (by decide)).trans h.abort
      · rw [after, hfiles]
        exact h.documented
    · rw [after, resume, if_pos hpaused]
      exact h
  | stop error => exact absurd rfl (hstop error)
  | answer id a => exact h.of_modifies (r.modifies_answer id a) (by decide)
  | sample role sensor timestamp values =>
    have hsample := r.modifies_sample role sensor timestamp values
    refine ⟨?_, (hsample.abort (by decide)).trans h.abort, ?_⟩
    · rw [after, show (r.sample role sensor timestamp values).state = r.state from hsample .state (by decide)]
      exact h.state
    · exact (r.leads_sample s [] role sensor timestamp values).documented h.documented
  | step i => exact absurd rfl (hstep i)
  | others shared =>
    have hspares := hspared shared rfl
    obtain ⟨id, hfile⟩ := h.documented.file
    exact ⟨h.state, h.abort, hspares.numbered, hspares.place.trans h.documented.place, id, hspares.file.trans hfile⟩

/-- A move of a run that goes on: it goes on after it, or it ends. -/
lemma pending_after (h : r.Pending s) (hhost : ∀ error, m = .stop error → error = none)
    (hspared : ∀ shared, m = .others shared → Spares s r.files shared.files) :
    (r.after s m).Pending s ∨ ∃ reason noted, EndsAs s r (r.after s m) reason noted ∧ Grounds s r m reason noted := by
  by_cases hstop : ∃ error, m = .stop error
  · obtain ⟨error, rfl⟩ := hstop
    obtain rfl := hhost error rfl
    refine .inr ⟨_, none, h.abort ▸ endsAs_stop none h.documented h.state, fun info => ?_, .inl rfl⟩
    simp [taken?]
  · by_cases hstep : ∃ i, m = .step i
    · obtain ⟨i, rfl⟩ := hstep
      rw [after]
      cases htaken : r.step? s i with
      | none => exact .inl h
      | some r' => exact pending_step h htaken
    · exact .inl (h.after_quietly (fun error heq => hstop ⟨error, heq⟩) (fun i heq => hstep ⟨i, heq⟩) hspared)

/-- What is left to do for a run that has stopped. -/
lemma modifies_after_of_stopped (hsound : r.course.Sound) (hstate : r.state = .stopped) (hclosed : r.writers = [])
    {m : Move} (hstart : m ≠ .start) (hothers : ∀ shared, m ≠ .others shared) :
    Modifies [.point, .prompts, .agenda, .tasks] r (r.after s m) := by
  cases m with
  | start => exact absurd rfl hstart
  | pause => exact .of_eq (by rw [after, pause, if_pos (by simp [hstate])])
  | resume => exact .of_eq (by rw [after, resume, if_pos (by simp [hstate])])
  | stop error => exact .of_eq (by rw [after, stop, if_pos hstate])
  | answer id a => exact (r.modifies_answer id a).mono (by decide)
  | sample role sensor timestamp values =>
    have hnone (frame : UInt8) (timestamp : Scalar) (values : List Scalar) (names : List String) :
        names.foldl (fun r name => r.writeSample frame timestamp values name) r = r := by
      induction names with
      | nil => rfl
      | cons name rest ih =>
        have hsame : r.writeSample frame timestamp values name = r := by rw [writeSample, hclosed]; rfl
        rw [List.foldl_cons, hsame, ih]
    refine .of_eq ?_
    rw [after, sample]
    split
    · rfl
    · split
      · rfl
      · exact hnone _ _ _ _
  | step i =>
    rw [after]
    cases htaken : r.step? s i with
    | none => exact .refl _ r
    | some r' =>
      obtain ⟨t, p, turn, q, ht, -⟩ := step_cases htaken
      have hcancelled : r.isCancelled t.token = true := by
        by_contra hlive
        have hrunning := (current_of_live hsound (List.mem_of_getElem? ht) (by simpa using hlive)).1
        exact absurd (hstate.symm.trans hrunning) (by decide)
      exact (frozen_step ht hcancelled htaken).rest
  | others shared => exact absurd rfl (hothers shared)

/-! ## Whole runs -/

/-- The run has ended for this reason.  Its last notice, its metadata and the document that is stored of them tell of
the same abort, or of none, and of one exactly where that abort has stopped the run. -/
structure EndsBy (s : Setup) (first : Run) (moves : List Move) (reason : StopReason) (noted : Option AbortInfo) :
    Prop where
  finished : (first.afterAll s moves).finished = some reason
  told : (first.allSent s moves).filter Notice.isFinished = [.finished (finishedError? reason) noted]
  metadata : (first.afterAll s moves).metadata.abort = noted
  stored : ∃ document : Json, (first.afterAll s moves).files.read? (s.folder ++ [Metadata.file]) =
      some (Utf8.encode document.pretty.toList) ∧
    document.get? "abort" = some (Json.ofOption AbortInfo.toJson noted)
  cause : ∀ info, noted = some info ↔ first.Happens s (AbortedBy s info) moves

/-- How the end of a run is accounted for: the abort that is noted is that of the reason, unless the backend has replied
with an abort and the action that has failed with it has stopped the run. -/
structure Explained (s : Setup) (first : Run) (moves : List Move) (reason : StopReason) (noted : Option AbortInfo) :
    Prop where
  ends : first.EndsBy s moves reason noted
  agrees : noted = reason.abort? ∨ noted = none ∧ ∃ info, reason = .aborted info ∧
    s.backend.Replies (.aborted info) ∧ first.Happens s (FailedBy s (.aborted info)) moves

/-- A run that has stopped for this reason is left alone. -/
structure Rests (s : Setup) (r : Run) (reason : StopReason) (noted : Option AbortInfo) : Prop where
  state : r.state = .stopped
  closed : r.writers = []
  finished : r.finished = some reason
  abort : r.metadata.abort = noted
  stored : r.files.read? (s.folder ++ [Metadata.file]) = some (Utf8.encode r.metadata.text.toList)

lemma Rests.after (hsound : r.course.Sound) (h : r.Rests s reason noted) (hstart : m ≠ .start)
    (hspared : ∀ shared, m = .others shared → Spares s r.files shared.files) :
    (r.after s m).Rests s reason noted ∧ r.sent s m = [] := by
  obtain ⟨shared, rfl⟩ | hown := m.others_or_own
  · exact ⟨⟨h.state, h.closed, h.finished, h.abort, (hspared shared rfl).contents.trans h.stored⟩, rfl⟩
  · have hmodifies := modifies_after_of_stopped (s := s) hsound h.state h.closed hstart hown
    have hmetadata : (r.after s m).metadata = r.metadata := hmodifies .metadata (by decide)
    have hfiles : (r.after s m).files = r.files := hmodifies .files (by decide)
    have hnotices : (r.after s m).notices = r.notices := hmodifies .notices (by decide)
    refine ⟨⟨?_, ?_, ?_, ?_, ?_⟩, sent_eq [] hown (by rw [hnotices, List.append_nil])⟩
    · exact (hmodifies .state (by decide) : _ = r.state).trans h.state
    · exact (hmodifies .writers (by decide) : _ = r.writers).trans h.closed
    · exact (hmodifies .finished (by decide) : _ = r.finished).trans h.finished
    · rw [hmetadata, h.abort]
    · rw [hfiles, hmetadata, h.stored]

lemma Rests.afterAll (hsound : r.course.Sound) (h : r.Rests s reason noted) {moves : List Move}
    (honce : r.StartsOnce s moves) (hspared : r.AllSpared s moves) :
    (r.afterAll s moves).Rests s reason noted ∧ r.allSent s moves = [] ∧
      ∀ info, ¬ r.Happens s (AbortedBy s info) moves := by
  induction moves generalizing r with
  | nil => exact ⟨h, rfl, fun _ => happens_nil⟩
  | cons m rest ih =>
    obtain ⟨hfirst, hlater⟩ := not_or.mp honce
    obtain ⟨hafter, hsent⟩ := h.after hsound (fun heq => hfirst ⟨heq, h.state⟩) hspared.1
    obtain ⟨hrests, hall, hnone⟩ := ih (hsound.leads (r.course_after s m)) hafter hlater hspared.2
    refine ⟨hrests, by rw [allSent, hsent, hall, List.append_nil], fun info happens => ?_⟩
    exact happens.elim (fun haborted => haborted.1 h.state) (hnone info)

lemma EndsAs.rests (h : EndsAs s r q reason noted) : q.Rests s reason noted :=
  ⟨h.state, h.closed, h.finished, h.abort, h.stored⟩

/-- A move that ends the run accounts for its end, if nothing is done to it any more. -/
lemma EndsAs.explained (hsound : r.course.Sound) (hstate : r.state ≠ .stopped)
    (h : EndsAs s r (r.after s m) reason noted) (hgrounds : Grounds s r m reason noted) {rest : List Move}
    (honce : (r.after s m).StartsOnce s rest) (hspared : (r.after s m).AllSpared s rest) :
    ((r.after s m).afterAll s rest).state = .stopped ∧ r.Explained s (m :: rest) reason noted := by
  obtain ⟨hrests, hsilent, hnone⟩ := h.rests.afterAll (hsound.leads (r.course_after s m)) honce hspared
  obtain ⟨ns, hns, hnotices⟩ := h.told
  have hown : ∀ shared, m ≠ .others shared := by
    rintro shared rfl
    exact hstate h.state
  refine ⟨hrests.state, ⟨hrests.finished, ?_, hrests.abort, ⟨_, hrests.stored, ?_⟩, fun info => ?_⟩, ?_⟩
  · rw [allSent, sent_eq _ hown hnotices, hsilent, List.append_nil, List.filter_append,
      List.filter_eq_nil_iff.mpr (by simpa using hns)]
    rfl
  · rw [Metadata.toJson_abort, hrests.abort]
  · rw [hgrounds.taken info, Happens]
    simp [hnone info, AbortedBy, hstate, h.state]
  · refine hgrounds.agrees.imp_right ?_
    rintro ⟨hnoted, info, hreason, hreplies, hfails⟩
    exact ⟨hnoted, info, hreason, hreplies, .inl ⟨hstate, h.state, hfails⟩⟩

/-- The end of a run is accounted for alike before a move that does not tell of it. -/
lemma Explained.cons (hpending : (r.after s m).Pending s) (hquiet : ∀ n ∈ r.sent s m, n.isFinished = false)
    {rest : List Move} (h : (r.after s m).Explained s rest reason noted) :
    r.Explained s (m :: rest) reason noted := by
  have hnot (info : AbortInfo) : ¬ AbortedBy s info r m := fun haborted => hpending.state haborted.2.1
  refine ⟨⟨h.ends.finished, ?_, h.ends.metadata, h.ends.stored, fun info => ?_⟩, ?_⟩
  · have hnone := List.filter_eq_nil_iff.mpr (by simpa using hquiet)
    rw [allSent, List.filter_append, hnone, List.nil_append, h.ends.told]
  · rw [h.ends.cause info, Happens]
    simp [hnot info]
  · refine h.agrees.imp_right ?_
    rintro ⟨hnoted, info, hreason, hreplies, hfails⟩
    exact ⟨hnoted, info, hreason, hreplies, .inr hfails⟩

/-- A run that goes on either does so through these moves, or one of them ends it. -/
lemma pending_afterAll (hsound : r.course.Sound) (h : r.Pending s) {moves : List Move}
    (hhost : ∀ error, .stop error ∈ moves → error = none) (honce : r.StartsOnce s moves)
    (hspared : r.AllSpared s moves) :
    ((r.afterAll s moves).Pending s ∧ ∀ n ∈ r.allSent s moves, n.isFinished = false) ∨
      (r.afterAll s moves).state = .stopped ∧ ∃ reason noted, r.Explained s moves reason noted := by
  induction moves generalizing r with
  | nil => exact .inl ⟨h, by simp [allSent]⟩
  | cons m rest ih =>
    obtain ⟨hfirst, hlater⟩ := not_or.mp honce
    have hrest : ∀ error, .stop error ∈ rest → error = none :=
      fun error hmem => hhost error (List.mem_cons_of_mem m hmem)
    obtain hpending | ⟨reason, noted, hends, hgrounds⟩ :=
      pending_after h (fun error heq => hhost error (heq ▸ List.mem_cons_self)) hspared.1
    · have hquiet : ∀ n ∈ r.sent s m, n.isFinished = false := by
        by_cases hstart : m = .start
        · subst hstart
          rw [sent_eq [] (by simp) (by rw [after, start, if_pos h.state, List.append_nil])]
          simp
        · exact unfinished_sent hsound hstart hpending.state
      obtain ⟨hafter, hsent⟩ | ⟨hstopped, reason, noted, hexplained⟩ :=
        ih (hsound.leads (r.course_after s m)) hpending hrest hlater hspared.2
      · exact .inl ⟨hafter, fun n hn => (List.mem_append.mp hn).elim (hquiet n) (hsent n)⟩
      · exact .inr ⟨hstopped, reason, noted, hexplained.cons hpending hquiet⟩
    · obtain ⟨hstopped, hexplained⟩ := hends.explained hsound h.state hgrounds hlater hspared.2
      exact .inr ⟨hstopped, reason, noted, hexplained⟩

lemma abort_start (h : r.begins s .start = true) : (r.after s .start).metadata.abort = none := by
  have hreset : (r.reset s).metadata.abort = none := rfl
  exact ((modifies_start h).abort (by decide)).trans hreset

/-- A run that begins is under way, whatever an earlier one has noted. -/
lemma pending_start (hbegins : r.begins s .start = true) (hnumbered : r.files.Numbered) :
    (r.after s .start).Pending s := by
  obtain ⟨p, id, hplace, hfind⟩ := (tidy_start hbegins).document
  obtain rfl := FileStore.locate_document hplace
  have hdocumented : Documented s (r.after s .start).files :=
    ⟨(r.leads_start s []).numbered hnumbered, hplace, id, hfind⟩
  have hrunning : (r.after s .start).state = .running := congrArg Prod.fst (verdict_begins hbegins)
  exact ⟨by simp [hrunning], abort_start hbegins, hdocumented⟩

/-- How an earlier run has ended is no longer told once a run begins. -/
lemma announced_start (h : r.begins s .start = true) : (r.after s .start).Announced := by
  obtain ⟨hrunning, hnone⟩ := Prod.mk.inj (verdict_begins h)
  rw [Announced, hrunning, hnone]
  exact iff_of_false (by decide) (by simp)

/-- The reason of the end of a run, its last notice and the metadata that it stores agree: they tell of no abort and no
failure, or of the abort that has stopped the run, or of a failure and no abort.  There is one exception: if a backend
has replied to a call of a node that the scenario is aborted, and that has stopped the run, then the reason and the error
of the last notice are those of the reply, and no abort is noted.  As long as the run goes on, there is no reason, and
nothing tells of an abort, neither of one in an earlier run nor of one in another branch.

The host does not stop the run with an error of its own, and the file of the metadata stays where it can be written. -/
theorem accounts_agree (x : Ensemble) (s : Setup) (before : List Move)
    (hnumbered : ((x.newRun s).afterAll s before).files.Numbered)
    (hbegins : ((x.newRun s).afterAll s before).begins s .start = true) (moves : List Move)
    (hhost : ∀ error, .stop error ∈ moves → error = none)
    (honce : (((x.newRun s).afterAll s before).after s .start).StartsOnce s moves)
    (hspared : (((x.newRun s).afterAll s before).after s .start).AllSpared s moves) :
    let first := ((x.newRun s).afterAll s before).after s .start
    let r := first.afterAll s moves
    (r.state = .stopped → ∃! reason, first.EndsBy s moves reason reason.abort? ∨
      ∃ info, reason = .aborted info ∧ s.backend.Replies (.aborted info) ∧
        first.Happens s (FailedBy s (.aborted info)) moves ∧ first.EndsBy s moves reason none) ∧
    (r.state ≠ .stopped → r.finished = none ∧ r.metadata.abort = none ∧
      ∀ n ∈ first.allSent s moves, n.isFinished = false) := by
  intro first r
  have hsound : first.course.Sound := (sound_afterAll x s before).leads (course_after _ s .start)
  obtain ⟨hpending, hsilent⟩ | ⟨hstopped, reason, noted, hends, hagrees⟩ :=
    pending_afterAll hsound (pending_start hbegins hnumbered) hhost honce hspared
  · have hannounced : r.Announced := announced_afterAll (announced_start hbegins) moves
    have hnone : r.finished = none := by
      simpa using fun hfinished => hpending.state (hannounced.mpr hfinished)
    exact ⟨fun hstopped => absurd hstopped hpending.state, fun _ => ⟨hnone, hpending.abort, hsilent⟩⟩
  · refine ⟨fun _ => ⟨reason, ?_, fun other hother => ?_⟩, fun hgoes => absurd hstopped hgoes⟩
    · obtain rfl | ⟨rfl, info, hreason, hreplies, hfails⟩ := hagrees
      · exact .inl hends
      · exact .inr ⟨info, hreason, hreplies, hfails, hends⟩
    · have hfinished : r.finished = some other := hother.elim (·.finished) fun ⟨_, _, _, _, h⟩ => h.finished
      exact Option.some.inj (hfinished.symm.trans hends.finished)

/-- A run that aborts itself, and another one of the same scenario that does not. -/
theorem accounts_agree_twice :
    let nodes : Dict Node :=
      [("ask", { Node.ofPrimitive .waitOption with next := [some "quit"] }),
        ("quit", { Node.ofPrimitive .abort with
          arguments := .obj [("message", .str "Sensor silent"), ("reason", .str "no_signal")] })]
    let s : Setup := { definition := { scenarioId := 1, content := { entry := "ask", nodes } }, folder := ["run"] }
    let x : Ensemble := { files := {} }
    let aborts : List Move := [.step 0, .answer 1 (.value 0), .step 0, .step 0]
    let completes : List Move := [.step 1, .answer 2 (.value 1), .step 1, .stop none]
    let info : AbortInfo := ⟨"no_signal", some "Sensor silent"⟩
    let first := (x.newRun s).after s .start
    let second := ((x.newRun s).afterAll s (.start :: aborts)).after s .start
    first.EndsBy s aborts (.aborted info) (some info) ∧ second.EndsBy s completes .completed none := by
  intro nodes s x aborts completes info first second
  have hbegins : (x.newRun s).begins s .start = true := by decide +kernel
  have hagain : ((x.newRun s).afterAll s (.start :: aborts)).begins s .start = true := by decide +kernel
  have hempty : (x.newRun s).files.Numbered := FileStore.numbered_of_entries (by decide +kernel)
  have hlater : ((x.newRun s).afterAll s (.start :: aborts)).files.Numbered :=
    FileStore.numbered_of_entries (by decide +kernel)
  obtain ⟨hfirst, -⟩ := accounts_agree x s [] hempty hbegins aborts (by simp [aborts])
    (by simp [StartsOnce, Happens, aborts]) (by simp [AllSpared, aborts])
  obtain ⟨hsecond, -⟩ := accounts_agree x s (.start :: aborts) hlater hagain completes (by simp [completes])
    (by simp [StartsOnce, Happens, completes]) (by simp [AllSpared, completes])
  have haborted : (first.afterAll s aborts).finished = some (.aborted info) := by decide +kernel
  have hnoted : (first.afterAll s aborts).metadata.abort = some info := by decide +kernel
  have hcompleted : (second.afterAll s completes).finished = some .completed := by decide +kernel
  constructor
  · obtain ⟨reason, hends | ⟨-, -, -, -, hends⟩, -⟩ := hfirst (by decide +kernel)
    · obtain rfl := Option.some.inj (hends.finished.symm.trans haborted)
      exact hends
    · have hends' : first.EndsBy s aborts reason none := hends
      exact absurd (hnoted.symm.trans hends'.metadata) (Option.some_ne_none info)
  · obtain ⟨reason, hends | ⟨info', rfl, -, -, hends⟩, -⟩ := hsecond (by decide +kernel)
    · obtain rfl := Option.some.inj (hends.finished.symm.trans hcompleted)
      exact hends
    · exact StopReason.noConfusion (Option.some.inj (hends.finished.symm.trans hcompleted))

/-- A backend that describes no device, since it holds the scenario to be aborted. -/
def abortingBackend : Backend where
  reply := Backend.none.reply
  canRecord := Backend.none.canRecord
  deviceInfo _ _ := .error (.aborted ⟨"gone", none⟩)

/-- The run has ended as aborted, with the error of the backend in its last notice, and neither this notice nor the
metadata tell of an abort.  So for no reason all that tells of the end agrees. -/
theorem accounts_differ :
    let nodes : Dict Node := [("pick", Node.ofPrimitive .deviceSelect)]
    let s : Setup :=
      { definition := { scenarioId := 1, content := { entry := "pick", nodes } }
        folder := ["run"], available := [⟨.mobilePhone, [], []⟩], backend := abortingBackend }
    let first := (({ files := {} } : Ensemble).newRun s).after s .start
    (first.afterAll s [.step 0]).state = .stopped ∧
      first.EndsBy s [.step 0] (.aborted ⟨"gone", none⟩) none ∧
      ∀ reason, ¬ first.EndsBy s [.step 0] reason reason.abort? := by
  intro nodes s first
  have hbegins : (({ files := {} } : Ensemble).newRun s).begins s .start = true := by decide +kernel
  have hempty : (({ files := {} } : Ensemble).newRun s).files.Numbered :=
    FileStore.numbered_of_entries (by decide +kernel)
  have hstopped : (first.afterAll s [.step 0]).state = .stopped := by decide +kernel
  have hfinished : (first.afterAll s [.step 0]).finished = some (.aborted ⟨"gone", none⟩) := by decide +kernel
  have hnone : (first.afterAll s [.step 0]).metadata.abort = none := by decide +kernel
  have hsound : first.course.Sound := sound_afterAll _ s [.start]
  have hhost : ∀ error, Move.stop error ∈ [Move.step 0] → error = none := by simp
  have honce : first.StartsOnce s [.step 0] := by simp [StartsOnce, Happens]
  have hspared : first.AllSpared s [.step 0] := by simp [AllSpared]
  refine ⟨hstopped, ?_, fun reason hends => ?_⟩
  · obtain ⟨hpending, -⟩ | ⟨-, reason, noted, hends, -⟩ :=
      pending_afterAll hsound (pending_start hbegins hempty) hhost honce hspared
    · exact absurd hstopped hpending.state
    · obtain rfl := Option.some.inj (hends.finished.symm.trans hfinished)
      obtain rfl : noted = none := hends.metadata.symm.trans hnone
      exact hends
  · obtain rfl := Option.some.inj (hends.finished.symm.trans hfinished)
    have hsome : (first.afterAll s [.step 0]).metadata.abort = some ⟨"gone", none⟩ := hends.metadata
    exact absurd (hsome.symm.trans hnone) (Option.some_ne_none _)

end Run

end FieldStudy
