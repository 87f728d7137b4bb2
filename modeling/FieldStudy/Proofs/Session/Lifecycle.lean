import Mathlib.Data.List.Basic
import Mathlib.Tactic.Common
import FieldStudy.Proofs.Run.Accounts
import FieldStudy.Proofs.Run.Periods
import FieldStudy.Proofs.Session.Start

/-!
# One run at a time

A run may come to its end without the host, and the session refers to it until the host asks for what is left of it or
starts another one.  So each call of the host may find the current run under way, paused, stopped or missing, and runs
that are no longer the current one may still have tasks that take a last step.  In any order of all this no run goes on
but the current one (`Ensemble.Lone`).
-/

namespace FieldStudy

/-! ## Runs -/

namespace Run

variable {r : Run} {s : Setup}

lemma within_releaseFiles (r : Run) : r.files.Within r.releaseFiles.files := .of_find? r.desk.released_same.1

lemma finished_stop (s : Setup) (hstate : r.state ≠ .stopped) : (r.stop s none).finished = some .completed := by
  rw [r.stop_eq s none hstate]
  rfl

/-- A run that cannot be started is stopped. -/
lemma state_start_of_error (hfails : (r.start s).1.isOk = false) : (r.start s).2.state = .stopped := by
  by_cases hstate : r.state = .stopped
  · obtain ⟨hok, -⟩ | ⟨-, hsame⟩ := r.verdict_start s hstate
    · rw [hok] at hfails
      cases hfails
    · exact (congrArg Prod.fst hsame).trans hstate
  · rw [start, if_pos hstate] at hfails
    cases hfails

end Run

/-! ## Ensembles -/

namespace Ensemble

variable {x : Ensemble} {k : Option Nat} {i j : Nat} {e : LiveRun} {r : Run} {s : Setup} {m : Move}

/-- No run goes on but one, if any, and how each of the others has ended is told. -/
structure Lone (k : Option Nat) (x : Ensemble) : Prop where
  valid : ∀ i, k = some i → i < x.runs.length
  live : ∀ (i : Nat) (e : LiveRun), x.runs[i]? = some e → e.run.state ≠ .stopped → k = some i
  announced : ∀ (i : Nat) (e : LiveRun), x.runs[i]? = some e → e.run.Announced

lemma of_live? (h : x.live? i = some e) : ∃ r, x.runs[i]? = some ⟨e.setup, r⟩ ∧ e.run = x.lend r := by
  obtain ⟨e', he', rfl⟩ := Option.map_eq_some_iff.mp h
  exact ⟨e'.run, he', rfl⟩

lemma of_takeBack (h : (x.takeBack i r).runs[j]? = some e) :
    (i = j ∧ e.run = r) ∨ (i ≠ j ∧ x.runs[j]? = some e) := by
  by_cases hij : i = j
  · subst hij
    rw [takeBack, List.getElem?_modify_eq] at h
    obtain ⟨e', -, rfl⟩ := Option.map_eq_some_iff.mp h
    exact .inl ⟨rfl, rfl⟩
  · rw [x.run_takeBack_of_ne r hij] at h
    exact .inr ⟨hij, h⟩

namespace Lone

lemma announced_live (h : x.Lone k) (he : x.live? i = some e) : e.run.Announced := by
  obtain ⟨r, hr, heq⟩ := of_live? he
  rw [heq]
  exact h.announced i _ hr

lemma live_live (h : x.Lone k) (he : x.live? i = some e) (hgoes : e.run.state ≠ .stopped) : k = some i := by
  obtain ⟨r, hr, heq⟩ := of_live? he
  rw [heq] at hgoes
  exact h.live i _ hr hgoes

lemma takeBack (h : x.Lone k) (hr : r.Announced) (hlive : r.state ≠ .stopped → k = some i) :
    (x.takeBack i r).Lone k where
  valid j hj := (x.length_takeBack i r).symm ▸ h.valid j hj
  live j e he hgoes := by
    obtain ⟨rfl, rfl⟩ | ⟨-, he⟩ := of_takeBack he
    · exact hlive hgoes
    · exact h.live j e he hgoes
  announced j e he := by
    obtain ⟨rfl, rfl⟩ | ⟨-, he⟩ := of_takeBack he
    · exact hr
    · exact h.announced j e he

/-- Once the only run that may go on has stopped, none does. -/
lemma takeBack_stopped (h : x.Lone (some i)) (hr : r.Announced) (hstopped : r.state = .stopped) :
    (x.takeBack i r).Lone none where
  valid j hj := by cases hj
  live j e he hgoes := by
    obtain ⟨rfl, rfl⟩ | ⟨hij, he⟩ := of_takeBack he
    · exact absurd hstopped hgoes
    · exact absurd (Option.some.inj (h.live j e he hgoes)) hij
  announced := (h.takeBack hr fun _ => rfl).announced

lemma letGo (h : x.Lone k) (j : Nat) : (x.letGo j).Lone k := by
  rw [Ensemble.letGo]
  split
  · exact h
  · split
    · next e he =>
      split
      · exact h.takeBack ((h.announced_live he).of_settles (.inl rfl)) fun hgoes => h.live_live he hgoes
      · exact h
    · exact h

lemma dismiss (h : x.Lone k) : x.dismiss.Lone k := by
  rw [Ensemble.dismiss]
  split
  · next i _ =>
    have hleft : ({ x with current := none } : Ensemble).Lone k := ⟨h.valid, h.live, h.announced⟩
    exact hleft.letGo i
  · exact h

/-- A run makes a move.  Only the one that may go on can be paused and resumed. -/
lemma moves (h : x.Lone k) (he : x.live? i = some e)
    (hm : k = some i ∨ (m ≠ .start ∧ m ≠ .pause ∧ m ≠ .resume)) : (x.takeBack i (e.run.after e.setup m)).Lone k := by
  refine h.takeBack (Run.announced_after (h.announced_live he) m) fun hgoes => ?_
  obtain hk | ⟨hstart, hpause, hresume⟩ := hm
  · exact hk
  · have hsettles := e.run.settles_after e.setup hstart hpause hresume
    exact h.live_live he fun hstopped => hgoes (hsettles.stopped hstopped)

lemma idle (h : x.Lone x.current) (hidle : ∀ e, x.current? = some e → e.run.state = .stopped) : x.Lone none where
  valid j hj := by cases hj
  live j e he hgoes := by
    have hcurrent : x.current? = some { e with run := x.lend e.run } := by
      rw [current?, h.live j e he hgoes, Option.bind_some, live?, he]
      rfl
    exact absurd (hidle _ hcurrent) hgoes
  announced := h.announced

/-- A run joins those that have stopped. -/
lemma install (h : x.Lone none) (hr : r.Announced) : (x.install s r).Lone (some x.runs.length) := by
  have hget {j : Nat} {e : LiveRun} (he : (x.runs ++ [(⟨s, r⟩ : LiveRun)])[j]? = some e) :
      x.runs[j]? = some e ∨ (x.runs.length = j ∧ e = ⟨s, r⟩) := by
    obtain hlt | hge := Nat.lt_or_ge j x.runs.length
    · rw [List.getElem?_append_left hlt] at he
      exact .inl he
    · rw [List.getElem?_append_right hge, List.getElem?_singleton] at he
      split at he
      · next hzero => exact .inr ⟨by omega, (Option.some.inj he).symm⟩
      · cases he
  have hadded : ({ x with runs := x.runs ++ [(⟨s, r⟩ : LiveRun)] } : Ensemble).Lone (some x.runs.length) := by
    refine ⟨fun j hj => ?_, fun j e he hgoes => ?_, fun j e he => ?_⟩
    · obtain rfl := Option.some.inj hj
      simp
    · obtain he | ⟨rfl, -⟩ := hget he
      · cases h.live j e he hgoes
      · rfl
    · obtain he | ⟨-, rfl⟩ := hget he
      · exact h.announced j e he
      · exact hr
  have hleft := (hadded.takeBack (i := x.runs.length) hr fun _ => rfl).dismiss
  exact ⟨hleft.valid, hleft.live, hleft.announced⟩

end Lone

/-! ## Acting on an ensemble -/

@[simp] lemma current_letGo (x : Ensemble) (j : Nat) : (x.letGo j).current = x.current := by
  rw [letGo]
  split
  · rfl
  · split
    · split
      · rfl
      · rfl
    · rfl

@[simp] lemma current_dismiss (x : Ensemble) : x.dismiss.current = none := by
  rw [dismiss]
  split
  · rw [current_letGo]
  · assumption

lemma within_letGo (x : Ensemble) (j : Nat) : x.files.Within (x.letGo j).files := by
  rw [letGo]
  split
  · exact .refl _
  · split
    · next e he =>
      obtain ⟨r, -, heq⟩ := of_live? he
      split
      · have hreleased := e.run.within_releaseFiles
        rwa [show e.run.files = x.files by rw [heq]; rfl] at hreleased
      · exact .refl _
    · exact .refl _

lemma within_dismiss (x : Ensemble) : x.files.Within x.dismiss.files := by
  rw [dismiss]
  split
  · next i _ => exact ({ x with current := none } : Ensemble).within_letGo i
  · exact .refl _

lemma within_install (x : Ensemble) (s : Setup) (r : Run) : r.files.Within (x.install s r).files :=
  ({ x with runs := x.runs ++ [(⟨s, r⟩ : LiveRun)] }.takeBack x.runs.length r).within_dismiss

lemma within_moves (he : x.live? i = some e) (hown : ∀ shared, m ≠ .others shared) :
    x.files.Within (x.takeBack i (e.run.after e.setup m)).files := by
  obtain ⟨r, -, heq⟩ := of_live? he
  have hfiles := e.run.within_after e.setup hown
  rwa [show e.run.files = x.files by rw [heq]; rfl] at hfiles

/-- The host acts on the current run, or there is none. -/
lemma act_cases {α : Type} (x : Ensemble) (f : Setup → Run → α × Run) :
    (x.current? = none ∧ x.act f = (none, x)) ∨
      ∃ i e, x.current = some i ∧ x.live? i = some e ∧ x.current? = some e ∧
        x.act f = (some (f e.setup e.run).1, x.takeBack i (f e.setup e.run).2) := by
  cases hcurrent : x.current with
  | none =>
    have hnone : x.current? = none := by rw [current?, hcurrent]; rfl
    exact .inl ⟨hnone, by rw [act, hcurrent]⟩
  | some i =>
    have hsome : x.current? = x.live? i := by rw [current?, hcurrent]; rfl
    cases he : x.live? i with
    | none => exact .inl ⟨hsome.trans he, by rw [act, hcurrent, hsome, he]⟩
    | some e => exact .inr ⟨i, e, rfl, he, hsome.trans he, by rw [act, hcurrent, hsome, he]⟩

/-- A run makes a move, whether it is the current one or not. -/
def runMoves (x : Ensemble) (i : Nat) (m : Move) : Ensemble :=
  match x.live? i with
  | some e => x.takeBack i (e.run.after e.setup m)
  | none => x

lemma step?_cases {id : TaskId} {y : Ensemble} (h : x.step? id = some y) :
    ∃ e, x.live? id.run = some e ∧ y = (x.takeBack id.run (e.run.after e.setup (.step id.task))).letGo id.run := by
  obtain ⟨e, he, hstep⟩ := Option.bind_eq_some_iff.mp h
  obtain ⟨r, hr, rfl⟩ := Option.map_eq_some_iff.mp hstep
  exact ⟨e, he, by rw [Run.after, hr, Option.getD_some]⟩

/-- What becomes of an ensemble: no run goes on but the current one, and no file or folder is taken away. -/
structure Kept (x y : Ensemble) : Prop where
  lone : y.Lone y.current
  files : x.files.Within y.files

lemma Kept.refl (h : x.Lone x.current) : x.Kept x := ⟨h, .refl _⟩

lemma kept_moves (h : x.Lone x.current) (he : x.live? i = some e)
    (hm : x.current = some i ∨ (m ≠ .start ∧ m ≠ .pause ∧ m ≠ .resume)) (hown : ∀ shared, m ≠ .others shared) :
    x.Kept (x.takeBack i (e.run.after e.setup m)) where
  lone := h.moves he hm
  files := within_moves he hown

lemma kept_runMoves (h : x.Lone x.current) (i : Nat) (hstart : m ≠ .start) (hpause : m ≠ .pause)
    (hresume : m ≠ .resume) (hown : ∀ shared, m ≠ .others shared) : x.Kept (x.runMoves i m) := by
  rw [runMoves]
  split
  · next e he => exact kept_moves h he (.inr ⟨hstart, hpause, hresume⟩) hown
  · exact .refl h

lemma kept_step (h : x.Lone x.current) (id : TaskId) : x.Kept ((x.step? id).getD x) := by
  cases hstep : x.step? id with
  | none => exact .refl h
  | some y =>
    obtain ⟨e, he, rfl⟩ := step?_cases hstep
    have hmoves := kept_moves (m := .step id.task) h he (.inr (by simp)) (by simp)
    rw [Option.getD_some]
    refine ⟨?_, hmoves.files.trans (within_letGo _ _)⟩
    rw [current_letGo]
    exact hmoves.lone.letGo id.run

end Ensemble

namespace Session

variable {x : Session} {d : Definition} {profile : Profile} {devices : List Device}

/-! ## Steps of a session -/

/-- A call of the host, or what happens in between: any of the runs that were ever started may go on. -/
inductive Step
  | start (d : Definition) (profile : Profile) (devices : List Device)
  | pause
  | resume
  | stop
  | cancel
  /-- A step of a branch. -/
  | branch (id : TaskId)
  | answer (run id : Nat) (a : Answer)
  | sample (run : Nat) (role sensor : String) (timestamp : UInt64) (values : List Single)
  /-- Time passes, and tasks line up. -/
  | passes (agenda : Agenda)

def after (x : Session) : Step → Session
  | .start d profile devices => (x.start d profile devices).2
  | .pause => x.pause
  | .resume => x.resume
  | .stop => x.stop.2
  | .cancel => x.cancel.2
  | .branch id => { x with ensemble := (x.ensemble.step? id).getD x.ensemble }
  | .answer run id a => { x with ensemble := x.ensemble.runMoves run (.answer id a) }
  | .sample run role sensor timestamp values =>
    { x with ensemble := x.ensemble.runMoves run (.sample role sensor timestamp values) }
  | .passes agenda => { x with ensemble := x.ensemble.withAgenda fun _ => agenda }

def afterAll (x : Session) (steps : List Step) : Session := steps.foldl after x

/-- No run goes on but the current one. -/
def Governed (x : Session) : Prop := x.ensemble.Lone x.ensemble.current

lemma governed_initial (config : Config) (root : Path) (backend : Backend) (files : FileStore)
    (occasions : Nat → Occasion) : (initial config root backend files occasions).Governed where
  valid i hi := by cases hi
  live i e he := by cases he
  announced i e he := by cases he

/-- The current run makes a move. -/
lemma kept_act (h : x.Governed) {α : Type} {f : Setup → Run → α × Run} {m : Move}
    (hf : ∀ s r, (f s r).2 = r.after s m) (hown : ∀ shared, m ≠ .others shared) :
    x.ensemble.Kept (x.act f).2.ensemble := by
  show x.ensemble.Kept (x.ensemble.act f).2
  obtain ⟨-, hact⟩ | ⟨i, e, hi, he, -, hact⟩ := x.ensemble.act_cases f
  · rw [hact]
    exact .refl h
  · rw [hact]
    dsimp only
    rw [hf]
    exact Ensemble.kept_moves h he (.inl hi) hown

lemma of_active?_eq_none (h : x.active? = none) : ∀ e, x.current? = some e → e.run.state = .stopped := by
  intro e he
  rw [active?, he] at h
  by_contra hgoes
  simp [Option.filter, hgoes] at h

/-- The session as it is before the new run starts: the files may have got a folder. -/
def furnished (x : Session) (files : FileStore) : Ensemble := { x.ensemble with files }

/-- A start that does not return the session as it was has made a run in the folder of the time, which has started or been
dropped. -/
lemma start_cases (x : Session) (d : Definition) (profile : Profile) (devices : List Device) :
    (x.start d profile devices).2 = x ∨
      (∀ e, x.current? = some e → e.run.state = .stopped) ∧ ∃ files r, x.ensemble.files.Within files ∧
        ((∃ e, ((x.furnished files).newRun (x.setupOf d profile devices)).start (x.setupOf d profile devices) =
            (.error e, r) ∧
          x.start d profile devices =
            (.error e, { x with ensemble := x.furnished r.files, folders := x.folders + 1 })) ∨
        (((x.furnished files).newRun (x.setupOf d profile devices)).start (x.setupOf d profile devices) = (.ok (), r) ∧
          x.start d profile devices =
            (.ok (), { x with
              ensemble := (x.furnished files).install (x.setupOf d profile devices) r
              folders := x.folders + 1 }))) := by
  rw [start]
  split
  · exact .inl rfl
  · next hidle =>
    dsimp only
    split
    · exact .inl rfl
    · split
      · exact .inl rfl
      · next files hfolders =>
        refine .inr ⟨of_active?_eq_none hidle, files, ?_⟩
        have hwithin := (FileStore.createFoldersFrom_furnished hfolders).within
        split
        · next e r hstart => exact ⟨r, hwithin, .inl ⟨e, hstart, rfl⟩⟩
        · next r hstart => exact ⟨r, hwithin, .inr ⟨hstart, rfl⟩⟩

lemma within_newRun {files : FileStore} {s : Setup} {r : Run} {answer : Except ScenarioError Unit}
    (h : ((x.furnished files).newRun s).start s = (answer, r)) : files.Within r.files := by
  have hwithin := ((x.furnished files).newRun s).within_after s (m := .start) (by simp)
  rw [Run.after, h] at hwithin
  exact hwithin

/-- A start finds no run that goes on, or it changes nothing. -/
lemma kept_start (h : x.Governed) (d : Definition) (profile : Profile) (devices : List Device) :
    x.ensemble.Kept (x.start d profile devices).2.ensemble := by
  obtain hsame | ⟨hidle, files, r, hwithin, hmade⟩ := x.start_cases d profile devices
  · rw [hsame]
    exact .refl h
  · obtain ⟨e, hstart, hresult⟩ | ⟨hstart, hresult⟩ := hmade
    · rw [hresult]
      exact ⟨⟨h.valid, h.live, h.announced⟩, hwithin.trans (within_newRun hstart)⟩
    · rw [hresult]
      have hbegins : ((x.furnished files).newRun (x.setupOf d profile devices)).begins (x.setupOf d profile devices)
          .start = true := by
        rw [Run.begins, hstart]
        rfl
      have hannounced := Run.announced_start hbegins
      rw [Run.after, hstart] at hannounced
      have hquiet := h.idle hidle
      have hfurnished : (x.furnished files).Lone none := ⟨hquiet.valid, hquiet.live, hquiet.announced⟩
      refine ⟨hfurnished.install hannounced, ?_⟩
      exact (hwithin.trans (within_newRun hstart)).trans (Ensemble.within_install _ _ r)

/-- The end of a run that the host stops, with what is left of it. -/
def leave (s : Setup) (r : Run) : Acquisition × Run :=
  let reason := (r.stop s none).finished.getD .completed
  (⟨s.folder, reason, reason.keepsData⟩, r.stop s none)

lemma stop_eq (x : Session) : x.stop = ((x.act leave).1, (x.act leave).2.dismiss) := rfl

/-- Stopping leaves no run that goes on, so none needs to be the current one. -/
lemma kept_dismissed (h : x.Governed) {α : Type} {f : Setup → Run → α × Run}
    (hf : ∀ s r, (f s r).2 = r.stop s none) : x.ensemble.Kept (x.act f).2.dismiss.ensemble := by
  show x.ensemble.Kept (x.ensemble.act f).2.dismiss
  have hkept (y : Ensemble) (hlone : y.Lone none) (hfiles : x.ensemble.files.Within y.files) :
      x.ensemble.Kept y.dismiss := by
    refine ⟨?_, hfiles.trans y.within_dismiss⟩
    rw [Ensemble.current_dismiss]
    exact hlone.dismiss
  obtain ⟨hnone, hact⟩ | ⟨i, e, hi, he, -, hact⟩ := x.ensemble.act_cases f
  · rw [hact]
    exact hkept _ (h.idle fun e he => by rw [hnone] at he; cases he) (.refl _)
  · rw [hact]
    dsimp only
    rw [hf]
    have hannounced := Run.announced_after (s := e.setup) (h.announced_live he) (.stop none)
    have hlone : x.ensemble.Lone (some i) := hi ▸ h
    exact hkept _ (hlone.takeBack_stopped hannounced (e.run.state_stop e.setup none))
      (Ensemble.within_moves (m := .stop none) he (by simp))

lemma governed_cancel (h : x.Governed) : x.cancel.2.Governed := by
  rw [cancel]
  split
  · exact h
  · have hstopped := (kept_dismissed h (f := fun s r => ((), r.stop s none)) fun _ _ => rfl).lone
    dsimp only
    split
    · exact hstopped
    · split
      · exact ⟨hstopped.valid, hstopped.live, hstopped.announced⟩
      · exact hstopped

/-- One step, whatever it finds.  A cancellation does the same and then takes a folder away. -/
lemma kept_after (h : x.Governed) {step : Step} (hcancel : step ≠ .cancel) :
    x.ensemble.Kept (x.after step).ensemble := by
  cases step with
  | start d profile devices => exact kept_start h d profile devices
  | pause => exact kept_act h (m := .pause) (fun _ _ => rfl) (by simp)
  | resume => exact kept_act h (m := .resume) (fun _ _ => rfl) (by simp)
  | stop => exact kept_dismissed h (f := leave) fun _ _ => rfl
  | cancel => exact absurd rfl hcancel
  | branch id => exact Ensemble.kept_step h id
  | answer run id a => exact Ensemble.kept_runMoves h run (by simp) (by simp) (by simp) (by simp)
  | sample run role sensor timestamp values =>
    exact Ensemble.kept_runMoves h run (by simp) (by simp) (by simp) (by simp)
  | passes agenda => exact ⟨⟨h.valid, h.live, h.announced⟩, .refl _⟩

lemma governed_after (h : x.Governed) (step : Step) : (x.after step).Governed := by
  by_cases hcancel : step = .cancel
  · subst hcancel
    exact governed_cancel h
  · exact (kept_after h hcancel).lone

lemma governed_afterAll (h : x.Governed) (steps : List Step) : (x.afterAll steps).Governed := by
  induction steps generalizing x with
  | nil => exact h
  | cons step rest ih => exact ih (governed_after h step)

/-! ## Starts that are refused -/

lemma start_refused (profile : Profile)
    (h : (∃ e, x.current? = some e ∧ e.run.state ≠ .stopped) ∨ (∀ dev ∈ devices, ¬ dev.Suits d.info.required)) :
    ∃ error, x.start d profile devices = (.error error, x) := by
  have hstarted := x.started_start d profile devices
  generalize x.start d profile devices = answer at hstarted ⊢
  cases hstarted with
  | busy hbusy => exact ⟨_, rfl⟩
  | unsuited hidle hnone => exact ⟨_, rfl⟩
  | unstored hidle hsome | starts hidle hsome =>
    obtain ⟨e, he, hgoes⟩ | hnone := h
    · exact absurd (of_active?_eq_none hidle e he) hgoes
    · obtain ⟨dev, hdev, hsuits⟩ := hsome
      exact absurd hsuits (hnone dev hdev)

lemma runs_start_of_error (hfails : (x.start d profile devices).1.isOk = false) :
    (x.start d profile devices).2.ensemble.runs = x.ensemble.runs ∧
      (x.start d profile devices).2.ensemble.current = x.ensemble.current := by
  obtain hsame | ⟨-, files, r, -, ⟨e, -, hresult⟩ | ⟨-, hresult⟩⟩ := x.start_cases d profile devices
  · rw [hsame]
    exact ⟨rfl, rfl⟩
  · rw [hresult]
    exact ⟨rfl, rfl⟩
  · rw [hresult] at hfails
    cases hfails

/-! ## What is left of a run -/

/-- The data of a run that is stopped are given up exactly if it had failed before. -/
lemma leave_of_announced {s : Setup} {r : Run} (h : r.Announced) :
    (r.stop s none).finished = some (leave s r).1.reason ∧
      ((leave s r).1.keepData = false ↔ ∃ message, r.finished = some (.failed message)) := by
  rw [leave]
  by_cases hstate : r.state = .stopped
  · obtain ⟨reason, hreason⟩ := Option.isSome_iff_exists.mp (h.mp hstate)
    rw [Run.stop, if_pos hstate, hreason]
    refine ⟨rfl, ?_⟩
    cases reason <;> simp [StopReason.keepsData]
  · have hnone : r.finished = none := by simpa [Run.Announced, hstate] using h
    rw [Run.finished_stop s hstate, hnone]
    exact ⟨rfl, by simp [StopReason.keepsData]⟩

lemma isSome_stop (h : x.Governed) : x.stop.1.isSome = x.ensemble.current.isSome := by
  rw [stop_eq]
  show (x.ensemble.act leave).1.isSome = x.ensemble.current.isSome
  obtain ⟨hnone, hact⟩ | ⟨i, e, hi, -, -, hact⟩ := x.ensemble.act_cases leave
  · rw [hact]
    cases hi : x.ensemble.current with
    | none => rfl
    | some i =>
      -- The number of the current run is in range.
      rw [Ensemble.current?, hi, Option.bind_some, Ensemble.live?, List.getElem?_eq_getElem (h.valid i hi)] at hnone
      cases hnone
  · rw [hact, hi]
    rfl

lemma of_stop (h : x.Governed) {e : LiveRun} {a : Acquisition} (he : x.current? = some e) (ha : x.stop.1 = some a) :
    a.folder = e.setup.folder ∧ (e.run.stop e.setup none).finished = some a.reason ∧
      (a.keepData = false ↔ ∃ message, e.run.finished = some (.failed message)) := by
  have hcurrent : x.ensemble.current? = some e := he
  have hstop : (x.ensemble.act leave).1 = some a := ha
  obtain ⟨hnone, -⟩ | ⟨i, e', -, hlive, he', hact⟩ := x.ensemble.act_cases leave
  · rw [hcurrent] at hnone
    cases hnone
  · obtain rfl : e' = e := Option.some.inj (he'.symm.trans hcurrent)
    rw [hact] at hstop
    obtain rfl := Option.some.inj hstop
    exact ⟨rfl, leave_of_announced (h.announced_live hlive)⟩

/-- In any order of calls of the host, steps of branches and answers, no run goes on but the current one.

A start is refused, and changes nothing, while the current run goes on or if no device suits; a run that cannot be
started for another reason is stopped and not among the runs, and the current one stays.  Stopping reports on the
current run if there is one, and gives its data up exactly if it has failed.  Only a cancellation takes files or folders
away.  The clock of the host may show any times, so that two runs may have the same folder, and what still runs on the
devices when a run stops may be stopped in any order.  -/
theorem one_run_at_a_time (config : Config) (root : Path) (backend : Backend) (files : FileStore)
    (occasions : Nat → Occasion) (steps : List Step) :
    let x := (initial config root backend files occasions).afterAll steps
    (∀ (i : Nat) (e : LiveRun), x.ensemble.runs[i]? = some e → e.run.state ≠ .stopped →
      x.ensemble.current = some i) ∧
    (∀ d profile devices,
      ((∃ e, x.current? = some e ∧ e.run.state ≠ .stopped) ∨ (∀ dev ∈ devices, ¬ dev.Suits d.info.required) →
        ∃ error, x.start d profile devices = (.error error, x)) ∧
      ((x.start d profile devices).1.isOk = false →
        (x.start d profile devices).2.ensemble.runs = x.ensemble.runs ∧
          (x.start d profile devices).2.ensemble.current = x.ensemble.current) ∧
      ∀ files, let s := x.setupOf d profile devices
        (((x.furnished files).newRun s).start s).1.isOk = false →
          (((x.furnished files).newRun s).start s).2.state = .stopped) ∧
    x.stop.1.isSome = x.ensemble.current.isSome ∧
    (∀ e a, x.current? = some e → x.stop.1 = some a →
      a.folder = e.setup.folder ∧ (e.run.stop e.setup none).finished = some a.reason ∧
        (a.keepData = false ↔ ∃ message, e.run.finished = some (.failed message))) ∧
    ∀ step, step ≠ .cancel → x.ensemble.files.Within (x.after step).ensemble.files := by
  intro x
  have hgoverned : x.Governed := governed_afterAll (governed_initial config root backend files occasions) steps
  refine ⟨hgoverned.live, fun d profile devices => ⟨start_refused profile, runs_start_of_error, fun files => ?_⟩,
    isSome_stop hgoverned, fun e a => of_stop hgoverned, fun step hcancel => (kept_after hgoverned hcancel).files⟩
  exact Run.state_start_of_error

/-- A scenario goes on, so another one is refused.  Then it is stopped, and the other one fails in its first step. -/
theorem one_run_at_a_time_two :
    let phone : Device := ⟨.mobilePhone, [], []⟩
    let node (primitive : PrimitiveName) : Definition :=
      { scenarioId := 1, content := { entry := "a", nodes := [("a", Node.ofPrimitive primitive)] } }
    let waits := node .waitNext
    let fails := node .fork
    let first := (initial {} ["data"] .none {}).afterAll [.start waits {} [phone]]
    let second := (initial {} ["data"] .none {}).afterAll
      [.start waits {} [phone], .stop, .start fails {} [phone], .branch ⟨1, 0⟩]
    (∃ e, first.ensemble.runs[0]? = some e ∧ e.run.state ≠ .stopped ∧ first.ensemble.current = some 0) ∧
      (∃ error, first.start fails {} [phone] = (.error error, first)) ∧
      (∃ a, first.stop.1 = some a ∧ a.keepData = true) ∧
      (∃ a, second.stop.1 = some a ∧ a.keepData = false) ∧
      first.ensemble.files.Within (first.after .stop).ensemble.files := by
  intro phone node waits fails
  have hlast (x : Session) (h : (x.ensemble.runs[0]?).any (fun e => e.run.state ≠ .stopped) = true) :
      ∃ e, x.ensemble.runs[0]? = some e ∧ e.run.state ≠ .stopped := by
    obtain ⟨e, he, hgoes⟩ := (Option.any_eq_true ..).mp h
    exact ⟨e, he, of_decide_eq_true hgoes⟩
  have hleft (x : Session) (state : RunState) (keeps : Bool) (hstop : x.stop.1.isSome = true)
      (h : x.current?.any (fun e => e.run.state = state ∧ (e.run.finished.getD .completed).keepsData = keeps) = true) :
      ∃ e a, x.current? = some e ∧ x.stop.1 = some a ∧ e.run.state = state ∧
        ((∃ message, e.run.finished = some (.failed message)) ↔ keeps = false) := by
    obtain ⟨e, he, hcurrent⟩ := (Option.any_eq_true ..).mp h
    obtain ⟨hstate, hkeeps⟩ := of_decide_eq_true hcurrent
    obtain ⟨a, ha⟩ := Option.isSome_iff_exists.mp hstop
    refine ⟨e, a, he, ha, hstate, ?_⟩
    rw [← hkeeps]
    cases e.run.finished with
    | none => simp [StopReason.keepsData]
    | some reason => cases reason <;> simp [StopReason.keepsData]
  obtain ⟨hlive, hstart, -, hkeep, hfiles⟩ :=
    one_run_at_a_time {} ["data"] .none {} (fun n => { time := n }) [.start waits {} [phone]]
  obtain ⟨-, -, -, hdrop, -⟩ := one_run_at_a_time {} ["data"] .none {} (fun n => { time := n })
    [.start waits {} [phone], .stop, .start fails {} [phone], .branch ⟨1, 0⟩]
  obtain ⟨e, he, hgoes⟩ := hlast ((initial {} ["data"] .none {}).afterAll [.start waits {} [phone]]) (by decide +kernel)
  obtain ⟨e₁, a₁, he₁, ha₁, hstate₁, hreason₁⟩ := hleft
    ((initial {} ["data"] .none {}).afterAll [.start waits {} [phone]]) .running true (by decide +kernel)
    (by decide +kernel)
  obtain ⟨e₂, a₂, he₂, ha₂, -, hreason₂⟩ := hleft ((initial {} ["data"] .none {}).afterAll
    [.start waits {} [phone], .stop, .start fails {} [phone], .branch ⟨1, 0⟩]) .stopped false (by decide +kernel)
    (by decide +kernel)
  have hkept : a₁.keepData = true := by simpa [hreason₁] using (hkeep e₁ a₁ he₁ ha₁).2.2
  have hdropped : a₂.keepData = false := (hdrop e₂ a₂ he₂ ha₂).2.2.mpr (hreason₂.mpr rfl)
  exact ⟨⟨e, he, hgoes, hlive 0 e he hgoes⟩, (hstart fails {} [phone]).1 (.inl ⟨e₁, he₁, by simp [hstate₁]⟩),
    ⟨a₁, ha₁, hkept⟩, ⟨a₂, ha₂, hdropped⟩, hfiles .stop (by simp)⟩

end Session

end FieldStudy
