import Mathlib.Data.List.Basic
import Mathlib.Tactic.Common
import FieldStudy.Proofs.Run.Places

/-!
# Interrupted walks

What a run keeps that is paused at will and resumed at the place of its walk (`Run.Stage`): its executions are a walk on
bare runs, the task that may go on is where that walk goes on, and whatever lasts is as it was when the walk came there.
A move has one lemma for each of its kinds (`Run.Stage.after`), and the whole run follows by induction on the moves
(`Run.stage_afterAll`).
-/

namespace FieldStudy

namespace Run

variable {r r' q c c₀ : Run} {s : Setup} {i : Nat} {t : Task} {p p₀ : Point} {T : Tally}
  {answers : List Answer}

/-! ## Stages of a walk -/

/-- How the task of the main branch stands at a point where the bare run is `c`, after some answers. -/
inductive Stands (s : Setup) (c : Run) (p : Point) (answers : List Answer) : TaskStatus → Prop
  | enters : Stands s c p answers (.entering p)
  /-- The execution has come to a wait, and nothing lasts of it yet. -/
  | waits {a b : Await} {resumption : Resumption} {node : Node} {x : Outcome × Run} {q : Run}
      (hopening : opening s c p = some (node, x)) (hshape : b.shape = a.shape) (hbare : q.bare = c)
      (hstate : q.state = .running)
      (hconcludes : ∀ rest y, Concludes s rest (.waits b resumption, q) y → Concludes s (answers ++ rest) x y) :
      Stands s c p answers (.waiting p a resumption)
  | joined (h : OwnJoin s p) : Stands s c p answers .ended

/-- A run is running or paused at a point of its walk.  At a node that joins the main branch with itself the signal of
that branch may be another one each time, and it is only what lasts that stays the same. -/
structure UnderWay (s : Setup) (c : Run) (p : Point) (answers : List Answer) (r : Run) : Prop where
  state : r.state ≠ .stopped
  tidy : r.desk.Tidy s
  level : (r.bare = c ∧ r.board.kept?.isSome = true) ∨ (OwnJoin s p ∧ r.lasting = c.lasting)
  walker : r.state = .running →
    ∃ i t, r.tasks[i]? = some t ∧ i + 1 = r.tasks.length ∧ r.isCancelled t.token = false ∧ Stands s c p answers t.status

/-- What has been seen of the main branch is a walk, and the run is at the point where that walk goes on, or it has been
stopped. -/
inductive Stage (s : Setup) (c₀ : Run) (p₀ : Point) (T : Tally) (p : Point) (r : Run) : Prop
  | underWay {c : Run} (hwalked : Walked s c₀ p₀ T.done (some p) c) (h : UnderWay s c p T.answers r)
  | stopped {place : Option Point} {c : Run} (hwalked : Walked s c₀ p₀ T.done place c) (hstate : r.state = .stopped)
      (hlasting : r.lasting = c.lasting.closed)

lemma Stands.point (h : Stands s c p answers t.status) : t.point?.getD p = p := by
  rw [Task.point?]
  generalize t.status = status at h
  cases h <;> rfl

lemma UnderWay.place (h : UnderWay s c p answers r) : r.place p = p := by
  by_cases hrunning : r.state = .running
  · obtain ⟨i, t, ht, hi, hcancelled, hstands⟩ := h.walker hrunning
    rw [place_of_last ht hi (by simp [isLive, hrunning, hcancelled]), hstands.point]
  · exact place_of_state p hrunning

/-- The task that may go on is at the point of the walk, if it is at any. -/
lemma UnderWay.point (htame : r.Tame) (h : UnderWay s c p answers r) (ht : r.tasks[i]? = some t)
    (hlive : r.isLive t.token = true) {p' : Point} (hp : t.point? = some p') : p' = p := by
  rw [← h.place, place_of_last ht (htame.last ht hlive).1 hlive, hp, Option.getD_some]

lemma UnderWay.stage (hwalked : Walked s c₀ p₀ T.done (some p) c) (h : UnderWay s c p T.answers r) :
    Stage s c₀ p₀ T (r.place p) r := by
  rw [h.place]
  exact .underWay hwalked h

lemma UnderWay.lasting (h : UnderWay s c p answers r) : r.lasting = c.lasting := by
  obtain ⟨hbare, -⟩ | ⟨-, hlasting⟩ := h.level
  · rw [← hbare, lasting_bare]
  · exact hlasting

lemma OwnJoin.opening (h : OwnJoin s p) (c : Run) : opening s c p = none := by
  obtain ⟨node, a, hnode, hok, hends⟩ := h
  simp [Run.opening, hnode, hok, hends]

/-- Where an action can be begun the run is as it was when the walk came there. -/
lemma UnderWay.bare (h : UnderWay s c p answers r) {d : Run} {x : Node × Outcome × Run}
    (hopening : opening s d p = some x) :
    r.bare = c ∧ r.board.kept?.isSome = true := by
  refine h.level.resolve_right ?_
  rintro ⟨hjoin, -⟩
  rw [hjoin.opening] at hopening
  cases hopening

/-! ## Moves of the host -/

/-- A move that changes neither what is left of the run when it is bare nor its tasks, and that does not make it go
on. -/
lemma UnderWay.unmoved (h : UnderWay s c p answers r) (hbare : r'.bare = r.bare) (htidy : r'.desk.Tidy s)
    (htasks : r'.tasks = r.tasks) (hstate : r'.state ≠ .stopped)
    (hrunning : r'.state = .running → r.state = .running ∧ r'.cancelled = r.cancelled) :
    UnderWay s c p answers r' where
  state := hstate
  tidy := htidy
  level := by
    rw [hbare, kept?_of_bare hbare, lasting_congr hbare]
    exact h.level
  walker hr' := by
    obtain ⟨hr, hcancelled⟩ := hrunning hr'
    obtain ⟨i, t, ht, hi, hlive, hstands⟩ := h.walker hr
    refine ⟨i, t, htasks ▸ ht, htasks ▸ hi, ?_, hstands⟩
    rwa [isCancelled, hcancelled]

/-- A move that leaves course and desk alone. -/
lemma UnderWay.quiet (h : UnderWay s c p answers r) {fs : List RunField} (hmodifies : Modifies fs r r')
    (hbare : r'.bare = r.bare) (htidy : r'.desk.Tidy s) (hfs : ∀ f ∈ courseFields, f ∉ fs) :
    UnderWay s c p answers r' := by
  have hstate : r'.state = r.state := hmodifies .state (hfs _ (by decide))
  have hcancelled : r'.cancelled = r.cancelled := hmodifies .cancelled (hfs _ (by decide))
  exact h.unmoved hbare htidy (hmodifies .tasks (hfs _ (by decide))) (hstate ▸ h.state)
    fun hrunning => ⟨hstate ▸ hrunning, hcancelled⟩

lemma UnderWay.pause (h : UnderWay s c p answers r) : UnderWay s c p answers (r.pause s) := by
  have hmodifies := r.modifies_pause s
  have hstate : (r.pause s).state ≠ .stopped ∧ ((r.pause s).state = .running → (r.pause s) = r) := by
    by_cases hrunning : r.state = .running
    · have hpaused : (r.pause s).state = .paused := congrArg Prod.fst (verdict_pause s hrunning)
      simp [hpaused]
    · rw [Run.pause, if_pos hrunning]
      exact ⟨h.state, fun _ => rfl⟩
  refine h.unmoved (pause_bare h.tidy) (tidy_pause h.tidy) (hmodifies .tasks (by decide)) hstate.1
    fun hrunning => ?_
  have hsame := hstate.2 hrunning
  exact ⟨hsame ▸ hrunning, congrArg cancelled hsame⟩

/-- A run that is resumed under its former signal is as it was, bare. -/
lemma resume_bare (hkept : r.board.kept?.isSome = true) : (r.resume s).bare = r.bare := by
  have hboard := r.board_resume s
  have hmodifies := r.modifies_resume s
  obtain ⟨done, hdone⟩ := Option.isSome_iff_exists.mp hkept
  have hsame : (r.resume s).signals = r.signals ∧ (r.resume s).branches = r.branches := by
    rw [deeds] at hboard
    split at hboard
    · rw [Board.afterAll_cons, Board.afterAll_nil, Board.after, hdone] at hboard
      exact ⟨congrArg Board.signals hboard, congrArg Board.branches hboard⟩
    · exact ⟨congrArg Board.signals hboard, congrArg Board.branches hboard⟩
  have hrest : Modifies [.state, .token, .tokens, .notices, .tasks, .agenda] r (r.resume s) := by
    intro f hf
    cases f with
    | signals => exact hsame.1
    | branches => exact hsame.2
    | _ => exact hmodifies _ (by first | decide | exact absurd (by decide) hf)
  exact hrest.bare (by decide)

/-- Resuming lets all that lasts as it is. -/
lemma resume_lasting (r : Run) (s : Setup) : (r.resume s).lasting = r.lasting := by
  have hmodifies := r.modifies_resume s
  have hevents : (r.resume s).events = r.events := hmodifies .events (by decide)
  refine hmodifies.lasting_of_events (by decide) ?_
  funext name
  rw [eventValue?, eventValue?, hevents]
  refine congrArg (fun f => (r.events.get? name).map f) ?_
  have hboard := r.board_resume s
  rw [deeds] at hboard
  split at hboard
  · rw [Board.afterAll_cons, Board.afterAll_nil, Board.after] at hboard
    split at hboard
    · have hsignals : (r.resume s).signals = r.signals := congrArg Board.signals hboard
      rw [hsignals]
    · have hsignals : (r.resume s).signals = r.signals.create := congrArg Board.signals hboard
      rw [hsignals]
      exact funext fun id => Signals.value?_create _ _
  · have hsignals : (r.resume s).signals = r.signals := congrArg Board.signals hboard
    rw [hsignals]

/-- What is added by resuming a paused run: a task that enters the point entered last. -/
lemma resumed (hpaused : r.state = .paused) :
    (r.resume s).state = .running ∧ ∃ t, (r.resume s).tasks = r.tasks ++ [t] ∧
      t.status = .entering (r.point.getD ⟨s.entry, none⟩) := by
  have hrunning : (r.resume s).state = .running := congrArg Prod.fst (verdict_resume s hpaused)
  refine ⟨hrunning, ?_⟩
  obtain hsame | ⟨-, t, -, hcourse⟩ := r.resume_cases s
  · rw [hsame, hpaused] at hrunning
    cases hrunning
  · have htasks : (r.resume s).tasks = r.tasks ++ [t] := congrArg Course.tasks hcourse
    refine ⟨t, htasks, ?_⟩
    have horigin := (r.adds_after s .resume).origin t (by rw [after, htasks, List.getElem?_concat_length])
    cases horigin with
    | resumes => rfl

/-- The task with which a walk has begun may go on. -/
lemma Begins.live (h : r.Begins r') (hsound : r'.course.Sound) (htasks : r'.tasks = r.tasks ++ [t]) :
    r'.isCancelled t.token = false := by
  obtain ⟨u, htoken, hcourse⟩ := h
  obtain rfl : t = u := List.singleton_inj.mp
    (List.append_cancel_left (htasks.symm.trans (congrArg Course.tasks hcourse : r'.tasks = r.tasks ++ [u])))
  have hrunning : r'.state = .running := congrArg Course.state hcourse
  have hcurrent : r'.token = r.tokens := congrArg Course.token hcourse
  have hlive : r'.token ∉ r'.cancelled := hsound.current hrunning
  rw [htoken, ← hcurrent]
  simpa [isCancelled] using hlive

lemma UnderWay.resume (htame : r.Tame) (h : UnderWay s c p answers r) (hpermits : r.Permits s p .resume) :
    UnderWay s c p answers (r.resume s) := by
  by_cases hpaused : r.state = .paused
  · obtain ⟨hrunning, t, htasks, hstatus⟩ := resumed (s := s) hpaused
    rw [show r.point.getD ⟨s.entry, none⟩ = p from hpermits hpaused] at hstatus
    have hbegins : r.Begins (r.resume s) := by
      obtain hsame | ⟨-, hbegins⟩ := r.resume_cases s
      · rw [hsame, hpaused] at hrunning
        cases hrunning
      · exact hbegins
    have hlive := hbegins.live (htame.sound.leads (r.course_after s .resume)) htasks
    refine ⟨by simp [hrunning], r.desk_resume s ▸ h.tidy, ?_,
      fun _ => ⟨r.tasks.length, t, ?_, ?_, hlive, hstatus ▸ .enters⟩⟩
    · obtain ⟨hbare, hkept⟩ | ⟨hjoin, hlasting⟩ := h.level
      · have hsame := resume_bare (s := s) hkept
        exact .inl ⟨hsame.trans hbare, kept?_of_bare hsame ▸ hkept⟩
      · exact .inr ⟨hjoin, (r.resume_lasting s).trans hlasting⟩
    · rw [htasks, List.getElem?_concat_length]
    · rw [htasks, List.length_append, List.length_singleton]
  · rw [Run.resume, if_pos hpaused]
    exact h

/-! ## Steps -/

/-- What is counted of a step of the main branch. -/
lemma tally_live {turn : Turn} (T : Tally) (ht : r.tasks[i]? = some t) (hlive : r.isLive t.token = true)
    (hmain : t.branch = mainBranch) (hturn : r.turn? s i = some (p, turn)) :
    r.tally s T (.step i) = T.note p.node (r.heard T.answers t.status) turn.result? := by
  simp [tally, ht, hlive, hmain, hturn]

/-- Whoever may not go on is not counted. -/
lemma tally_idle (T : Tally) (hidle : ∀ t, r.tasks[i]? = some t → r.isLive t.token = false ∨ r.turn? s i = none) :
    r.tally s T (.step i) = T := by
  rw [tally]
  split
  · next t ht =>
    obtain hlive | hturn := hidle t ht
    · simp [hlive]
    · simp [hturn]
  · rfl

/-- The task that goes on, the last one. -/
structure Alone (r : Run) (i : Nat) (t : Task) : Prop where
  task : r.tasks[i]? = some t
  last : i + 1 = r.tasks.length
  live : r.isLive t.token = true

/-- The task has taken a step. -/
lemma Alone.moved (h : r.Alone i t) {status : TaskStatus}
    (htasks : r'.tasks = r.tasks.modify i fun t => { t with status }) (hstate : r'.state = r.state)
    (hcancelled : r'.cancelled = r.cancelled) : r'.Alone i { t with status } where
  task := by rw [htasks, List.getElem?_modify_eq, h.task, Option.map_eq_map, Option.map_some]
  last := by rw [htasks, List.length_modify, h.last]
  live := (isLive_congr hstate hcancelled _).trans h.live

lemma Alone.underWay (h : r.Alone i t) (htidy : r.desk.Tidy s)
    (hlevel : (r.bare = c ∧ r.board.kept?.isSome = true) ∨ (OwnJoin s p ∧ r.lasting = c.lasting))
    (hstands : Stands s c p answers t.status) : UnderWay s c p answers r := by
  obtain ⟨hrunning, hcancelled⟩ := of_isLive h.live
  exact ⟨by simp [hrunning], htidy, hlevel, fun _ => ⟨i, t, h.task, h.last, hcancelled, hstands⟩⟩

/-- A step that does not end the main branch keeps its signal. -/
lemma kept?_step (htame : r.Tame) (hkept : r.board.kept?.isSome = true) {turn : Turn}
    (ht : r.tasks[i]? = some t) (hturn : r.turn? s i = some (p, turn)) (hend : turn.isEnd = false)
    (hbranches : (r.after s (.step i)).branches = r.branches) : (r.after s (.step i)).board.kept?.isSome = true := by
  obtain ⟨given, hgiven⟩ := htame.assigned
  obtain ⟨done, hdone⟩ := Option.isSome_iff_exists.mp hkept
  obtain ⟨hbranch, hopen⟩ := Option.filter_eq_some_iff.mp hdone
  refine Option.isSome_iff_exists.mpr ⟨done, Option.filter_eq_some_iff.mpr ⟨?_, ?_⟩⟩
  · show (r.after s (.step i)).branches.get? mainBranch = some done
    rw [hbranches]
    exact hbranch
  · by_contra hresolved
    have hboard := r.board_after s (.step i)
    rw [hboard] at hresolved
    obtain hbefore | hby := (Board.isResolved_afterAll hgiven _ done).mp (by simpa using hresolved)
    · simp [hbefore] at hopen
    · obtain ⟨name, -, hevent⟩ | hends := (resolves_deeds (.step i)).mp hby
      · -- The signal of the branch is none of an event.
        have huse := hgiven.event name done hevent
        rw [hgiven.branch _ _ hbranch] at huse
        cases huse
      · obtain ⟨htrue, -⟩ := (ends_step_iff ht hturn).mp hends
        rw [hend] at htrue
        cases htrue

lemma step?_of_turn? {turn : Turn} (hturn : r.turn? s i = some (p, turn)) :
    r.step? s i = some (r.after s (.step i)) := by
  have hsome := r.turn?_isSome s i
  rw [hturn, Option.isSome_some] at hsome
  obtain ⟨r', hr'⟩ := Option.isSome_iff_exists.mp hsome.symm
  rw [after, hr', Option.getD_some]

/-- The main branch before its step, at the point of its walk. -/
structure Ready (s : Setup) (r : Run) (p : Point) (c : Run) (i : Nat) (t : Task) : Prop extends Alone r i t where
  main : t.branch = mainBranch
  bare : r.bare = c
  kept : r.board.kept?.isSome = true
  tidy : r.desk.Tidy s

lemma Ready.tidy_after (h : r.Ready s p c i t) {turn : Turn} (hturn : r.turn? s i = some (p, turn))
    (hstate : (r.after s (.step i)).state = .running) : (r.after s (.step i)).desk.Tidy s := by
  have hlone (u : Task) (hu : r.tasks[i]? = some u) (_ : r.isCancelled u.token = false) : u.branch = mainBranch :=
    Option.some.inj (hu.symm.trans h.task) ▸ h.main
  exact tidy_step hlone h.tidy (step?_of_turn? hturn) (by simp [hstate])

/-- The action waits, and nothing of it lasts. -/
lemma Ready.waits (hforks : s.definition.ForkFree) (h : r.Ready s p c i t) {a : Await} {resumption : Resumption}
    {node : Node} {z : Outcome × Run} (hworked : r.Worked s i t p (.acted node (.waits a resumption)) q)
    (hturn : r.turn? s i = some (p, .acted node (.waits a resumption)))
    (hclose : r.after s (.step i) = q.close s i t p (.acted node (.waits a resumption)))
    (hrenders : Renders r (.waits a resumption, q) z) :
    (r.after s (.step i)).Ready s p c i { t with status := .waiting p a resumption } ∧
      (r.after s (.step i)).prompts = q.prompts := by
  obtain ⟨hbare, hstate⟩ := hrenders.waits a resumption rfl
  have hsteady := hworked.steady hforks hstate
  have hsuspend : Modifies [.agenda, .tasks] q (q.suspend i p a resumption) := by
    rw [suspend]
    split <;>
    · intro f hf
      cases f <;> first | rfl | simp at hf
  have htasks : (q.suspend i p a resumption).tasks = q.tasks.modify i fun t =>
      { t with status := .waiting p a resumption } := by
    rw [suspend]
    split <;> rfl
  have hafter : r.after s (.step i) = q.suspend i p a resumption := hclose
  rw [← hafter] at hsuspend htasks
  have hsame : (r.after s (.step i)).bare = r.bare := (hsuspend.bare (by decide)).trans hbare
  have hcancelled : (r.after s (.step i)).cancelled = r.cancelled :=
    (hsuspend .cancelled (by decide) : _ = q.cancelled).trans (hsteady .cancelled (by decide))
  have hrunning : (r.after s (.step i)).state = .running := (hsuspend .state (by decide) : _ = q.state).trans hstate
  have hmoved := htasks.trans (congrArg (fun tasks => List.modify tasks i _) (hsteady .tasks (by decide)))
  exact ⟨⟨h.toAlone.moved hmoved (hrunning.trans (of_isLive h.live).1.symm) hcancelled, h.main, hsame.trans h.bare,
    kept?_of_bare hsame ▸ h.kept, h.tidy_after hturn hrunning⟩, hsuspend .prompts (by decide)⟩

/-- The action ends with a code that has a successor. -/
lemma Ready.passesOn (hforks : s.definition.ForkFree) (htame : r.Tame) (h : r.Ready s p c i t) {node : Node}
    {code : Int}
    {next : String} (hworked : r.Worked s i t p (.acted node (.done code)) q)
    (hturn : r.turn? s i = some (p, .acted node (.done code)))
    (hclose : r.after s (.step i) = q.close s i t p (.acted node (.done code)))
    (hnext : node.successor? code = some next) (hrunning : q.state = .running) :
    (r.after s (.step i)).Ready s ⟨next, some code⟩ q.bare i { t with status := .entering ⟨next, some code⟩ } := by
  have hafter : r.after s (.step i) = q.setStatus i (.entering ⟨next, some code⟩) := by
    rw [hclose, close, follow, hnext]
  have hstatus := q.modifies_setStatus i (.entering ⟨next, some code⟩)
  rw [← hafter] at hstatus
  have hsteady := hworked.steady hforks hrunning
  have hstate : (r.after s (.step i)).state = .running := (hstatus .state (by decide) : _ = q.state).trans hrunning
  have hcancelled : (r.after s (.step i)).cancelled = r.cancelled :=
    (hstatus .cancelled (by decide) : _ = q.cancelled).trans (hsteady .cancelled (by decide))
  have hbranches : (r.after s (.step i)).branches = r.branches :=
    (hstatus .branches (by decide) : _ = q.branches).trans (hsteady .branches (by decide))
  have htasks : (r.after s (.step i)).tasks = r.tasks.modify i fun t =>
      { t with status := .entering ⟨next, some code⟩ } :=
    hafter ▸ congrArg (fun tasks : List Task => tasks.modify i _) (hsteady .tasks (by decide))
  exact ⟨h.toAlone.moved htasks (hstate.trans (of_isLive h.live).1.symm) hcancelled, h.main, hstatus.bare (by decide),
    kept?_step htame h.kept h.task hturn (by simp [Turn.isEnd, hnext]) hbranches, h.tidy_after hturn hstate⟩

/-- As long as the action waits the walk stays where it is. -/
lemma stands_of_waits {a : Await} {resumption : Resumption} {node : Node} {x z : Outcome × Run}
    (hopening : opening s c p = some (node, x)) (hbare : r.bare = c) (hrenders : Renders r (.waits a resumption, q) z)
    (hconcludes : ∀ rest y, Concludes s rest z y → Concludes s (answers ++ rest) x y) :
    Stands s c p answers (.waiting p a resumption) := by
  obtain ⟨hsame, hstate⟩ := hrenders.waits a resumption rfl
  obtain ⟨o, y⟩ := z
  have hshape : (Outcome.waits a resumption).shape = o.shape := hrenders.same.outcome
  cases o with
  | waits b resumption' =>
    obtain ⟨hawait, rfl⟩ := Outcome.waits.inj hshape
    have hy : y.bare = c := (hrenders.same.run.symm.trans hsame).trans hbare
    exact .waits hopening hawait.symm hy (hrenders.state.trans hstate) hconcludes
  | done code => cases hshape
  | fails e => cases hshape

lemma Outcome.eq_of_shape {o o' : Outcome} (ho : o.IsEnd) (h : o.shape = o'.shape) : o' = o := by
  cases o with
  | waits a resumption => exact ho.elim
  | done code => cases o' <;> first | exact h.symm | cases h
  | fails e => cases o' <;> first | exact h.symm | cases h

/-- The action comes to its end. -/
lemma Ready.ends (hforks : s.definition.ForkFree) (htame : r.Tame) (h : r.Ready s p c i t) {node : Node} {o : Outcome}
    {x z : Outcome × Run} {es : List Execution} {result : Except ScenarioError Int}
    (hwalked : Walked s c₀ p₀ es (some p) c) (hworked : r.Worked s i t p (.acted node o) q)
    (hturn : r.turn? s i = some (p, .acted node o)) (hclose : r.after s (.step i) = q.close s i t p (.acted node o))
    (hopening : opening s c p = some (node, x)) (hrenders : Renders r (o, q) z) (ho : o.IsEnd)
    (hresult : o.result? = some result)
    (hconcludes : ∀ rest y, Concludes s rest z y → Concludes s (answers ++ rest) x y) :
    Stage s c₀ p₀ ⟨[], es ++ [⟨p.node, answers, result⟩]⟩ ((r.after s (.step i)).place p) (r.after s (.step i)) := by
  obtain ⟨o', y⟩ := z
  obtain rfl : o' = o := Outcome.eq_of_shape ho hrenders.same.outcome
  have hy : y.bare = q.bare := hrenders.same.run.symm
  have hystate : y.state = q.state := hrenders.state
  have hconc : Concludes s answers x (o', y) := by simpa using hconcludes [] _ (.ends y ho)
  have hwalked' := hwalked.goesOn hopening hconc hresult
  rw [hy, hystate] at hwalked'
  obtain ⟨given, hgiven⟩ := htame.assigned
  have hassigned := hgiven.afterAll (r.actionDeeds s i)
  rw [← hworked.board h.task] at hassigned
  have hmem := List.mem_of_getElem? (hworked.task h.task)
  have hstopped (error : Option ScenarioError)
      (hafter : r.after s (.step i) = ((q.resolve t.done 0).stop s error).setStatus i .ended) :
      Stage s c₀ p₀ ⟨[], es ++ [⟨p.node, answers, result⟩]⟩ ((r.after s (.step i)).place p) (r.after s (.step i)) := by
    rw [hafter]
    refine .stopped hwalked' ((q.resolve t.done 0).state_stop s error) ?_
    rw [lasting_bare, ← lasting_ended hassigned hmem hrenders.halted error]
    exact (modifies_setStatus _ i .ended).lasting (by decide)
  cases o' with
  | waits a resumption => exact ho.elim
  | fails e =>
    refine hstopped (some e) (hclose.trans ?_)
    cases e with
    | cancelled => exact absurd rfl ho
    | _ => rfl
  | done code =>
    cases hnext : node.successor? code with
    | none => exact hstopped none (hclose.trans (by simp [close, follow, hnext, finishBranch, h.main]))
    | some next =>
      have hafter : r.after s (.step i) = q.setStatus i (.entering ⟨next, some code⟩) := by
        rw [hclose, close, follow, hnext]
      have hstatus := q.modifies_setStatus i (.entering ⟨next, some code⟩)
      have hplace : followed node (.done code) q.state =
          if q.state = .running then some ⟨next, some code⟩ else none := by rw [followed, hnext, Option.map_some]
      obtain hrunning | ⟨hstop, hclosed⟩ := hrenders.halted
      · rw [hplace, if_pos hrunning] at hwalked'
        have hready := h.passesOn hforks htame hworked hturn hclose hnext hrunning
        rw [place_of_last hready.task hready.last hready.live]
        exact .underWay hwalked' (hready.underWay hready.tidy (.inl ⟨hready.bare, hready.kept⟩) .enters)
      · -- The action has stopped the run.
        refine .stopped hwalked' (hafter ▸ (hstatus .state (by decide) : _ = q.state).trans hstop) ?_
        rw [lasting_bare, ← hclosed, hafter]
        exact hstatus.lasting (by decide)

/-- The work on the action, up to its end or to a wait, as a bare run does it too. -/
lemma Ready.lands (hforks : s.definition.ForkFree) (htame : r.Tame) (h : r.Ready s p c i t) {node : Node} {o : Outcome}
    {x z : Outcome × Run} (hwalked : Walked s c₀ p₀ T.done (some p) c)
    (hturn : r.turn? s i = some (p, .acted node o)) (hworked : r.Worked s i t p (.acted node o) q)
    (hclose : r.after s (.step i) = q.close s i t p (.acted node o)) (hopening : opening s c p = some (node, x))
    (hrenders : Renders r (o, q) z)
    (hconcludes : ∀ rest y, Concludes s rest z y → Concludes s (r.heard T.answers t.status ++ rest) x y) :
    Stage s c₀ p₀ (r.tally s T (.step i)) ((r.after s (.step i)).place p) (r.after s (.step i)) := by
  rw [tally_live T h.task h.live h.main hturn]
  obtain ho | ⟨a, resumption, ho⟩ := hrenders.ends
  · obtain ⟨result, hresult⟩ : ∃ result, o.result? = some result := by
      cases o with
      | waits a resumption => exact ho.elim
      | done code => exact ⟨_, rfl⟩
      | fails e => exact ⟨_, rfl⟩
    rw [show (Turn.acted node o).result? = some result from hresult, Tally.note]
    exact h.ends hforks htame hwalked hworked hturn hclose hopening hrenders ho hresult hconcludes
  · obtain rfl : o = .waits a resumption := ho
    obtain ⟨hready, -⟩ := h.waits hforks hworked hturn hclose hrenders
    exact UnderWay.stage hwalked (hready.underWay hready.tidy (.inl ⟨hready.bare, hready.kept⟩)
      (stands_of_waits hopening h.bare hrenders hconcludes))

/-- The wait is over, as it is for a bare run that waits in the same way. -/
lemma Ready.wakes (hbackend : s.backend.Plain) (htame : r.Tame) (h : r.Ready s p c i t) {a b : Await}
    {resumption : Resumption} {node : Node} {d : Run} (hstatus : t.status = .waiting p a resumption)
    (hnode : s.definition.node? p.node = some node) (hshape : b.shape = a.shape) (hbare : d.bare = c)
    (hstate : d.state = .running) {result : Except ScenarioError Int}
    (hresult : r.waitResult? t.token a = some result) :
    ∃ o q result', r.turn? s i = some (p, .acted node o) ∧ r.Worked s i t p (.acted node o) q ∧
      r.after s (.step i) = q.close s i t p (.acted node o) ∧ d.Yields b (r.heard [] t.status) result' ∧
      Renders r (o, q) (d.proceed s result' resumption) := by
  have hturn := turn?_waiting s h.task hstatus
  rw [hresult, Option.map_some] at hturn
  obtain ⟨q, hworked, hclose⟩ := after_step_eq h.task hturn
  have hheard (id : Nat) (hid : a = .prompt id) : r.prompts.Hears id :=
    (htame.prompted.heard i t id h.task (of_isLive h.live).2 (by rw [Task.await?, hstatus, hid])).1
  obtain ⟨o, result', hacted, hyields, hrenders⟩ :=
    hworked.passing hbackend hstatus h.live hnode hheard htame.zero hshape
    (h.bare.trans hbare.symm) hstate
  rw [hacted] at hworked hclose hturn
  exact ⟨o, q, result', hturn, hworked, hclose, hyields, hrenders⟩

lemma after_of_turn?_none (hturn : r.turn? s i = none) : r.after s (.step i) = r := by
  have hsome := r.turn?_isSome s i
  rw [hturn, Option.isSome_none, eq_comm, Option.isSome_eq_false_iff, Option.isNone_iff_eq_none] at hsome
  rw [after, hsome, Option.getD_none]

/-- Nobody has a turn. -/
lemma UnderWay.waitsOn (hwalked : Walked s c₀ p₀ T.done (some p) c) (h : UnderWay s c p T.answers r)
    (hturn : r.turn? s i = none) :
    Stage s c₀ p₀ (r.tally s T (.step i)) ((r.after s (.step i)).place p) (r.after s (.step i)) := by
  rw [tally_idle T fun _ _ => .inr hturn, after_of_turn?_none hturn]
  exact h.stage hwalked

/-- At a node that does not exist the walk is lost, and the run stops; at one that joins the main branch with itself the
branch ends, and the run goes on without it. -/
lemma UnderWay.strands (htame : r.Tame) (hwalked : Walked s c₀ p₀ T.done (some p) c)
    (h : UnderWay s c p T.answers r) (ht : r.tasks[i]? = some t) (hlive : r.isLive t.token = true)
    {turn : Turn} (hturn : r.turn? s i = some (p, turn))
    (hclose : r.after s (.step i) = ({ r with point := some p } : Run).close s i t p turn)
    (hlost : turn = .lost ∨ (turn = .ownJoin ∧ OwnJoin s p)) :
    Stage s c₀ p₀ (r.tally s T (.step i)) ((r.after s (.step i)).place p) (r.after s (.step i)) := by
  obtain ⟨hi, hmain⟩ := htame.last ht hlive
  obtain ⟨hrunning, hcancelled⟩ := of_isLive hlive
  obtain ⟨given, hgiven⟩ := htame.assigned
  generalize hq : ({ r with point := some p } : Run) = q at hclose
  have hpoint : Modifies [.point] r q := by
    subst hq
    intro f hf
    cases f <;> first | rfl | simp at hf
  have htasks : q.tasks = r.tasks := hpoint .tasks (by decide)
  have hstate : q.state = .running := (hpoint .state (by decide) : q.state = r.state).trans hrunning
  have hmem : t ∈ q.tasks := htasks ▸ List.mem_of_getElem? ht
  have hlasting : q.lasting = c.lasting := (hpoint.lasting (by decide)).trans h.lasting
  rw [← hpoint.board (by decide)] at hgiven
  rw [tally_live T ht hlive hmain hturn]
  obtain rfl | ⟨rfl, hjoin⟩ := hlost
  · have hafter : r.after s (.step i) = ((q.resolve t.done 0).stop s none).setStatus i .ended := by
      rw [hclose, close, finishBranch, if_pos hmain]
    rw [hafter]
    refine .stopped hwalked ((q.resolve t.done 0).state_stop s none) ?_
    rw [← hlasting, ← lasting_ended hgiven hmem (.inl hstate) none]
    exact (modifies_setStatus _ i .ended).lasting (by decide)
  · have hafter : r.after s (.step i) = (q.resolve t.done 0).setStatus i .ended := hclose
    have hresolve := q.modifies_resolve t.done 0
    have hset := (q.resolve t.done 0).modifies_setStatus i .ended
    have hrest : Modifies [.point, .signals, .agenda, .tasks] r ((q.resolve t.done 0).setStatus i .ended) :=
      ((hpoint.mono (by decide)).trans (hresolve.mono (by decide))).trans (hset.mono (by decide))
    have hended : ((q.resolve t.done 0).setStatus i .ended).tasks =
        r.tasks.modify i fun t => { t with status := .ended } :=
      congrArg (fun tasks : List Task => tasks.modify i _) ((hresolve .tasks (by decide) : _ = q.tasks).trans htasks)
    rw [hafter]
    have halone : r.Alone i t := ⟨ht, hi, hlive⟩
    refine UnderWay.stage hwalked ((halone.moved hended (hrest .state (by decide))
      (hrest .cancelled (by decide))).underWay (hrest.desk (by decide) ▸ h.tidy) (.inr ⟨hjoin, ?_⟩) (.joined hjoin))
    rw [hset.lasting (by decide), lasting_resolve_done hgiven hmem, hlasting]

/-- The main branch takes a turn at the point of its walk. -/
lemma UnderWay.goesOn (hforks : s.definition.ForkFree) (hbackend : s.backend.Plain) (htame : r.Tame)
    (hwalked : Walked s c₀ p₀ T.done (some p) c) (h : UnderWay s c p T.answers r)
    (ht : r.tasks[i]? = some t) (hlive : r.isLive t.token = true) :
    Stage s c₀ p₀ (r.tally s T (.step i)) ((r.after s (.step i)).place p) (r.after s (.step i)) := by
  obtain ⟨hi, hmain⟩ := htame.last ht hlive
  obtain ⟨hrunning, hcancelled⟩ := of_isLive hlive
  have hstands : Stands s c p T.answers t.status := by
    obtain ⟨j, u, hu, hj, -, hstands⟩ := h.walker hrunning
    obtain rfl : j = i := by omega
    obtain rfl := Option.some.inj (hu.symm.trans ht)
    exact hstands
  have hready {x : Node × Outcome × Run} (hopening : opening s c p = some x) : r.Ready s p c i t :=
    ⟨⟨ht, hi, hlive⟩, hmain, (h.bare hopening).1, (h.bare hopening).2, h.tidy⟩
  generalize hstatus : t.status = status at hstands
  cases hstands with
  | joined => exact h.waitsOn hwalked (turn?_ended s ht hstatus)
  | enters =>
    have hturn := turn?_entering s ht hstatus
    obtain ⟨q, hworked, hclose⟩ := after_step_eq ht hturn
    obtain ⟨-, rfl, hlost⟩ | ⟨node, o, x, hopening, hacted, hrenders⟩ :=
      hworked.opening hforks hbackend hstatus hlive hmain
    · exact h.strands htame hwalked ht hlive hturn hclose hlost
    · rw [hacted] at hworked hclose hturn
      rw [(h.bare hopening).1] at hopening
      refine (hready hopening).lands hforks htame hwalked hturn hworked hclose hopening hrenders fun rest y hy => ?_
      rw [hstatus]
      exact hy
  | @waits a b resumption node x d hopening hshape hbare hstate hconcludes =>
    cases hresult : r.waitResult? t.token a with
    | none => exact h.waitsOn hwalked (by rw [turn?_waiting s ht hstatus, hresult, Option.map_none])
    | some result =>
      obtain ⟨o, q, result', hturn, hworked, hclose, hyields, hrenders⟩ :=
        (hready hopening).wakes hbackend htame hstatus (node_of_opening hopening) hshape hbare hstate hresult
      refine (hready hopening).lands hforks htame hwalked hturn hworked hclose hopening hrenders fun rest y hy => ?_
      rw [hstatus, heard_waiting, List.append_assoc, ← hstatus]
      exact hconcludes _ y (hyields.concludes hy)

/-- A task that has been given up comes to its end, and nothing of it lasts. -/
lemma UnderWay.leaves (htame : r.Tame) (h : UnderWay s c p answers r) (ht : r.tasks[i]? = some t)
    (hidle : r.isLive t.token = false) : UnderWay s c p answers (r.after s (.step i)) := by
  have hcancelled := htame.cancelled_of_idle ht hidle
  rw [after]
  cases hstep : r.step? s i with
  | none => exact h
  | some r' =>
    rw [Option.getD_some]
    have hfrozen := frozen_step ht hcancelled hstep
    have hstate : r'.state = r.state := hfrozen.rest .state (by decide)
    have hbare : r'.bare = r.bare := hfrozen.rest.bare (by decide)
    refine ⟨hstate ▸ h.state, hfrozen.rest.desk (by decide) ▸ h.tidy, ?_, fun hrunning => ?_⟩
    · rw [hbare, kept?_of_bare hbare, lasting_congr hbare]
      exact h.level
    · obtain ⟨j, u, hu, hj, hlive, hstands⟩ := h.walker (hstate ▸ hrunning)
      have hji : j ≠ i := by
        rintro rfl
        obtain rfl := Option.some.inj (hu.symm.trans ht)
        rw [hcancelled] at hlive
        cases hlive
      refine ⟨j, u, (hfrozen.task_ne hji).trans hu, by rw [hfrozen.tasks, List.length_modify, hj], ?_, hstands⟩
      exact (hfrozen.rest.isCancelled (by decide) _).trans hlive

/-- Whichever task takes a step, the walk goes on, or stays where it is, or is over. -/
lemma UnderWay.step (hforks : s.definition.ForkFree) (hbackend : s.backend.Plain) (htame : r.Tame)
    (hwalked : Walked s c₀ p₀ T.done (some p) c) (h : UnderWay s c p T.answers r) :
    Stage s c₀ p₀ (r.tally s T (.step i)) ((r.after s (.step i)).place p) (r.after s (.step i)) := by
  cases ht : r.tasks[i]? with
  | none => exact h.waitsOn hwalked (by rw [turn?, ht, Option.bind_none])
  | some t =>
    cases hlive : r.isLive t.token with
    | true => exact h.goesOn hforks hbackend htame hwalked ht hlive
    | false =>
      have hdead (u : Task) (hu : r.tasks[i]? = some u) : r.isLive u.token = false := by
        obtain rfl := Option.some.inj (hu.symm.trans ht)
        exact hlive
      rw [tally_idle T fun u hu => .inl (hdead u hu)]
      exact (h.leaves htame ht hlive).stage hwalked

/-! ## All moves -/

/-- Other runs leave what is left of this one. -/
lemma lend_bare {shared : Ensemble} (hfiles : shared.files.bare = r.files.bare) : (shared.lend r).bare = r.bare := by
  show ({ r.bare with files := shared.files.bare } : Run) = r.bare
  rw [hfiles]
  rfl

lemma tidy_lend {shared : Ensemble} (h : r.desk.Tidy s) (hfiles : shared.files.bare = r.files.bare) :
    (shared.lend r).desk.Tidy s := by
  obtain ⟨p, id, hplace, hfind⟩ := h.document
  refine ⟨h.sorted, h.opened, p, id, ?_, ?_⟩
  · show shared.files.locate s.folder Metadata.file = .ok p
    rw [← FileStore.locate_bare, hfiles, FileStore.locate_bare]
    exact hplace
  · show shared.files.bare.find? p = some (.file id)
    rw [hfiles]
    exact hfind

/-- A sample that reaches no record. -/
lemma sample_lasting (hroutes : r.routes = []) (role sensor : String) (timestamp : UInt64) (values : List Single) :
    (r.sample role sensor timestamp values).lasting = r.lasting := by
  refine lasting_congr ?_
  have hdesk : (r.sample role sensor timestamp values).desk = r.desk := by
    obtain hsame | ⟨x, -, hx⟩ := r.desk_sample role sensor timestamp values
    · exact hsame
    · rw [hx, Desk.sample]
      have hroute : r.desk.route sensor = [] := by
        rw [Desk.route, show r.desk.routes = [] from hroutes]
        rfl
      rw [hroute, List.foldl_nil]
  exact bare_of_files (r.modifies_sample role sensor timestamp values) (congrArg (fun d : Desk => d.files.bare) hdesk)
    (congrArg (fun d : Desk => d.writers.mapValues RecordWriter.bare) hdesk)

/-- A run that has been stopped stays so, and nothing changes any more that lasts. -/
lemma Stage.ofStopped (htame : r.Tame) {place : Option Point} (hwalked : Walked s c₀ p₀ T.done place c)
    (hstate : r.state = .stopped) (hlasting : r.lasting = c.lasting.closed) {m : Move} (hpermits : r.Permits s p m) :
    Stage s c₀ p₀ (r.tally s T m) ((r.after s m).place p) (r.after s m) := by
  have hstays {fs : List RunField} {r' : Run} (h : Modifies fs r r')
      (hfs : ∀ f ∈ .state :: [.signals, .events] ++ lastingFields, f ∉ fs) : Stage s c₀ p₀ T (r'.place p) r' :=
    .stopped hwalked ((h .state (hfs _ (by decide)) : _ = r.state).trans hstate)
      ((h.lasting fun f hf => hfs f (List.mem_cons_of_mem _ hf)).trans hlasting)
  have hsame {r' : Run} (h : r' = r) : Stage s c₀ p₀ T (r'.place p) r' :=
    h ▸ .stopped hwalked hstate hlasting
  cases m with
  | start => exact absurd hstate hpermits
  | pause => exact hsame (by rw [after, Run.pause, if_pos (by simp [hstate])])
  | resume => exact hsame (by rw [after, Run.resume, if_pos (by simp [hstate])])
  | stop error => exact hsame (by rw [after, stop, if_pos hstate])
  | answer id a => exact hstays (r.modifies_answer id a) (by decide)
  | sample role sensor timestamp values =>
    have hroutes : r.routes = [] := congrArg Lasting.routes hlasting
    exact .stopped hwalked
      ((r.modifies_sample role sensor timestamp values .state (by decide) : _ = r.state).trans hstate)
      ((sample_lasting hroutes role sensor timestamp values).trans hlasting)
  | others shared =>
    exact .stopped hwalked hstate ((lasting_congr (lend_bare hpermits)).trans hlasting)
  | step i =>
    have hdead (t : Task) : r.isLive t.token = false := by simp [isLive, hstate]
    rw [tally_idle T fun t _ => .inl (hdead t)]
    cases hstep : r.step? s i with
    | none => exact hsame (by rw [after, hstep, Option.getD_none])
    | some r' =>
      obtain ⟨t, ht, -⟩ := Option.bind_eq_some_iff.mp hstep
      have hfrozen := frozen_step ht (htame.cancelled (by simp [hstate]) ht) hstep
      have hafter : r.after s (.step i) = r' := by rw [after, hstep, Option.getD_some]
      rw [hafter]
      exact hstays hfrozen.rest (by decide)

/-- What neither stops the run nor is a step leaves the walk where it is. -/
lemma UnderWay.stays (htame : r.Tame) (h : UnderWay s c p answers r) {m : Move} (hpermits : r.Permits s p m)
    (hstep : ∀ i, m ≠ .step i) (hstop : ∀ error, m ≠ .stop error) : UnderWay s c p answers (r.after s m) := by
  cases m with
  | step i => exact absurd rfl (hstep i)
  | stop error => exact absurd rfl (hstop error)
  | start =>
    rw [Run.after, start, if_pos h.state]
    exact h
  | pause => exact h.pause
  | resume => exact h.resume htame hpermits
  | answer id a =>
    have hmodifies := r.modifies_answer id a
    exact h.quiet hmodifies (hmodifies.bare (by decide)) (hmodifies.desk (by decide) ▸ h.tidy) (by decide)
  | sample role sensor timestamp values =>
    obtain ⟨htidy, hbare⟩ := sample_tidy h.tidy role sensor timestamp values
    exact h.quiet (r.modifies_sample role sensor timestamp values) hbare htidy (by decide)
  | others shared =>
    exact h.unmoved (lend_bare hpermits) (tidy_lend h.tidy hpermits) rfl h.state fun hrunning => ⟨hrunning, rfl⟩

/-- One move that keeps the place. -/
lemma Stage.after (hforks : s.definition.ForkFree) (hbackend : s.backend.Plain) (htame : r.Tame)
    (h : Stage s c₀ p₀ T p r) {m : Move} (hpermits : r.Permits s p m) :
    Stage s c₀ p₀ (r.tally s T m) ((r.after s m).place p) (r.after s m) := by
  cases h with
  | stopped hwalked hstate hlasting => exact .ofStopped htame hwalked hstate hlasting hpermits
  | underWay hwalked h =>
    cases m with
    | step i => exact h.step hforks hbackend htame hwalked
    | stop error =>
      exact .stopped hwalked (r.state_stop s error) ((lasting_stop s error h.state).trans (congrArg _ h.lasting))
    | _ => exact (h.stays htame hpermits (by simp) (by simp)).stage hwalked

/-- All moves that keep the place. -/
theorem stage_afterAll (hforks : s.definition.ForkFree) (hbackend : s.backend.Plain) (htame : r.Tame)
    (h : Stage s c₀ p₀ T p r) {moves : List Move} (hmoves : r.KeepsPlace s p moves) :
    Stage s c₀ p₀ (r.tallyAll s T moves) (r.placeAll s p moves) (r.afterAll s moves) := by
  induction moves generalizing r T p with
  | nil => exact h
  | cons m rest ih => exact ih (htame.after hforks hbackend m) (h.after hforks hbackend htame hmoves.1) hmoves.2

/-! ## The beginning -/

/-- A run that begins has a new task for the main branch, which is to enter the entry node. -/
lemma begun (htame : r.Tame) (h : r.begins s .start = true) :
    (r.after s .start).state = .running ∧
      (r.after s .start).board = (r.board.after .clear).fork mainBranch r.tokens ⟨s.entry, none⟩ ∧
      (r.after s .start).isCancelled r.tokens = false := by
  obtain ⟨hstate, hok⟩ := Bool.and_eq_true_iff.mp h
  have hstopped : r.state = .stopped := of_decide_eq_true hstate
  have hrunning : (r.after s .start).state = .running := congrArg Prod.fst (verdict_begins h)
  have hboard : (r.after s .start).board = (r.board.after .clear).fork mainBranch r.tokens ⟨s.entry, none⟩ := by
    rw [r.board_after s .start, deeds, if_pos hstopped]
    cases hstart : (r.start s).1 with
    | ok u => rfl
    | error e => rw [hstart] at hok; cases hok
  have htasks : (r.after s .start).tasks =
      r.tasks ++ [⟨mainBranch, r.signals.next, r.tokens, .entering ⟨s.entry, none⟩⟩] := congrArg Board.tasks hboard
  have hbegins : r.Begins (r.after s .start) := by
    obtain ⟨hsame, -⟩ | ⟨-, hbegins⟩ := r.start_cases s
    · have hlength := congrArg List.length (htasks.symm.trans hsame)
      simp at hlength
    · exact hbegins
  exact ⟨hrunning, hboard, hbegins.live (htame.sound.leads (r.course_after s .start)) htasks⟩

/-- A run that begins is at its entry node. -/
lemma stage_begins (htame : r.Tame) (h : r.begins s .start = true) :
    Stage s (r.after s .start) ⟨s.entry, none⟩ {} ⟨s.entry, none⟩ (r.after s .start) := by
  obtain ⟨hrunning, hboard, hlive⟩ := begun htame h
  have htasks : (r.after s .start).tasks =
      r.tasks ++ [⟨mainBranch, r.signals.next, r.tokens, .entering ⟨s.entry, none⟩⟩] := congrArg Board.tasks hboard
  refine .underWay .begins ⟨by simp [hrunning], tidy_start h, .inl ⟨rfl, ?_⟩, fun _ => ⟨r.tasks.length,
    ⟨mainBranch, r.signals.next, r.tokens, .entering ⟨s.entry, none⟩⟩, ?_, ?_, hlive, .enters⟩⟩
  · rw [hboard, Board.kept?]
    refine Option.isSome_iff_exists.mpr ⟨r.signals.next, Option.filter_eq_some_iff.mpr ⟨Dict.get?_insert_self .., ?_⟩⟩
    have hnone : r.signals.value? r.signals.next = none := by simp [Signals.value?, Signals.next]
    have hvalue : (r.signals.create).value? r.signals.next = none := (Signals.value?_create _ _).trans hnone
    show (!(r.signals.create).isResolved r.signals.next) = true
    rw [Signals.isResolved, hvalue]
    rfl
  · rw [htasks]
    exact List.getElem?_concat_length
  · rw [htasks, List.length_append, List.length_singleton]

end Run

end FieldStudy
