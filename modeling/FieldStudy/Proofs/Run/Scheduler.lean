import Mathlib.Data.List.Basic
import Mathlib.Tactic.Common
import FieldStudy.Run.Schedule
import FieldStudy.Proofs.Run.InTurn
import FieldStudy.Proofs.Run.Queue

/-!
# The order of the scheduler

Tasks take turns in the order in which they have lined up, each until it waits or ends, and the host acts between two
turns (`Ensemble.Driven`).  So the tasks that are about to enter a point stand in line in the order in which they were
begun (`Queue.Orderly`), and a run that has an ensemble to itself makes its moves in turn (`Ensemble.driven_in_turn`)
and keeps the place of its walk (`Ensemble.driven_keeps_place`).
-/

namespace FieldStudy

/-! ## Order in the line -/

namespace Queue

variable {q q' : Queue} {i : Nat}

/-- A task is about to enter a point. -/
def Enters (q : Queue) (i : Nat) : Prop := ∃ t p, q.tasks[i]? = some t ∧ t.status = .entering p

/-- The tasks that are about to enter a point stand in line, each of them behind such as were begun earlier. -/
structure Orderly (q : Queue) : Prop where
  own : ∀ id, id ∈ q.agenda.ready ∨ id ∈ q.agenda.yielded ∨ id ∈ q.agenda.timers.map (·.2) →
    id.run = q.number ∧ id.task < q.tasks.length
  nodup : q.agenda.ready.Nodup
  waits : ∀ i, q.Enters i → ⟨q.number, i⟩ ∈ q.agenda.ready
  order : q.agenda.ready.Pairwise fun a b => q.Enters b.task → a.task < b.task

/-- A task has the first place in the line. -/
def IsFirst (q : Queue) (i : Nat) : Prop := ∃ rest, q.agenda.ready = ⟨q.number, i⟩ :: rest

lemma enqueue_of_mem {a : Agenda} {id : TaskId} (h : id ∈ a.ready) : a.enqueue id = a := by
  simp [Agenda.enqueue, h]

lemma enqueue_of_notMem {a : Agenda} {id : TaskId} (h : id ∉ a.ready) :
    a.enqueue id = { a with ready := a.ready ++ [id] } := by
  simp [Agenda.enqueue, h]

lemma ready_enqueue (a : Agenda) (id : TaskId) : a.ready <+: (a.enqueue id).ready := by
  by_cases hmem : id ∈ a.ready
  · exact ⟨[], by rw [enqueue_of_mem hmem, List.append_nil]⟩
  · exact ⟨[id], by rw [enqueue_of_notMem hmem]⟩

namespace Orderly

/-- Nobody who was begun before the first in line is about to enter a point. -/
lemma none_before (h : q.Orderly) (hfirst : q.IsFirst i) {j : Nat} (hj : j < i) : ¬ q.Enters j := by
  intro henters
  obtain ⟨rest, hready⟩ := hfirst
  have hmem := h.waits j henters
  have horder := h.order
  rw [hready] at hmem horder
  obtain heq | hrest := List.mem_cons.mp hmem
  · exact absurd (congrArg TaskId.task heq) (Nat.ne_of_lt hj)
  · exact Nat.lt_asymm hj ((List.pairwise_cons.mp horder).1 _ hrest henters)

/-- An agenda with the same line, on which nobody else is named. -/
lemma agenda (h : q.Orderly) {a : Agenda} (hready : a.ready = q.agenda.ready)
    (hnamed : ∀ id, id ∈ a.yielded ∨ id ∈ a.timers.map (·.2) → id.run = q.number ∧ id.task < q.tasks.length) :
    Orderly { q with agenda := a } where
  own id hid := hid.elim (fun hid => h.own id (.inl (hready ▸ hid))) (hnamed id)
  nodup := by
    show a.ready.Nodup
    rw [hready]
    exact h.nodup
  waits i hi := by
    show _ ∈ a.ready
    rw [hready]
    exact h.waits i hi
  order := by
    show a.ready.Pairwise _
    rw [hready]
    exact h.order

lemma call (h : q.Orderly) (hi : i < q.tasks.length) :
    Orderly { q with agenda := q.agenda.enqueue ⟨q.number, i⟩ } := by
  by_cases hmem : ⟨q.number, i⟩ ∈ q.agenda.ready
  · rw [enqueue_of_mem hmem]
    exact h
  · -- Whoever comes to stand at the end of the line is not about to enter a point.
    rw [enqueue_of_notMem hmem]
    refine ⟨fun id hid => ?_, ?_, fun j hj => List.mem_append_left _ (h.waits j hj), ?_⟩
    · obtain hid | hid := hid
      · obtain hid | hid := List.mem_append.mp hid
        · exact h.own id (.inl hid)
        · rw [List.mem_singleton.mp hid]
          exact ⟨rfl, hi⟩
      · exact h.own id (.inr hid)
    · exact h.nodup.append (List.nodup_singleton _) (by simpa using hmem)
    · refine List.pairwise_append.mpr ⟨h.order, List.pairwise_singleton _ _, fun a _ b hb henters => ?_⟩
      rw [List.mem_singleton.mp hb] at henters
      exact absurd (h.waits i henters) hmem

lemma spawn (h : q.Orderly) (t : Task) :
    Orderly { q with tasks := q.tasks ++ [t], agenda := q.agenda.enqueue ⟨q.number, q.tasks.length⟩ } := by
  have hnew : ⟨q.number, q.tasks.length⟩ ∉ q.agenda.ready := fun hmem =>
    Nat.lt_irrefl _ (h.own _ (.inl hmem)).2
  have hbefore {j : Nat} {a : Agenda} (henters : Enters { q with tasks := q.tasks ++ [t], agenda := a } j)
      (hj : j < q.tasks.length) : q.Enters j := by
    obtain ⟨u, p, hu, hstatus⟩ := henters
    exact ⟨u, p, (List.getElem?_append_left hj).symm.trans hu, hstatus⟩
  rw [enqueue_of_notMem hnew]
  refine ⟨fun id hid => ?_, ?_, fun j hj => ?_, ?_⟩
  · show id.run = q.number ∧ id.task < (q.tasks ++ [t]).length
    rw [List.length_append, List.length_singleton]
    obtain hid | hid := hid
    · obtain hid | hid := List.mem_append.mp hid
      · obtain ⟨hrun, htask⟩ := h.own id (.inl hid)
        exact ⟨hrun, Nat.lt_succ_of_lt htask⟩
      · rw [List.mem_singleton.mp hid]
        exact ⟨rfl, Nat.lt_succ_self _⟩
    · obtain ⟨hrun, htask⟩ := h.own id (.inr hid)
      exact ⟨hrun, Nat.lt_succ_of_lt htask⟩
  · exact h.nodup.append (List.nodup_singleton _) (by simpa using hnew)
  · obtain hlt | hle := Nat.lt_or_ge j q.tasks.length
    · exact List.mem_append_left _ (h.waits j (hbefore hj hlt))
    · obtain ⟨u, p, hu, -⟩ := hj
      obtain rfl : j = q.tasks.length := by
        have hj := (List.getElem?_eq_some_iff.mp hu).1
        simp at hj
        omega
      exact List.mem_append_right _ (List.mem_singleton.mpr rfl)
  · refine List.pairwise_append.mpr ⟨?_, List.pairwise_singleton _ _, fun a ha b hb _ => ?_⟩
    · exact h.order.imp_of_mem fun ha hb hab henters => hab (hbefore henters (h.own _ (.inl hb)).2)
    · rw [List.mem_singleton.mp hb]
      exact (h.own a (.inl ha)).2

/-- The status of the first in line does not matter to anybody else. -/
lemma status (h : q.Orderly) (hfirst : q.IsFirst i) (status : TaskStatus) :
    Orderly { q with tasks := q.tasks.modify i fun t => { t with status } } := by
  have hother {j : Nat} (hj : i ≠ j)
      (henters : Enters { q with tasks := q.tasks.modify i fun t => { t with status } } j) : q.Enters j := by
    obtain ⟨u, p, hu, hstatus⟩ := henters
    exact ⟨u, p, (List.getElem?_modify_ne _ _ hj).symm.trans hu, hstatus⟩
  obtain ⟨rest, hready⟩ := hfirst
  refine ⟨fun id hid => ?_, h.nodup, fun j hj => ?_, ?_⟩
  · show _ ∧ id.task < (q.tasks.modify i _).length
    rw [List.length_modify]
    exact h.own id hid
  · by_cases hij : i = j
    · rw [← hij]
      show _ ∈ q.agenda.ready
      rw [hready]
      exact List.mem_cons_self
    · exact h.waits j (hother hij hj)
  · have hnodup := h.nodup
    have horder := h.order
    have hown (b : TaskId) (hb : b ∈ rest) : b.run = q.number :=
      (h.own b (.inl (hready ▸ List.mem_cons_of_mem _ hb))).1
    show q.agenda.ready.Pairwise _
    rw [hready] at hnodup horder ⊢
    have hne (b : TaskId) (hb : b ∈ rest) : i ≠ b.task := by
      rintro rfl
      refine (List.nodup_cons.mp hnodup).1 ?_
      rw [← hown b hb]
      exact hb
    obtain ⟨hhead, htail⟩ := List.pairwise_cons.mp horder
    exact List.pairwise_cons.mpr ⟨fun b hb henters => hhead b hb (hother (hne b hb) henters),
      htail.imp_of_mem fun _ hb hab henters => hab (hother (hne _ hb) henters)⟩

lemma change {walker : Option Nat} (h : q.Orderly) (hfirst : ∀ i, walker = some i → q.IsFirst i)
    (hchange : Change walker q q') : q'.Orderly ∧ q'.number = q.number ∧ q.agenda.ready <+: q'.agenda.ready := by
  cases hchange with
  | call hi => exact ⟨h.call hi, rfl, ready_enqueue _ _⟩
  | spawn t => exact ⟨h.spawn t, rfl, ready_enqueue _ _⟩
  | @note deadline i hi =>
    obtain ⟨rest, hready⟩ := hfirst i hi
    refine ⟨h.agenda rfl fun id hid => ?_, rfl, List.prefix_rfl⟩
    obtain hid | hid := hid
    · exact h.own id (.inr (.inl hid))
    · rw [Agenda.addTimer, List.map_append, List.mem_append] at hid
      obtain hid | hid := hid
      · exact h.own id (.inr (.inr hid))
      · obtain rfl : id = ⟨q.number, i⟩ := by simpa using hid
        exact h.own _ (.inl (hready ▸ List.mem_cons_self))
  | drop id' =>
    refine ⟨h.agenda rfl fun id hid => ?_, rfl, List.prefix_rfl⟩
    refine h.own id (.inr (hid.imp_right fun hid => ?_))
    obtain ⟨timer, htimer, rfl⟩ := List.mem_map.mp hid
    exact List.mem_map_of_mem (List.mem_of_mem_filter htimer)
  | status status hi => exact ⟨h.status (hfirst _ hi) status, rfl, List.prefix_rfl⟩

lemma leads {walker : Option Nat} (h : q.Orderly) (hfirst : ∀ i, walker = some i → q.IsFirst i)
    (hleads : Leads walker q q') : q'.Orderly ∧ q'.number = q.number ∧ q.agenda.ready <+: q'.agenda.ready := by
  induction hleads with
  | refl => exact ⟨h, rfl, List.prefix_rfl⟩
  | tail _ hchange ih =>
    obtain ⟨horderly, hnumber, hready⟩ := ih
    obtain ⟨horderly', hnumber', hready'⟩ := horderly.change (fun i hi => by
      obtain ⟨rest, hrest⟩ := hfirst i hi
      obtain ⟨more, hmore⟩ := hready
      exact ⟨rest ++ more, by rw [hnumber, ← hmore, hrest, List.cons_append]⟩) hchange
    exact ⟨horderly', hnumber'.trans hnumber, hready.trans hready'⟩

/-- Tasks of which the agenda knows are put in line. -/
lemma line_up (h : q.Orderly) (ids : List TaskId)
    (hids : ∀ id ∈ ids, id ∈ q.agenda.ready ∨ id ∈ q.agenda.yielded ∨ id ∈ q.agenda.timers.map (·.2)) :
    Orderly { q with agenda := ids.foldl Agenda.enqueue q.agenda } ∧
      q.agenda.ready <+: (ids.foldl Agenda.enqueue q.agenda).ready := by
  have hown (id : TaskId) (hid : id ∈ ids) := h.own id (hids id hid)
  clear hids
  induction ids generalizing q with
  | nil => exact ⟨h, List.prefix_rfl⟩
  | cons id rest ih =>
    obtain ⟨run, i⟩ := id
    obtain ⟨rfl, hi⟩ := hown ⟨run, i⟩ (by simp)
    obtain ⟨horderly, hready⟩ := ih (h.call hi) fun id hid => hown id (List.mem_cons_of_mem _ hid)
    exact ⟨horderly, (ready_enqueue _ _).trans hready⟩

/-- The first in line leaves it, unless it is about to enter a point. -/
lemma leave (h : q.Orderly) (hfirst : q.IsFirst i) (hwaits : ¬ q.Enters i) {a : Agenda}
    (hready : a.ready = q.agenda.ready.drop 1) (htimers : a.timers = q.agenda.timers)
    (hyielded : ∀ id ∈ a.yielded, id ∈ q.agenda.ready ∨ id ∈ q.agenda.yielded) : Orderly { q with agenda := a } := by
  obtain ⟨rest, hrest⟩ := hfirst
  rw [hrest, List.drop_one, List.tail_cons] at hready
  have horder := h.order
  have hnodup := h.nodup
  rw [hrest] at horder hnodup
  refine ⟨fun id hid => ?_, ?_, fun j hj => ?_, ?_⟩
  · refine h.own id ?_
    obtain hid | hid | hid := hid
    · exact .inl (hrest ▸ List.mem_cons_of_mem _ (hready ▸ hid))
    · exact (hyielded id hid).imp_right .inl
    · exact .inr (.inr (htimers ▸ hid))
  · show a.ready.Nodup
    rw [hready]
    exact (List.nodup_cons.mp hnodup).2
  · show _ ∈ a.ready
    have hmem := h.waits j hj
    rw [hrest] at hmem
    rw [hready]
    refine (List.mem_cons.mp hmem).resolve_left fun heq => hwaits ?_
    obtain rfl : j = i := congrArg TaskId.task heq
    exact hj
  · show a.ready.Pairwise _
    rw [hready]
    exact (List.pairwise_cons.mp horder).2

end Orderly

end Queue

/-- A move that the host makes. -/
def Move.isHost : Move → Bool
  | .pause | .resume | .stop _ | .answer _ _ | .sample _ _ _ _ => true
  | .start | .step _ | .others _ => false

namespace Run

variable {r : Run} {s : Setup} {i : Nat}

lemma queue_enters_iff : r.queue.Enters i ↔ (r.nextPoint? i).isSome = true := by
  rw [Option.isSome_iff_exists]
  constructor
  · rintro ⟨t, p, ht, hstatus⟩
    exact ⟨p, nextPoint?_eq_some_iff.mpr ⟨t, ht, hstatus⟩⟩
  · rintro ⟨p, hp⟩
    obtain ⟨t, ht, hstatus⟩ := nextPoint?_eq_some_iff.mp hp
    exact ⟨t, p, ht, hstatus⟩

end Run

namespace Ensemble

/-! ## What becomes of an ensemble -/

/-- Whether the first in line takes a step in its move, so that its turn is not over. -/
def goesOn (x : Ensemble) (id : TaskId) : Bool :=
  !(x.isWaiting id && Agenda.turnLimit ≤ x.agenda.spent) && (x.step? id).isSome

/-- The host makes a move of the current run. -/
def hostActs (x : Ensemble) (m : Move) : Ensemble := (x.act fun s r => ((), r.after s m)).2

/-- What can become of an ensemble, and whether somebody is in the middle of a turn. -/
inductive Driven (x : Ensemble) : Bool → Ensemble → Prop
  | begins : Driven x false x
  /-- The first in line makes a move. -/
  | moves {mid : Bool} {y : Ensemble} {id : TaskId} {rest : List TaskId} (h : Driven x mid y)
      (hready : y.agenda.ready = id :: rest) : Driven x (y.goesOn id) (y.move id)
  | rests {mid : Bool} {y : Ensemble} (h : Driven x mid y) (hready : y.agenda.ready = []) : Driven x false y
  /-- Those who gave way line up again. -/
  | rejoins {mid : Bool} {y : Ensemble} (h : Driven x mid y) : Driven x mid (y.withAgenda .rejoin)
  | reaches {mid : Bool} {y : Ensemble} (h : Driven x mid y) (time : Nat) : Driven x mid (y.withAgenda (·.reach time))
  /-- The host acts between two turns. -/
  | acts {y : Ensemble} (h : Driven x false y) {m : Move} (hm : m.isHost = true) : Driven x false (y.hostActs m)

variable {x y : Ensemble} {s : Setup} {r first : Run} {mid : Bool}

/-- Letting the tasks in line run. -/
lemma Driven.settleWithin (h : Driven x mid y) (n : Nat) : ∃ mid', Driven x mid' (y.settleWithin n) := by
  induction n generalizing mid y with
  | zero => exact ⟨mid, h⟩
  | succ n ih =>
    rw [Ensemble.settleWithin]
    split
    · next hready => exact ih (h.moves hready)
    · next hready =>
      split
      · exact ⟨false, h.rests hready⟩
      · exact ih (h.rests hready).rejoins

/-- Letting time pass, and the tasks run whenever one of them is to go on. -/
lemma Driven.waitFor {α : Type} (h : Driven x mid y) (test : Ensemble → Option α) (own : Option Nat) (last n : Nat) :
    ∃ mid', Driven x mid' (y.waitFor test own last n).2 := by
  induction n generalizing mid y with
  | zero => exact ⟨mid, h⟩
  | succ n ih =>
    rw [Ensemble.waitFor]
    split
    · exact ⟨mid, h⟩
    · split
      · exact ⟨mid, h⟩
      · obtain ⟨mid', hsettled⟩ := h.settleWithin stepLimit
        dsimp only
        split
        · exact ⟨mid', hsettled⟩
        · exact ih (hsettled.reaches _)

/-! ## A run by itself -/

/-- An ensemble of a single run, which the host acts on. -/
structure Sole (x : Ensemble) (s : Setup) (r : Run) : Prop where
  current : x.current = some 0
  number : r.number = 0
  live : x.live? 0 = some ⟨s, r⟩

namespace Sole

lemma entry (h : x.Sole s r) : ∃ r₀, x.runs[0]? = some ⟨s, r₀⟩ ∧ x.lend r₀ = r := by
  obtain ⟨⟨s', r₀⟩, he, hlive⟩ := Option.map_eq_some_iff.mp h.live
  obtain ⟨rfl, hlend⟩ := LiveRun.mk.inj hlive
  exact ⟨r₀, he, hlend⟩

lemma agenda (h : x.Sole s r) : r.agenda = x.agenda := by
  obtain ⟨r₀, -, rfl⟩ := h.entry
  rfl

lemma files (h : x.Sole s r) : r.files = x.files := by
  obtain ⟨r₀, -, rfl⟩ := h.entry
  rfl

lemma withAgenda (h : x.Sole s r) (f : Agenda → Agenda) :
    (x.withAgenda f).Sole s (r.after s (.others (x.withAgenda f))) := by
  obtain ⟨r₀, hr₀, rfl⟩ := h.entry
  refine ⟨h.current, h.number, ?_⟩
  show (x.runs[0]?).map _ = _
  rw [hr₀]
  rfl

lemma takeBack (h : x.Sole s r) {r' : Run} (hnumber : r'.number = r.number) : (x.takeBack 0 r').Sole s r' := by
  obtain ⟨r₀, hr₀, -⟩ := h.entry
  refine ⟨h.current, hnumber.trans h.number, ?_⟩
  show ((x.runs.modify 0 _)[0]?).map _ = _
  rw [List.getElem?_modify_eq, hr₀]
  rfl

lemma step? (h : x.Sole s r) (i : Nat) : x.step? ⟨0, i⟩ = (r.step? s i).map (x.takeBack 0) := by
  have hstays (r' : Run) : (x.takeBack 0 r').letGo 0 = x.takeBack 0 r' := by
    rw [letGo, if_pos (show (x.takeBack 0 r').current = some 0 from h.current)]
  rw [Ensemble.step?, h.live, Option.bind_some]
  exact congrArg (fun f => (r.step? s i).map f) (funext hstays)

lemma isWaiting (h : x.Sole s r) (i : Nat) : x.isWaiting ⟨0, i⟩ = (r.tasks[i]?).any (·.await?.isSome) := by
  obtain ⟨r₀, hr₀, rfl⟩ := h.entry
  rw [Ensemble.isWaiting]
  dsimp only
  rw [hr₀]
  rfl

lemma hostActs (h : x.Sole s r) {m : Move} (hnumber : (r.after s m).number = r.number) :
    (x.hostActs m).Sole s (r.after s m) := by
  have hcurrent : x.current? = some ⟨s, r⟩ := by
    rw [current?, h.current]
    exact h.live
  have hacts : x.hostActs m = x.takeBack 0 (r.after s m) := by
    rw [Ensemble.hostActs, act, h.current, hcurrent]
  rw [hacts]
  exact h.takeBack hnumber

end Sole

/-! ## Moves in turn -/

/-- What an ensemble has made of a run: moves in turn.  If somebody is to go on at once it is the first in line, in the
middle of a turn. -/
structure Follows (s : Setup) (first : Run) (mid : Bool) (y : Ensemble) (moves : List Move) : Prop where
  sole : y.Sole s (first.afterAll s moves)
  orderly : (first.afterAll s moves).queue.Orderly
  inTurn : first.InTurn s false moves
  busy : first.busyAfterAll s false moves = true →
    mid = true ∧ ∃ i, (first.afterAll s moves).queue.IsFirst i ∧ (first.afterAll s moves).queue.Enters i

namespace Follows

variable {moves : List Move} {mid' : Bool} {i : Nat}

/-- Something is done to the agenda only. -/
lemma change (h : Follows s first mid y moves) {f : Agenda → Agenda}
    (horderly : Queue.Orderly { (first.afterAll s moves).queue with agenda := f y.agenda })
    (hbusy : first.busyAfterAll s false moves = true →
      mid' = true ∧ ∃ i, Queue.IsFirst { (first.afterAll s moves).queue with agenda := f y.agenda } i ∧
        (first.afterAll s moves).queue.Enters i) :
    Follows s first mid' (y.withAgenda f) (moves ++ [.others (y.withAgenda f)]) where
  sole := by
    rw [Run.afterAll_snoc]
    exact h.sole.withAgenda f
  orderly := by
    rw [Run.afterAll_snoc]
    exact horderly
  inTurn := (Run.inTurn_snoc _ _).mpr ⟨h.inTurn, congrArg FileStore.bare h.sole.files.symm⟩
  busy hbusy' := by
    rw [Run.busyAfterAll_snoc] at hbusy'
    rw [Run.afterAll_snoc]
    exact hbusy hbusy'

/-- More of those who are known to the agenda are put in line. -/
lemma lines_up (h : Follows s first mid y moves) {f : Agenda → Agenda}
    (horderly : Queue.Orderly { (first.afterAll s moves).queue with agenda := f y.agenda })
    (hready : y.agenda.ready <+: (f y.agenda).ready) :
    ∃ moves', Follows s first mid (y.withAgenda f) moves' := by
  refine ⟨_, h.change horderly fun hbusy => ?_⟩
  obtain ⟨hmid, i, ⟨rest, hrest⟩, henters⟩ := h.busy hbusy
  obtain ⟨more, hmore⟩ := hready
  refine ⟨hmid, i, ⟨rest ++ more, ?_⟩, henters⟩
  have hfirst : y.agenda.ready = ⟨(first.afterAll s moves).number, i⟩ :: rest := h.sole.agenda ▸ hrest
  show (f y.agenda).ready = _
  rw [← hmore, hfirst]
  rfl

lemma enters_of_busy (h : Follows s first mid y moves) (hfirst : (first.afterAll s moves).queue.IsFirst i)
    (hbusy : first.busyAfterAll s false moves = true) : (first.afterAll s moves).queue.Enters i := by
  obtain ⟨-, j, ⟨rest', hrest'⟩, henters⟩ := h.busy hbusy
  obtain ⟨rest, hrest⟩ := hfirst
  obtain rfl : i = j := congrArg TaskId.task (List.cons.inj (hrest.symm.trans hrest')).1
  exact henters

/-- The turn of the first in line is over. -/
lemma leaves (h : Follows s first mid y moves) (hfirst : (first.afterAll s moves).queue.IsFirst i)
    (hwaits : ¬ (first.afterAll s moves).queue.Enters i) {f : Agenda → Agenda}
    (hready : (f y.agenda).ready = y.agenda.ready.drop 1) (htimers : (f y.agenda).timers = y.agenda.timers)
    (hyielded : ∀ id ∈ (f y.agenda).yielded, id ∈ y.agenda.ready ∨ id ∈ y.agenda.yielded) :
    ∃ moves', Follows s first false (y.withAgenda f) moves' := by
  have hagenda : (first.afterAll s moves).queue.agenda = y.agenda := h.sole.agenda
  rw [← hagenda] at hready htimers hyielded
  refine ⟨_, h.change ?_ fun hbusy => absurd (h.enters_of_busy hfirst hbusy) hwaits⟩
  rw [← hagenda]
  exact h.orderly.leave hfirst hwaits hready htimers hyielded

/-- The first in line takes a step. -/
lemma steps (h : Follows s first mid y moves) (hfirst : (first.afterAll s moves).queue.IsFirst i) {r' : Run}
    (hstep : (first.afterAll s moves).step? s i = some r') :
    Follows s first true (y.takeBack 0 r') (moves ++ [.step i]) := by
  have hr' : (first.afterAll s moves).after s (.step i) = r' := by
    rw [Run.after, hstep, Option.getD_some]
  obtain ⟨horderly, hnumber, hready⟩ := h.orderly.leads (fun j hj => Option.some.inj hj ▸ hfirst)
    ((first.afterAll s moves).queue_after s (m := .step i) (by simp))
  rw [hr'] at horderly hnumber hready
  have hstill : r'.queue.IsFirst i := by
    obtain ⟨rest, hrest⟩ := hfirst
    obtain ⟨more, hmore⟩ := hready
    exact ⟨rest ++ more, by rw [← hmore, hrest, hnumber, List.cons_append]⟩
  have hnone (j : Nat) (hj : j < i) : (first.afterAll s moves).nextPoint? j = none := by
    rw [← Option.not_isSome_iff_eq_none, ← Run.queue_enters_iff]
    exact h.orderly.none_before hfirst hj
  refine ⟨?_, ?_, (Run.inTurn_snoc _ _).mpr ⟨h.inTurn, fun hbusy => ?_, hnone⟩, fun hbusy => ?_⟩
  · rw [Run.afterAll_snoc, hr']
    exact h.sole.takeBack hnumber
  · rw [Run.afterAll_snoc, hr']
    exact horderly
  · exact Run.queue_enters_iff.mp (h.enters_of_busy hfirst hbusy)
  · rw [Run.busyAfterAll_snoc, Run.busyAfter, hr'] at hbusy
    rw [Run.afterAll_snoc, hr']
    exact ⟨rfl, i, hstill, Run.queue_enters_iff.mpr hbusy⟩

lemma acts (h : Follows s first false y moves) {m : Move} (hm : m.isHost = true) :
    Follows s first false (y.hostActs m) (moves ++ [m]) := by
  have hfree : first.busyAfterAll s false moves = false := by
    by_contra hbusy
    exact Bool.false_ne_true (h.busy (by simpa using hbusy)).1
  have hhost : m.walker? = none ∧ (∀ shared, m ≠ .others shared) ∧
      ∀ q : Run, q.IsDue false m ∧ q.busyAfter s false m = false := by
    cases m with
    | start => cases hm
    | step => cases hm
    | others => cases hm
    | _ => exact ⟨rfl, by simp, fun _ => ⟨rfl, rfl⟩⟩
  obtain ⟨hwalker, hown, hdue⟩ := hhost
  obtain ⟨horderly, hnumber, -⟩ := h.orderly.leads (by simp [hwalker])
    ((first.afterAll s moves).queue_after s hown)
  refine ⟨?_, ?_, (Run.inTurn_snoc _ _).mpr ⟨h.inTurn, ?_⟩, fun hbusy => ?_⟩
  · rw [Run.afterAll_snoc]
    exact h.sole.hostActs hnumber
  · rw [Run.afterAll_snoc]
    exact horderly
  · rw [hfree]
    exact (hdue _).1
  · rw [Run.busyAfterAll_snoc, hfree, (hdue _).2] at hbusy
    cases hbusy

end Follows

/-- A move of the first in line. -/
lemma Follows.moves {moves : List Move} (h : Follows s first mid y moves) {id : TaskId} {rest : List TaskId}
    (hready : y.agenda.ready = id :: rest) : ∃ moves', Follows s first (y.goesOn id) (y.move id) moves' := by
  have hagenda : (first.afterAll s moves).queue.agenda = y.agenda := h.sole.agenda
  obtain ⟨run, i⟩ := id
  obtain rfl : run = 0 := ((h.orderly.own ⟨run, i⟩ (.inl (by simp [hagenda, hready]))).1).trans h.sole.number
  have hfirst : (first.afterAll s moves).queue.IsFirst i := by
    refine ⟨rest, ?_⟩
    rw [hagenda, hready, show (first.afterAll s moves).queue.number = 0 from h.sole.number]
  rw [move, goesOn]
  by_cases hyields : (y.isWaiting ⟨0, i⟩ && Agenda.turnLimit ≤ y.agenda.spent) = true
  · -- It gives way.
    have hwaits : ¬ (first.afterAll s moves).queue.Enters i := by
      rintro ⟨t, p, ht, hstatus⟩
      have htask : (first.afterAll s moves).tasks[i]? = some t := ht
      rw [h.sole.isWaiting, htask] at hyields
      simp [Task.await?, hstatus] at hyields
    rw [if_pos hyields, hyields]
    refine h.leaves hfirst hwaits rfl rfl fun id hid => ?_
    obtain hid | hid := List.mem_append.mp hid
    · exact .inr hid
    · exact .inl (List.mem_of_mem_take hid)
  · rw [if_neg hyields, h.sole.step?]
    cases hstep : (first.afterAll s moves).step? s i with
    | none =>
      -- It waits or has ended.
      have hwaits : ¬ (first.afterAll s moves).queue.Enters i := by
        rintro ⟨t, p, ht, hstatus⟩
        rw [Run.step?_entering s ht hstatus] at hstep
        cases hstep
      rw [Option.map_none, Option.isSome_none, Bool.and_false]
      exact h.leaves hfirst hwaits rfl rfl fun id hid => .inr hid
    | some r' =>
      have hsteps := h.steps hfirst hstep
      rw [Option.map_some, Option.isSome_some, Bool.and_true, Bool.eq_false_iff.mpr hyields]
      dsimp only
      split
      · have hagenda' : (first.afterAll s (moves ++ [.step i])).queue.agenda = (y.takeBack 0 r').agenda :=
          hsteps.sole.agenda
        have horderly := hsteps.orderly.agenda (a := (y.takeBack 0 r').agenda.spend 1) (by rw [hagenda']; rfl)
          fun id hid => hsteps.orderly.own id (.inr (by rw [hagenda']; exact hid))
        exact hsteps.lines_up horderly List.prefix_rfl
      · exact ⟨_, hsteps⟩

lemma Driven.follows (h : Driven x mid y) (hbegins : Follows s first false x []) :
    ∃ moves, Follows s first mid y moves := by
  induction h with
  | begins => exact ⟨[], hbegins⟩
  | moves _ hready ih =>
    obtain ⟨moves, hfollows⟩ := ih
    exact hfollows.moves hready
  | rests _ hready ih =>
    obtain ⟨moves, hfollows⟩ := ih
    refine ⟨moves, hfollows.sole, hfollows.orderly, hfollows.inTurn, fun hbusy => ?_⟩
    obtain ⟨-, i, ⟨rest, hrest⟩, -⟩ := hfollows.busy hbusy
    rw [show (first.afterAll s moves).queue.agenda = _ from hfollows.sole.agenda, hready] at hrest
    cases hrest
  | @rejoins _ y _ ih =>
    obtain ⟨moves, hfollows⟩ := ih
    have hagenda : (first.afterAll s moves).queue.agenda = y.agenda := hfollows.sole.agenda
    obtain ⟨horderly, hready⟩ := hfollows.orderly.line_up y.agenda.yielded fun id hid =>
      .inr (.inl (hagenda ▸ hid))
    rw [hagenda] at horderly hready
    refine hfollows.lines_up (horderly.agenda rfl fun id hid => ?_) hready
    exact horderly.own id (.inr (hid.imp_left fun hid => absurd hid List.not_mem_nil))
  | @reaches _ y _ time ih =>
    obtain ⟨moves, hfollows⟩ := ih
    have hagenda : (first.afterAll s moves).queue.agenda = y.agenda := hfollows.sole.agenda
    have hreach : y.agenda.reach time =
        ((y.agenda.timers.filter (·.1 ≤ time)).map (·.2)).foldl Agenda.enqueue { y.agenda with clock := time } := by
      rw [List.foldl_map]
      rfl
    have hset := hfollows.orderly.agenda (a := { y.agenda with clock := time }) (by rw [hagenda]) fun id hid =>
      hfollows.orderly.own id (.inr (hagenda ▸ hid))
    obtain ⟨horderly, hready⟩ := hset.line_up ((y.agenda.timers.filter (·.1 ≤ time)).map (·.2)) fun id hid => by
      obtain ⟨timer, htimer, rfl⟩ := List.mem_map.mp hid
      exact .inr (.inr (List.mem_map_of_mem (List.mem_of_mem_filter htimer)))
    rw [← hreach] at horderly hready
    exact hfollows.lines_up horderly hready
  | acts _ hm ih =>
    obtain ⟨moves, hfollows⟩ := ih
    exact ⟨_, hfollows.acts hm⟩

/-- A run that is begun in an ensemble that it has to itself makes its moves in turn, whatever becomes of the
ensemble. -/
theorem driven_in_turn (files : FileStore) (notices : List Notice) (calls : List BackendCall) (time : Nat) (s : Setup)
    {y : Ensemble} :
    let x : Ensemble := { files, notices, calls, agenda := { clock := time } }
    let first := (x.newRun s).after s .start
    Driven (x.install s first) mid y →
      ∃ moves, y.live? 0 = some ⟨s, first.afterAll s moves⟩ ∧ first.InTurn s false moves := by
  intro x first h
  have hempty : (x.newRun s).queue.Orderly := by
    refine ⟨fun id hid => ?_, List.nodup_nil, fun i hi => ?_, List.Pairwise.nil⟩
    · obtain hid | hid | hid := hid <;> cases hid
    · obtain ⟨t, p, ht, -⟩ := hi
      cases ht
  obtain ⟨horderly, hnumber, -⟩ := hempty.leads (by simp [Move.walker?])
    ((x.newRun s).queue_after s (m := .start) (by simp))
  have hsole : (x.install s first).Sole s first := by
    refine ⟨rfl, hnumber, ?_⟩
    rfl
  obtain ⟨moves, hfollows⟩ := h.follows ⟨hsole, horderly, trivial, fun hbusy => absurd hbusy Bool.false_ne_true⟩
  exact ⟨moves, hfollows.sole.live, hfollows.inTurn⟩

/-- So wherever such a run without forks is resumed, the execution point is the place of its walk. -/
theorem driven_keeps_place (files : FileStore) (notices : List Notice) (calls : List BackendCall) (time : Nat)
    (s : Setup) (hforks : s.definition.ForkFree) (hbackend : s.backend.Plain) {y : Ensemble} :
    let x : Ensemble := { files, notices, calls, agenda := { clock := time } }
    let first := (x.newRun s).after s .start
    (x.newRun s).begins s .start = true → Driven (x.install s first) mid y →
      ∃ moves, y.live? 0 = some ⟨s, first.afterAll s moves⟩ ∧ first.KeepsPlace s ⟨s.entry, none⟩ moves := by
  intro x first hbegins h
  obtain ⟨moves, hlive, hturn⟩ := driven_in_turn files notices calls time s h
  exact ⟨moves, hlive, Run.keepsPlace_of_inTurn hforks hbackend x hbegins hturn⟩

end Ensemble

end FieldStudy
