import Mathlib.Data.List.Induction
import Mathlib.Tactic.Common
import FieldStudy.Proofs.Run.Origins
import FieldStudy.Proofs.Run.Waits

/-!
# Walks through the graph

What a task does over a history is told as a trail of events: it enters a point, the action of the node is taken, and
the action ends with a code.  Such a trail is a path of the graph (`Walk`), whatever happens to the run between the
steps of the task: the next point is the successor for the code, if there is one, and each point that is entered takes
its action once at most.
-/

namespace FieldStudy

/-- The successor for a code is the entry of that index, which is there and has a name. -/
lemma Node.successor?_eq_some_iff {node : Node} {code : Int} {next : String} :
    node.successor? code = some next ↔ 0 ≤ code ∧ node.next[code.toNat]? = some (some next) ∧ next ≠ "" := by
  rw [successor?]
  by_cases hcode : code < 0
  · simp [hcode, Int.not_le.mpr hcode]
  · rw [if_neg hcode]
    have hnonneg : 0 ≤ code := Int.not_lt.mp hcode
    cases hentry : node.next[code.toNat]? with
    | none => simp
    | some entry =>
      cases entry with
      | none => simp
      | some id =>
        dsimp only
        by_cases hname : id = ""
        · have hempty : id.isEmpty = true := by simp [hname]
          rw [if_pos hempty]
          refine iff_of_false (by simp) ?_
          rintro ⟨-, hid, hnext⟩
          exact hnext (Option.some.inj (Option.some.inj hid) ▸ hname)
        · have hfull : id.isEmpty = false := by simpa using hname
          rw [hfull, if_neg Bool.false_ne_true]
          constructor
          · rintro ⟨⟩
            exact ⟨hnonneg, rfl, hname⟩
          · rintro ⟨-, hid, -⟩
            exact Option.some.inj hid

/-! ## Paths of the graph -/

/-- What happens in a walk. -/
inductive WalkEvent
  | enters (p : Point)
  /-- The action of the node is taken. -/
  | acts (p : Point)
  /-- The action ends with a code. -/
  | returns (p : Point) (code : Int)
deriving DecidableEq

/-- Where a walk has come to. -/
inductive Position
  | ahead (p : Point)
  | entered (p : Point)
  /-- The action of the node is under way, or it has been given up. -/
  | within (p : Point)
  | over

/-- One event of a walk. -/
inductive Leg (d : Definition) : Position → WalkEvent → Position → Prop
  | enters (p : Point) : Leg d (.ahead p) (.enters p) (.entered p)
  | acts {p : Point} {node : Node} (hnode : d.node? p.node = some node) : Leg d (.entered p) (.acts p) (.within p)
  /-- The next point is the entry for the code, which is not negative, within the list and not without a name. -/
  | goesOn {p : Point} {node : Node} {code : Int} {next : String} (hnode : d.node? p.node = some node)
      (hcode : 0 ≤ code) (hnext : node.next[code.toNat]? = some (some next)) (hname : next ≠ "") :
      Leg d (.within p) (.returns p code) (.ahead ⟨next, some code⟩)
  | finishes {p : Point} {node : Node} {code : Int} (hnode : d.node? p.node = some node)
      (hnone : ∀ next, 0 ≤ code → node.next[code.toNat]? = some (some next) → next = "") :
      Leg d (.within p) (.returns p code) .over

/-- One event after another. -/
inductive Walk (d : Definition) : Position → List WalkEvent → Position → Prop
  | nil (a : Position) : Walk d a [] a
  | cons {a b c : Position} {e : WalkEvent} {rest : List WalkEvent} (hleg : Leg d a e b) (hrest : Walk d b rest c) :
      Walk d a (e :: rest) c

/-- How a task stands that has come to a position. -/
def Position.Fits : Position → TaskStatus → Prop
  | .ahead p, .entering q => p = q
  | .ahead _, _ => False
  | .within p, .waiting q _ _ => p = q
  | _, .ended => True
  | _, _ => False

namespace Walk

variable {d : Definition} {a b c : Position} {es fs : List WalkEvent}

lemma append (h : Walk d a es b) (h' : Walk d b fs c) : Walk d a (es ++ fs) c := by
  induction h with
  | nil => exact h'
  | cons hleg hrest ih => exact .cons hleg (ih h')

/-- The end of an action, and where the walk goes on. -/
lemma of_outcome {p : Point} {node : Node} (hnode : d.node? p.node = some node) (outcome : Outcome) :
    ∃ pos, Walk d (.within p) ((Turn.acted node outcome).code?.toList.map (.returns p)) pos ∧
      pos.Fits ((Turn.acted node outcome).status p) := by
  cases outcome with
  | done code =>
    cases hnext : node.successor? code with
    | some next =>
      obtain ⟨hcode, hentry, hname⟩ := Node.successor?_eq_some_iff.mp hnext
      refine ⟨.ahead ⟨next, some code⟩, .cons (.goesOn hnode hcode hentry hname) (.nil _), ?_⟩
      simp [Turn.status, hnext, Position.Fits]
    | none =>
      refine ⟨.over, .cons (.finishes hnode ?_) (.nil _), ?_⟩
      · intro next hcode hentry
        by_contra hname
        rw [Node.successor?_eq_some_iff.mpr ⟨hcode, hentry, hname⟩] at hnext
        cases hnext
      · simp [Turn.status, hnext, Position.Fits]
  | fails e => exact ⟨.within p, .nil _, trivial⟩
  | waits a resumption => exact ⟨.within p, .nil _, rfl⟩

end Walk

namespace Run

variable {r : Run} {s : Setup} {i : Nat} {t : Task}

/-! ## The trail of a task -/

/-- The point that a task is about to enter. -/
def nextPoint? (r : Run) (i : Nat) : Option Point :=
  r.tasks[i]?.bind fun t =>
    match t.status with
    | .entering p => some p
    | _ => none

/-- What happens in the walk of a task in a move. -/
def walkEvents (s : Setup) (i : Nat) (r : Run) : Move → List WalkEvent
  | .step j =>
    if j = i then
      match r.turn? s i with
      | some (p, turn) =>
        (r.nextPoint? i).toList.map .enters ++ (r.taken? s (.step i)).toList.map (fun _ => .acts p) ++
          turn.code?.toList.map (.returns p)
      | none => []
    else []
  | _ => []

/-- What happens in the walk of a task over some moves. -/
def trail (s : Setup) (i : Nat) : Run → List Move → List WalkEvent
  | _, [] => []
  | r, m :: rest => r.walkEvents s i m ++ trail s i (r.after s m) rest

lemma trail_snoc (moves : List Move) (m : Move) :
    r.trail s i (moves ++ [m]) = r.trail s i moves ++ (r.afterAll s moves).walkEvents s i m := by
  induction moves generalizing r with
  | nil => simp [trail]
  | cons m' rest ih => rw [List.cons_append, trail, trail, ih, afterAll_cons, List.append_assoc]

/-- Nothing happens in a walk but by the steps of its task. -/
lemma walkEvents_eq_nil {m : Move} (hm : ¬ r.Steps s i m) : r.walkEvents s i m = [] := by
  cases m with
  | step j =>
    rw [walkEvents]
    split
    · next heq =>
      subst heq
      cases hturn : r.turn? s j with
      | none => rfl
      | some pt =>
        refine absurd ⟨rfl, ?_⟩ hm
        rw [← turn?_isSome, hturn, Option.isSome_some]
    · rfl
  | _ => rfl

lemma not_steps_of_none {m : Move} (ht : r.tasks[i]? = none) : ¬ r.Steps s i m := by
  rintro ⟨-, hstep⟩
  simp [step?, ht] at hstep

/-- A walk has no trail before its task is there. -/
lemma trail_eq_nil {moves : List Move} (ht : (r.afterAll s moves).tasks[i]? = none) : r.trail s i moves = [] := by
  induction moves generalizing r with
  | nil => rfl
  | cons m rest ih =>
    have hnone : r.tasks[i]? = none := by
      cases hfirst : r.tasks[i]? with
      | none => rfl
      | some t =>
        obtain ⟨status, hlater⟩ := (course_afterAll r s (m :: rest)).grows.task hfirst
        rw [show (r.afterAll s (m :: rest)).course.tasks = (r.afterAll s (m :: rest)).tasks from rfl, ht] at hlater
        cases hlater
    rw [trail, walkEvents_eq_nil (not_steps_of_none hnone), ih ht, List.nil_append]

/-! ## Steps are legs -/

/-- Whoever takes no action at a point goes no further. -/
lemma entry_of_none {p : Point} (h : r.action? s t p = none) :
    (r.entry s t p).code? = none ∧ (r.entry s t p).status p = .ended := by
  rw [entry]
  split
  · exact ⟨rfl, rfl⟩
  · next hlive =>
    split
    · exact ⟨rfl, rfl⟩
    · next node hnode =>
      split
      · exact ⟨rfl, rfl⟩
      · next a hok =>
        split
        · exact ⟨rfl, rfl⟩
        · next hends =>
          have haction : r.action? s t p = some a :=
            action?_eq_some_iff.mpr ⟨by simpa using hlive, node, hnode, hok, by simpa using hends⟩
          rw [h] at haction
          cases haction

/-- What happens in a walk by a step of its task leads from where it has come to to where it stands then. -/
lemma walk_step {p : Point} {turn : Turn} {pos : Position} (ht : r.tasks[i]? = some t)
    (hturn : r.turn? s i = some (p, turn)) (hpos : pos.Fits t.status) :
    ∃ pos', Walk s.definition pos (r.walkEvents s i (.step i)) pos' ∧ pos'.Fits (turn.status p) := by
  rw [walkEvents, if_pos rfl, hturn]
  dsimp only
  cases hstatus : t.status with
  | entering q =>
    rw [turn?_entering s ht hstatus] at hturn
    obtain ⟨rfl, rfl⟩ := Prod.mk.inj (Option.some.inj hturn)
    have hnext : r.nextPoint? i = some q := by simp [nextPoint?, ht, hstatus]
    have hahead : pos = .ahead q := by
      rw [hstatus] at hpos
      cases pos with
      | ahead p => rw [show p = q from hpos]
      | _ => cases hpos
    rw [hnext, hahead, Option.toList_some, List.map_singleton]
    cases haction : r.action? s t q with
    | none =>
      have htaken : r.taken? s (.step i) = none := by simp [taken?, ht, hstatus, haction]
      obtain ⟨hcode, hended⟩ := entry_of_none haction
      rw [htaken, hcode, hended]
      exact ⟨.entered q, .cons (.enters q) (.nil _), trivial⟩
    | some a =>
      have htaken : r.taken? s (.step i) = some a := taken?_step_iff.mpr ⟨t, q, ht, hstatus, haction⟩
      obtain ⟨-, node, hnode, -⟩ := action?_eq_some_iff.mp haction
      rw [htaken, entry_of_action? hnode haction]
      obtain ⟨pos', hwalk, hfits⟩ := Walk.of_outcome hnode
        (({ r with point := some q } : Run).execute s ⟨t.branch, q.node, node, t.token⟩ a).1
      exact ⟨pos', .cons (.enters q) (.cons (.acts hnode) hwalk), hfits⟩
  | waiting q a resumption =>
    rw [turn?_waiting s ht hstatus] at hturn
    obtain ⟨result, -, heq⟩ := Option.map_eq_some_iff.mp hturn
    obtain ⟨rfl, rfl⟩ := Prod.mk.inj heq
    have hnext : r.nextPoint? i = none := by simp [nextPoint?, ht, hstatus]
    have htaken : r.taken? s (.step i) = none := by simp [taken?, ht, hstatus]
    have hwithin : pos = .within q := by
      rw [hstatus] at hpos
      cases pos with
      | within p => rw [show p = q from hpos]
      | _ => cases hpos
    rw [hnext, htaken, hwithin, sequel]
    cases hnode : s.definition.node? q.node with
    | none => exact ⟨.within q, .nil _, trivial⟩
    | some node => exact Walk.of_outcome hnode _
  | ended =>
    rw [turn?_ended s ht hstatus] at hturn
    cases hturn

/-! ## Every trail is a path -/

/-- The move adds the task, and its walk begins at this point. -/
def SetsOut (s : Setup) (i : Nat) (first : Point) (r : Run) (m : Move) : Prop :=
  r.tasks.length = i ∧ ∃ t, (r.after s m).tasks[i]? = some t ∧ r.Origin s m t ∧ t.status = .entering first

lemma Origin.first {m : Move} (h : r.Origin s m t) : ∃ first, t.status = .entering first := by
  cases h with
  | starts => exact ⟨_, rfl⟩
  | resumes => exact ⟨_, rfl⟩
  | forks => exact ⟨_, rfl⟩

lemma walk_afterAll (x : Ensemble) (s : Setup) (moves : List Move) {i : Nat} {t : Task}
    (ht : ((x.newRun s).afterAll s moves).tasks[i]? = some t) :
    ∃ first pos, (x.newRun s).Happens s (SetsOut s i first) moves ∧
      Walk s.definition (.ahead first) ((x.newRun s).trail s i moves) pos ∧ pos.Fits t.status := by
  induction moves using List.reverseRecOn generalizing t with
  | nil => cases ht
  | append_singleton moves m ih =>
    rw [afterAll_snoc] at ht
    have hadds := adds_after ((x.newRun s).afterAll s moves) s m
    have hi : i ≤ ((x.newRun s).afterAll s moves).tasks.length :=
      Nat.le_of_lt_succ (Nat.lt_of_lt_of_le (List.getElem?_eq_some_iff.mp ht).1 hadds.length)
    obtain hlt | heq := Nat.lt_or_eq_of_le hi
    · -- The task was there before: it takes a step, or nothing happens in its walk.
      obtain ⟨u, hu⟩ : ∃ u, ((x.newRun s).afterAll s moves).tasks[i]? = some u := ⟨_, List.getElem?_eq_getElem hlt⟩
      obtain ⟨first, pos, hfirst, hwalk, hfits⟩ := ih hu
      have hsets := (happens_snoc (P := SetsOut s i first) (s := s) moves m).mpr (.inl hfirst)
      rw [trail_snoc]
      by_cases hm : ((x.newRun s).afterAll s moves).Steps s i m
      · obtain ⟨rfl, hstep⟩ := hm
        rw [← turn?_isSome] at hstep
        obtain ⟨⟨p, turn⟩, hturn⟩ := Option.isSome_iff_exists.mp hstep
        rw [task_step hu hturn] at ht
        obtain rfl := Option.some.inj ht
        obtain ⟨pos', hmore, hfits'⟩ := walk_step hu hturn hfits
        exact ⟨first, pos', hsets, hwalk.append hmore, hfits'⟩
      · rw [task_after hu hm] at ht
        obtain rfl := Option.some.inj ht
        rw [walkEvents_eq_nil hm, List.append_nil]
        exact ⟨first, pos, hsets, hwalk, hfits⟩
    · -- The task has just been added.
      have hnone : ((x.newRun s).afterAll s moves).tasks[i]? = none := List.getElem?_eq_none (Nat.le_of_eq heq.symm)
      have horigin := hadds.origin t (heq ▸ ht)
      obtain ⟨first, hstatus⟩ := horigin.first
      refine ⟨first, .ahead first, (happens_snoc moves m).mpr (.inr ⟨heq.symm, t, ht, horigin, hstatus⟩), ?_, ?_⟩
      · rw [trail_snoc, trail_eq_nil hnone, walkEvents_eq_nil (not_steps_of_none hnone)]
        exact .nil _
      · rw [hstatus]
        rfl

/-- An action is taken, and it ends with a code, only in an epoch that has not ended. -/
lemma live_of_walkEvents {m : Move} {e : WalkEvent} (he : e ∈ r.walkEvents s i m) (hne : ∀ p, e ≠ .enters p) :
    ∃ t, r.tasks[i]? = some t ∧ r.isCancelled t.token = false := by
  cases m with
  | step j =>
    rw [walkEvents] at he
    split at he
    · split at he
      · next p turn hturn =>
        obtain ⟨t, ht, -⟩ := Option.bind_eq_some_iff.mp hturn
        refine ⟨t, ht, ?_⟩
        by_contra hlive
        have hcancelled : r.isCancelled t.token = true := by simpa using hlive
        have htaken : r.taken? s (.step i) = none := by
          cases haction : r.taken? s (.step i) with
          | none => rfl
          | some a =>
            obtain ⟨u, q, hu, -, htakes⟩ := taken?_step_iff.mp haction
            obtain rfl := Option.some.inj (hu.symm.trans ht)
            have hlive := (of_isLive (live_of_action? htakes)).2
            rw [hcancelled] at hlive
            cases hlive
        rw [htaken, (turn_of_cancelled ht hcancelled hturn).1] at he
        simp only [Option.toList_none, List.map_nil, List.append_nil] at he
        obtain ⟨q, -, rfl⟩ := List.mem_map.mp he
        exact hne q rfl
      · cases he
    · cases he
  | _ => cases he

/-- Every walk is a path of the graph.  It begins at the entry node when the run is started, at the second successor of
a fork, or at the point entered last when the run is resumed, and it leads to where its task stands.  Actions are
taken, and end with a code, only while the run is running and the epoch of the task has not ended.  A step is the work
on one action at most, and what follows from its turn. -/
theorem walks_are_paths (x : Ensemble) (s : Setup) (moves : List Move) (i : Nat) :
    let r := (x.newRun s).afterAll s moves
    (∀ t, r.tasks[i]? = some t → ∃ first pos, (x.newRun s).Happens s (SetsOut s i first) moves ∧
      Walk s.definition (.ahead first) ((x.newRun s).trail s i moves) pos ∧ pos.Fits t.status) ∧
    (∀ m, ∀ e ∈ r.walkEvents s i m, (∀ p, e ≠ .enters p) →
      r.state = .running ∧ ∃ t, r.tasks[i]? = some t ∧ r.isCancelled t.token = false) ∧
    ∀ r', r.step? s i = some r' → ∃ t p turn q, r.tasks[i]? = some t ∧ r.turn? s i = some (p, turn) ∧
      r.Worked s i t p turn q ∧ r' = q.close s i t p turn := by
  intro r
  refine ⟨?_, ?_, ?_⟩
  · intro t ht
    exact walk_afterAll x s moves ht
  · intro m e he hne
    obtain ⟨t, ht, hlive⟩ := live_of_walkEvents he hne
    exact ⟨(current_of_live (sound_afterAll x s moves) (List.mem_of_getElem? ht) hlive).1, t, ht, hlive⟩
  · intro r' hstep
    exact step_cases hstep

/-- A walk that goes on by the choice of the host: the second successor for the code one. -/
theorem walks_are_paths_choice :
    let nodes : Dict Node :=
      [("a", { Node.ofPrimitive .waitOption with next := [none, some "b"] }), ("b", Node.ofPrimitive .nop)]
    let s : Setup := { definition := { scenarioId := 1, content := { entry := "a", nodes } }, folder := [] }
    let x : Ensemble := { files := {} }
    let moves : List Move := [.start, .step 0, .answer 1 (.value 1), .step 0]
    let r := (x.newRun s).afterAll s moves
    (∃ first pos, (x.newRun s).Happens s (SetsOut s 0 first) moves ∧ Walk s.definition (.ahead first)
      [.enters ⟨"a", none⟩, .acts ⟨"a", none⟩, .returns ⟨"a", none⟩ 1] pos) ∧
    r.walkEvents s 0 (.step 0) = [.enters ⟨"b", some 1⟩, .acts ⟨"b", some 1⟩, .returns ⟨"b", some 1⟩ 0] ∧
    r.state = .running ∧
    ∃ t p turn q, r.turn? s 0 = some (p, turn) ∧ r.Worked s 0 t p turn q ∧
      r.after s (.step 0) = q.close s 0 t p turn := by
  intro nodes s x moves r
  have htrail : (x.newRun s).trail s 0 moves =
      [.enters ⟨"a", none⟩, .acts ⟨"a", none⟩, .returns ⟨"a", none⟩ 1] := by decide +kernel
  have hevents : r.walkEvents s 0 (.step 0) =
      [.enters ⟨"b", some 1⟩, .acts ⟨"b", some 1⟩, .returns ⟨"b", some 1⟩ 0] := by decide +kernel
  have hacts : WalkEvent.acts ⟨"b", some 1⟩ ∈ r.walkEvents s 0 (.step 0) := by simp [hevents]
  have htask : r.tasks[0]?.isSome = true := by decide +kernel
  have hstep : (r.step? s 0).isSome = true := by decide +kernel
  obtain ⟨t, ht⟩ := Option.isSome_iff_exists.mp htask
  obtain ⟨r', hr'⟩ := Option.isSome_iff_exists.mp hstep
  obtain ⟨hpaths, hlive, hsteps⟩ := walks_are_paths x s moves 0
  obtain ⟨first, pos, hfirst, hwalk, -⟩ := hpaths t ht
  rw [htrail] at hwalk
  obtain ⟨hrunning, -⟩ := hlive (.step 0) _ hacts (by simp)
  obtain ⟨u, p, turn, q, -, hturn, hworked, hclose⟩ := hsteps r' hr'
  have hafter : r.after s (.step 0) = r' := by rw [after, hr', Option.getD_some]
  exact ⟨⟨first, pos, hfirst, hwalk⟩, hevents, hrunning, u, p, turn, q, hturn, hworked, hafter.trans hclose⟩

end Run

end FieldStudy
