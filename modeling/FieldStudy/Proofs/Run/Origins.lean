import Mathlib.Data.List.Basic
import Mathlib.Tactic.Common
import FieldStudy.Proofs.Run.Board

/-!
# Where tasks come from

A move adds one task at most: the main branch at a start, the main branch again when the run is resumed, or a branch
at the second successor of a fork (`Run.Origin`).
-/

namespace FieldStudy

namespace Board

/-- Only forks, resumptions and turns concern tasks. -/
lemma tasks_after {d : Deed} (b : Board) (hfork : ∀ branch token p, d ≠ .fork branch token p)
    (hresume : ∀ token p, d ≠ .resume token p) (hturn : ∀ i status, d ≠ .turn i status) :
    (b.after d).tasks = b.tasks := by
  cases d with
  | create name => rw [after]; split <;> rfl
  | reset name => rw [after]; split <;> rfl
  | set name => rw [after]; split <;> rfl
  | fork branch token p => exact absurd rfl (hfork branch token p)
  | resume token p => exact absurd rfl (hresume token p)
  | finish i => rw [after]; split <;> rfl
  | turn i status => exact absurd rfl (hturn i status)
  | clear => rfl

lemma tasks_afterAll_map {f : String → Deed} (hf : ∀ b name, (after b (f name)).tasks = b.tasks)
    (names : List String) (b : Board) : (b.afterAll (names.map f)).tasks = b.tasks := by
  induction names generalizing b with
  | nil => rfl
  | cons name rest ih => rw [List.map_cons, afterAll_cons, ih, hf]

end Board

namespace Run

variable {r : Run} {s : Setup} {i : Nat} {t : Task}

/-- How a move adds a task. -/
inductive Origin (s : Setup) (r : Run) : Move → Task → Prop
  | starts (h : r.state = .stopped) :
      Origin s r .start ⟨mainBranch, r.signals.next, r.tokens, .entering ⟨s.entry, none⟩⟩
  /-- The main branch goes on at the point entered last, under its former signal unless that is resolved. -/
  | resumes (h : r.state = .paused) (done : Nat)
      (hdone : r.board.kept? = some done ∨ (r.board.kept? = none ∧ done = r.signals.next)) :
      Origin s r .resume ⟨mainBranch, done, r.tokens, .entering (r.point.getD ⟨s.entry, none⟩)⟩
  | forks {i : Nat} {parent : Task} {p : Point} {node : Node} {branch entry : String}
      (hparent : r.tasks[i]? = some parent) (hstatus : parent.status = .entering p)
      (hnode : s.definition.node? p.node = some node) (htaken : r.taken? s (.step i) = some (.fork branch))
      (hentry : node.successor? 1 = some entry) :
      Origin s r (.step i) ⟨branch, r.signals.next, parent.token, .entering ⟨entry, none⟩⟩

/-- The tasks that stood in line or waited before are still there, with one more at most. -/
structure Adds (s : Setup) (r : Run) (m : Move) (tasks : List Task) : Prop where
  length : tasks.length ≤ r.tasks.length + 1
  origin : ∀ t, tasks[r.tasks.length]? = some t → r.Origin s m t

lemma Adds.same {m : Move} {tasks : List Task} (h : tasks.length = r.tasks.length) : r.Adds s m tasks where
  length := h ▸ Nat.le_succ _
  origin t ht := by
    rw [List.getElem?_eq_none (Nat.le_of_eq h)] at ht
    cases ht

lemma Adds.one {m : Move} (h : r.Origin s m t) : r.Adds s m (r.tasks ++ [t]) where
  length := by simp
  origin u hu := by
    rw [List.getElem?_append_right (Nat.le_refl _)] at hu
    obtain rfl : t = u := by simpa using hu
    exact h

/-- Taking a turn moves no task. -/
lemma Adds.turn {m : Move} {b : Board} {p : Point} {turn : Turn} (h : r.Adds s m b.tasks) (hi : i < r.tasks.length) :
    r.Adds s m (b.afterAll (turn.deeds i p)).tasks := by
  have hfinish : (b.after (.finish i)).tasks = b.tasks := b.tasks_after (by simp) (by simp) (by simp)
  have htasks : (b.afterAll (turn.deeds i p)).tasks = b.tasks.modify i fun t => { t with status := turn.status p } := by
    rw [Turn.deeds]
    split
    · exact congrArg (fun tasks : List Task => tasks.modify i fun t => { t with status := turn.status p }) hfinish
    · rfl
  rw [htasks]
  refine ⟨by simpa using h.length, fun t ht => h.origin t ?_⟩
  simpa [List.getElem?_modify, Nat.ne_of_lt hi] using ht

/-- An action adds a task if it is a fork. -/
lemma adds_actionDeeds : r.Adds s (.step i) (r.board.afterAll (r.actionDeeds s i)).tasks := by
  cases htaken : r.taken? s (.step i) with
  | none =>
    rw [actionDeeds_of_none htaken]
    exact .same rfl
  | some a =>
    obtain ⟨t, p, node, ht, hstatus, hnode, hdeeds⟩ := actionDeeds_of_taken? htaken
    rw [hdeeds]
    cases a with
    | fork branch =>
      cases hentry : node.successor? 1 with
      | none =>
        rw [Action.deeds, hentry]
        exact .same rfl
      | some entry =>
        rw [Action.deeds, hentry]
        exact .one (.forks ht hstatus hnode htaken hentry)
    | event op b =>
      have hnames {f : String → Deed} (hf : ∀ b name, (Board.after b (f name)).tasks = b.tasks) :
          r.Adds s (.step i) (r.board.afterAll (b.names.map f)).tasks :=
        .same (congrArg List.length (Board.tasks_afterAll_map hf b.names r.board))
      cases op with
      | create => exact hnames fun b name => b.tasks_after (by simp) (by simp) (by simp)
      | reset => exact hnames fun b name => b.tasks_after (by simp) (by simp) (by simp)
      | set => exact hnames fun b name => b.tasks_after (by simp) (by simp) (by simp)
      | wait => exact .same rfl
      | waitAll => exact .same rfl
    | _ => exact .same rfl

lemma adds_deeds (r : Run) (s : Setup) (m : Move) : r.Adds s m (r.board.afterAll (r.deeds s m)).tasks := by
  cases m with
  | start =>
    rw [deeds]
    split
    · next hstate =>
      cases (r.start s).1 with
      | ok done => exact .one (.starts hstate)
      | error e => exact .same rfl
    · exact .same rfl
  | resume =>
    rw [deeds]
    split
    · next hstate =>
      rw [Board.afterAll_cons, Board.afterAll_nil, Board.after]
      cases hkept : r.board.kept? with
      | none => exact .one (.resumes hstate _ (.inr ⟨hkept, rfl⟩))
      | some done => exact .one (.resumes hstate done (.inl hkept))
    · exact .same rfl
  | step i =>
    rw [deeds]
    cases hturn : r.turn? s i with
    | none => exact .same rfl
    | some pt =>
      obtain ⟨p, turn⟩ := pt
      obtain ⟨t, ht, -⟩ := Option.bind_eq_some_iff.mp hturn
      rw [Board.afterAll_append]
      exact adds_actionDeeds.turn (List.getElem?_eq_some_iff.mp ht).1
  | _ => exact .same rfl

/-- A move adds one task at most, and in no other way than these. -/
theorem adds_after (r : Run) (s : Setup) (m : Move) : r.Adds s m (r.after s m).tasks := by
  have h := r.adds_deeds s m
  rwa [← board_after] at h

end Run

end FieldStudy
