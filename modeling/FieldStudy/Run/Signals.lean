/-!
# Signals

A signal is resolved at most once and keeps its value. Named events and the ends of branches are
signals. The small lemmas say what creating and resolving do to the values.
-/

namespace FieldStudy

/-- All signals of a run; each is known by its place. -/
structure Signals where
  values : List (Option Int) := []
deriving DecidableEq, Repr

namespace Signals

def value? (s : Signals) (id : Nat) : Option Int := (s.values[id]?).join

def isResolved (s : Signals) (id : Nat) : Bool := (s.value? id).isSome

/-- The place of the next signal that is created. -/
def next (s : Signals) : Nat := s.values.length

/-- Adds an unresolved signal at the place `next`. -/
def create (s : Signals) : Signals := ⟨s.values ++ [none]⟩

/-- Gives a signal its value; a signal that has one keeps it. -/
def resolve (s : Signals) (id : Nat) (value : Int) : Signals :=
  if s.isResolved id then s else ⟨s.values.set id (some value)⟩

/-- The value of the first of these signals that is resolved. -/
def firstResolved? (s : Signals) (ids : List Nat) : Option Int := ids.findSome? s.value?

def allResolved (s : Signals) (ids : List Nat) : Bool := ids.all s.isResolved

/-! ## Values -/

@[simp] theorem value?_create (s : Signals) (id : Nat) : s.create.value? id = s.value? id := by
  simp only [value?, create, List.getElem?_append]
  split
  · rfl
  · next h =>
    rw [List.getElem?_eq_none (Nat.le_of_not_lt h)]
    cases hid : id - s.values.length <;> simp

theorem value?_resolve_of_isSome {s : Signals} {id other : Nat} {value v : Int}
    (h : s.value? id = some v) : (s.resolve other value).value? id = some v := by
  unfold resolve
  split
  · exact h
  · next hr =>
    have hne : other ≠ id := by
      rintro rfl
      simp [isResolved, h] at hr
    simp only [value?, List.getElem?_set_ne hne]
    exact h

theorem value?_resolve_self {s : Signals} {id : Nat} (value : Int) (h : s.value? id = none)
    (hid : id < s.next) : (s.resolve id value).value? id = some value := by
  have hr : s.isResolved id = false := by simp [isResolved, h]
  simp only [next] at hid
  simp [resolve, hr, value?, hid]

theorem value?_resolve_of_ne {s : Signals} {id other : Nat} (value : Int) (h : other ≠ id) :
    (s.resolve other value).value? id = s.value? id := by
  unfold resolve
  split
  · rfl
  · simp only [value?, List.getElem?_set_ne h]

theorem value?_resolve {s : Signals} {id : Nat} (value : Int) (hid : id < s.next) (other : Nat) :
    (s.resolve id value).value? other = (s.value? other).or (if other = id then some value else none) := by
  by_cases h : other = id
  · subst h
    cases hv : s.value? other with
    | none => simp [value?_resolve_self value hv hid]
    | some v => simp [value?_resolve_of_isSome hv]
  · simp [value?_resolve_of_ne value (Ne.symm h), h]

/-! ## Places -/

@[simp] theorem next_create (s : Signals) : s.create.next = s.next + 1 := by simp [next, create]

@[simp] theorem next_resolve (s : Signals) (id : Nat) (value : Int) : (s.resolve id value).next = s.next := by
  unfold resolve
  split <;> simp [next]

end Signals

end FieldStudy
