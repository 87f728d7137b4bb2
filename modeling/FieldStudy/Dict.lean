/-!
# Tables kept in key order

A `Dict α` lists pairs by ascending key, each key once. `ofList` lets a later pair replace an
earlier one of the same key. The small lemmas say what `insert` and `erase` do to `get?`.
-/

namespace FieldStudy

/-- A table from texts to values, listed by ascending key. -/
abbrev Dict (α : Type u) := List (String × α)

namespace Dict

variable {α : Type u} {β : Type v}

def get? : Dict α → String → Option α
  | [], _ => none
  | (k, v) :: rest, x => if k = x then some v else get? rest x

/-- Sets the value of a key, keeping the order of keys. -/
def insert : Dict α → String → α → Dict α
  | [], x, v => [(x, v)]
  | (k, w) :: rest, x, v =>
    if x = k then (x, v) :: rest
    else if x < k then (x, v) :: (k, w) :: rest
    else (k, w) :: insert rest x v

def erase (d : Dict α) (x : String) : Dict α := d.filter (·.1 != x)

def contains (d : Dict α) (x : String) : Bool := (d.get? x).isSome

def keys (d : Dict α) : List String := d.map Prod.fst

def values (d : Dict α) : List α := d.map Prod.snd

def mapValues (f : α → β) (d : Dict α) : Dict β := d.map fun (k, v) => (k, f v)

/-- The value of a key, replaced by `f`; absent keys stay absent. -/
def adjust (d : Dict α) (x : String) (f : α → α) : Dict α :=
  match d.get? x with
  | some v => d.insert x (f v)
  | none => d

def ofList (pairs : List (String × α)) : Dict α :=
  pairs.foldl (fun d (k, v) => insert d k v) []

/-! ## What the operations do to a look-up -/

@[simp] theorem get?_nil (x : String) : get? ([] : Dict α) x = none := rfl

theorem get?_cons (k : String) (v : α) (d : Dict α) (x : String) :
    get? ((k, v) :: d) x = if k = x then some v else get? d x := rfl

@[simp] theorem get?_insert_self (d : Dict α) (x : String) (v : α) :
    (d.insert x v).get? x = some v := by
  induction d with
  | nil => simp [insert, get?]
  | cons p rest ih =>
    obtain ⟨k, w⟩ := p
    unfold insert
    split
    · simp [get?]
    · split
      · simp [get?]
      · next h _ => simp [get?, ih, Ne.symm h]

theorem get?_insert_of_ne (d : Dict α) {x y : String} (v : α) (h : x ≠ y) :
    (d.insert x v).get? y = d.get? y := by
  induction d with
  | nil => simp [insert, get?, h]
  | cons p rest ih =>
    obtain ⟨k, w⟩ := p
    unfold insert
    split
    · next hk => subst hk; simp [get?, h]
    · split
      · simp [get?, h]
      · simp [get?, ih]

theorem get?_insert (d : Dict α) (x y : String) (v : α) :
    (d.insert x v).get? y = if x = y then some v else d.get? y := by
  by_cases h : x = y
  · subst h; simp
  · simp [h, get?_insert_of_ne d v h]

theorem get?_erase (d : Dict α) (x y : String) :
    (d.erase x).get? y = if x = y then none else d.get? y := by
  induction d with
  | nil => simp [erase]
  | cons p rest ih =>
    obtain ⟨k, w⟩ := p
    simp only [erase] at ih
    by_cases hk : k = x
    · subst hk
      simp only [erase, List.filter, bne_self_eq_false]
      rw [ih, get?_cons]
      by_cases h : k = y <;> simp [h]
    · have hb : (k != x) = true := by simp [hk]
      simp only [erase, List.filter, hb, get?_cons]
      rw [ih]
      by_cases hy : k = y
      · subst hy; simp [Ne.symm hk]
      · simp [hy]

end Dict

end FieldStudy
