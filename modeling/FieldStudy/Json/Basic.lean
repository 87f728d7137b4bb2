import FieldStudy.Dict
import FieldStudy.Number.Decimal

/-!
# JSON values

Integers and floating point numbers are different values: `400` is not `400.0`. An object lists
its members; `canonical` puts them in key order, of several with one key the last one staying.
-/

namespace FieldStudy

/-- A JSON value. -/
inductive Json
  | null
  | bool (b : Bool)
  | int (n : Int)
  | float (x : Double)
  | str (s : String)
  | arr (items : List Json)
  | obj (members : List (String × Json))
deriving Inhabited

namespace Json

mutual

/-- Equality of values; the two zeros are one number. -/
def same : Json → Json → Bool
  | .null, .null => true
  | .bool a, .bool b => a == b
  | .int a, .int b => a == b
  | .float a, .float b => a.eqv b
  | .str a, .str b => a == b
  | .arr a, .arr b => sameItems a b
  | .obj a, .obj b => sameMembers a b
  | _, _ => false

def sameItems : List Json → List Json → Bool
  | [], [] => true
  | a :: as, b :: bs => same a b && sameItems as bs
  | _, _ => false

def sameMembers : List (String × Json) → List (String × Json) → Bool
  | [], [] => true
  | (k, a) :: as, (l, b) :: bs => k == l && same a b && sameMembers as bs
  | _, _ => false

end

instance : BEq Json := ⟨same⟩

mutual

/-- The value with the members of every object in key order. -/
def canonical : Json → Json
  | .arr items => .arr (canonicalItems items)
  | .obj members => .obj (Dict.ofList (canonicalMembers members))
  | v => v

def canonicalItems : List Json → List Json
  | [] => []
  | v :: rest => canonical v :: canonicalItems rest

def canonicalMembers : List (String × Json) → List (String × Json)
  | [] => []
  | (k, v) :: rest => (k, canonical v) :: canonicalMembers rest

end

/-! ## Looking into a value -/

/-- The members of an object. -/
def members? : Json → Option (Dict Json)
  | .obj members => some members
  | _ => none

def bool? : Json → Option Bool
  | .bool b => some b
  | _ => none

def str? : Json → Option String
  | .str s => some s
  | _ => none

/-- An integer that is not negative. -/
def nat? : Json → Option Nat
  | .int n => if 0 ≤ n then some n.toNat else none
  | _ => none

def get? (v : Json) (key : String) : Option Json := v.members?.bind (Dict.get? · key)

/-! ## Building values -/

/-- The value, or null. -/
def ofOption (f : α → Json) : Option α → Json
  | some a => f a
  | none => .null

def ofList (f : α → Json) (xs : List α) : Json := .arr (xs.map f)

/-- An object from a table, member by member. -/
def ofDict (f : α → Json) (d : Dict α) : Json := .obj (d.map fun (k, v) => (k, f v))

/-- A member that is left out when there is no value. -/
def optionalMember (key : String) (f : α → Json) : Option α → List (String × Json)
  | some a => [(key, f a)]
  | none => []

end Json

end FieldStudy
