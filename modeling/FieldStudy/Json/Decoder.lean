import FieldStudy.Json.Source

/-!
# Decoding JSON into types

A `Decoder α` reads a tree as a value of `α` or fails. Nothing is coerced: a number is no string, and
a floating point number is no integer. A structure is given as an object, whose unknown members
are skipped, or as an array of its fields in order of declaration (`Members`). A structure that
collects unknown members is given as an object only (`collected?`).
-/

namespace FieldStudy

/-- Reads a tree as a value. -/
abbrev Decoder (α : Type) := Source → Option α

namespace Decoder

def json : Decoder Json := Source.value?

def string : Decoder String
  | .str s => some s
  | _ => none

def boolean : Decoder Bool
  | .bool b => some b
  | _ => none

/-- A floating point number; integers are accepted. -/
def double : Decoder Double
  | .int n => some (.ofInt n)
  | .float x => some x
  | _ => none

/-- An integer from `low` to `high`. -/
def integer (low high : Int) : Decoder Int
  | .int n => if low ≤ n ∧ n ≤ high then some n else none
  | _ => none

/-- An integer of 64 bits with a sign. -/
def int64 : Decoder Int := integer Int64.minValue.toInt Int64.maxValue.toInt

/-- An integer of so many bits without a sign. -/
def natural (bits : Nat) : Decoder Nat := fun s => (integer 0 (Nat.pow 2 bits - 1 : Nat) s).map Int.toNat

/-- Null stands for absence. -/
def option (d : Decoder α) : Decoder (Option α)
  | .null => some none
  | s => (d s).map some

def list (d : Decoder α) : Decoder (List α)
  | .arr items => items.mapM d
  | _ => none

/-- An array of exactly two items. -/
def pair (d : Decoder α) (e : Decoder β) : Decoder (α × β)
  | .arr [a, b] => do return (← d a, ← e b)
  | _ => none

/-- A table; a later member replaces an earlier one of the same key. -/
def dict (d : Decoder α) : Decoder (Dict α)
  | .obj members => do
    return Dict.ofList (← members.mapM fun (k, s) => do return (← k, ← d s))
  | _ => none

/-- A table of arbitrary values. -/
def object : Decoder (Dict Json) := dict json

/-- One of several names, as a string or as an object whose only member it names. The value of that
member is null; `emptyToo` accepts an empty object as well. -/
def named (emptyToo : Bool) (find : String → Option α) : Decoder α
  | .str s => find s
  | .obj [(some k, .null)] => find k
  | .obj [(some k, .obj [])] => if emptyToo then find k else none
  | _ => none

/-- One text, or a list of texts. -/
def oneOrMany : Decoder (List String)
  | .str s => some [s]
  | s => list string s

/-! ## Structures -/

/-- The fields given for a structure, in order of declaration if it is given as an array. -/
structure Members where
  given : List (String × Source)
  positional : Bool

/-- Whether a list of pairs names no key twice. -/
def distinctKeys : List (String × Source) → Bool
  | [] => true
  | (k, _) :: rest => rest.all (·.1 != k) && distinctKeys rest

/-- The members of an object, if each has a readable key. -/
def readableMembers (members : List (Option String × Source)) :
    Option (List (String × Source)) :=
  members.mapM fun (k, s) => k.map (·, s)

/-- The fields of a structure with these names. No field may be given twice, and an array may not be
longer than the list of names. -/
def members? (names : List String) : Decoder Members
  | .obj members => do
    let known := (← readableMembers members).filter (names.contains ·.1)
    if distinctKeys known then some ⟨known, false⟩ else none
  | .arr items => if items.length ≤ names.length then some ⟨names.zip items, true⟩ else none
  | _ => none

/-- The fields of a structure with these names, and the table of all other members. -/
def collected? (names : List String) : Decoder (Members × Dict Json)
  | .obj members => do
    let members ← readableMembers members
    let (known, others) := members.partition (names.contains ·.1)
    let others ← others.mapM fun (k, s) => do return (k, ← json s)
    if distinctKeys known then some (⟨known, false⟩, Dict.ofList others) else none
  | _ => none

namespace Members

def find? (m : Members) (name : String) : Option Source :=
  (m.given.find? (·.1 == name)).map (·.2)

def required (m : Members) (name : String) (d : Decoder α) : Option α := (m.find? name).bind d

def withDefault (m : Members) (name : String) (default : α) (d : Decoder α) : Option α :=
  match m.find? name with
  | some s => d s
  | none => some default

/-- A field that null or its absence leaves empty. -/
def defaultNone (m : Members) (name : String) (d : Decoder α) : Option (Option α) :=
  m.withDefault name none (option d)

/-- A field that null leaves empty; in an object it may be absent, in an array it may not. -/
def optional (m : Members) (name : String) (d : Decoder α) : Option (Option α) :=
  match m.find? name with
  | some s => option d s
  | none => if m.positional then none else some none

end Members

end Decoder

end FieldStudy
