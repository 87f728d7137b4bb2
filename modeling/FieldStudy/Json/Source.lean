import FieldStudy.Json.Basic
import FieldStudy.Text.Hex
import FieldStudy.Json.Numeral

/-!
# JSON texts

`Source.read?` reads a JSON text into a tree that keeps what the text says: repeated keys in their
order, and parts that are grammatical but stand for no value (`Source.unreadable`: a numeral beyond
the largest double, a lone surrogate escape, a container nested too deep). Such a part may be
skipped but not used. `Source.value?` is the value of a tree, `Source.ofJson` the tree of a value.
-/

namespace FieldStudy

/-- What a JSON text says. A key that holds a lone surrogate is absent. -/
inductive Source
  | null
  | bool (b : Bool)
  | int (n : Int)
  | float (x : Double)
  | str (s : String)
  | arr (items : List Source)
  | obj (members : List (Option String × Source))
  | unreadable
deriving Inhabited

namespace Source

/-! ## Trees and values -/

mutual

/-- The value of a tree; a later member replaces an earlier one of the same key. -/
def value? : Source → Option Json
  | .null => some .null
  | .bool b => some (.bool b)
  | .int n => some (.int n)
  | .float x => some (.float x)
  | .str s => some (.str s)
  | .arr items => (values? items).map .arr
  | .obj members => (memberValues? members).map fun ms => .obj (Dict.ofList ms)
  | .unreadable => none

def values? : List Source → Option (List Json)
  | [] => some []
  | s :: rest => do return (← value? s) :: (← values? rest)

def memberValues? : List (Option String × Source) → Option (List (String × Json))
  | [] => some []
  | (k, s) :: rest => do return (← k, ← value? s) :: (← memberValues? rest)

end

mutual

def ofJson : Json → Source
  | .null => .null
  | .bool b => .bool b
  | .int n => .int n
  | .float x => .float x
  | .str s => .str s
  | .arr items => .arr (ofItems items)
  | .obj members => .obj (ofMembers members)

def ofItems : List Json → List Source
  | [] => []
  | v :: rest => ofJson v :: ofItems rest

def ofMembers : List (String × Json) → List (Option String × Source)
  | [] => []
  | (k, v) :: rest => (some k, ofJson v) :: ofMembers rest

end

/-! ## Reading: tokens -/

def isSpace (c : Char) : Bool := c = ' ' || c = '\n' || c = '\t' || c = '\r'

def skipSpace (cs : List Char) : List Char := cs.dropWhile isSpace

/-- The four hexadecimal digits of an escape. -/
def readUnit : List Char → Option (Nat × List Char)
  | a :: b :: c :: d :: rest => do
    return ((((← Hex.value? a) * 16 + (← Hex.value? b)) * 16 + (← Hex.value? c)) * 16
      + (← Hex.value? d), rest)
  | _ => none

def isHighSurrogate (n : Nat) : Bool := 0xD800 ≤ n && n ≤ 0xDBFF
def isLowSurrogate (n : Nat) : Bool := 0xDC00 ≤ n && n ≤ 0xDFFF

/-- The character of a one-letter escape. -/
def escaped? : Char → Option Char
  | '"' => some '"'
  | '\\' => some '\\'
  | '/' => some '/'
  | 'b' => some '\x08'
  | 'f' => some '\x0c'
  | 'n' => some '\n'
  | 'r' => some '\r'
  | 't' => some '\t'
  | _ => none

/-- One element of a string text: a character, or a code unit given by an escape. -/
inductive StringPart
  | char (c : Char)
  | unit (n : Nat)

/-- The parts of a string up to its closing quote. -/
def readParts : List Char → Option (List StringPart × List Char)
  | [] => none
  | '"' :: rest => some ([], rest)
  | '\\' :: 'u' :: a :: b :: c :: d :: rest => do
    let (n, _) ← readUnit [a, b, c, d]
    let (parts, after) ← readParts rest
    return (.unit n :: parts, after)
  | '\\' :: e :: rest => do
    let c ← escaped? e
    let (parts, after) ← readParts rest
    return (.char c :: parts, after)
  | c :: rest => do
    if c = '\\' || c.toNat < 0x20 then none
    let (parts, after) ← readParts rest
    return (.char c :: parts, after)

/-- The characters of the parts, pairs of surrogates joined; nothing if a surrogate stands alone. -/
def joinParts : List StringPart → Option (List Char)
  | [] => some []
  | .char c :: rest => (joinParts rest).map (c :: ·)
  | .unit n :: rest =>
    if isLowSurrogate n then none
    else if isHighSurrogate n then
      match rest with
      | .unit m :: rest =>
        if isLowSurrogate m then
          (joinParts rest).map (Char.ofNat (0x10000 + (n - 0xD800) * 0x400 + (m - 0xDC00)) :: ·)
        else none
      | _ => none
    else (joinParts rest).map (Char.ofNat n :: ·)

/-- A string behind its opening quote; the text is absent if a surrogate stands alone. -/
def readString (cs : List Char) : Option (Option String × List Char) :=
  (readParts cs).map fun (parts, after) => ((joinParts parts).map String.ofList, after)

def digitValue (c : Char) : Nat := c.toNat - '0'.toNat

/-- A run of digits, possibly empty. -/
def readDigits (cs : List Char) : List Nat × List Char :=
  ((cs.takeWhile Char.isDigit).map digitValue, cs.dropWhile Char.isDigit)

/-- The digits before the point: a single zero, or digits that do not begin with one. -/
def readWhole (cs : List Char) : Option (List Nat × List Char) :=
  match readDigits cs with
  | ([], _) => none
  | (0 :: _ :: _, _) => none
  | found => some found

def readFraction : List Char → Option (List Nat × List Char)
  | '.' :: rest =>
    match readDigits rest with
    | ([], _) => none
    | found => some found
  | cs => some ([], cs)

def readExponent : List Char → Option (Option (Bool × List Nat) × List Char)
  | c :: rest =>
    if c = 'e' || c = 'E' then
      let (negative, rest) := match rest with
        | '+' :: rest => (false, rest)
        | '-' :: rest => (true, rest)
        | _ => (false, rest)
      match readDigits rest with
      | ([], _) => none
      | (digits, after) => some (some (negative, digits), after)
    else some (none, c :: rest)
  | [] => some (none, [])

def readNumeral (cs : List Char) : Option (Numeral × List Char) := do
  let (negative, cs) := match cs with
    | '-' :: rest => (true, rest)
    | _ => (false, cs)
  let (whole, cs) ← readWhole cs
  let (fraction, cs) ← readFraction cs
  let (exponent, cs) ← readExponent cs
  return (⟨negative, whole, fraction, exponent⟩, cs)

def ofNumeral (n : Numeral) : Source :=
  match n.value? with
  | some (.int n) => .int n
  | some (.float x) => .float x
  | none => .unreadable

/-- How deep a container may be nested to be readable. -/
def depthLimit : Nat := 127

/-- A container found at a depth. -/
def container (depth : Nat) (s : Source) : Source := if depth < depthLimit then s else .unreadable

/-! ## Reading: values

`fuel` bounds the number of nested calls. Each call is made on a text at least one character
shorter than the one before the last, so twice the length of the text is enough. -/

mutual

def readValue (depth : Nat) : Nat → List Char → Option (Source × List Char)
  | 0, _ => none
  | fuel + 1, cs =>
    match skipSpace cs with
    | 'n' :: 'u' :: 'l' :: 'l' :: rest => some (.null, rest)
    | 't' :: 'r' :: 'u' :: 'e' :: rest => some (.bool true, rest)
    | 'f' :: 'a' :: 'l' :: 's' :: 'e' :: rest => some (.bool false, rest)
    | '"' :: rest => (readString rest).map fun (s, after) => (s.elim .unreadable .str, after)
    | '[' :: rest =>
      match skipSpace rest with
      | ']' :: rest => some (container depth (.arr []), rest)
      | rest => (readItems (depth + 1) fuel rest).map fun (items, after) =>
          (container depth (.arr items), after)
    | '\x7b' :: rest =>
      match skipSpace rest with
      | '\x7d' :: rest => some (container depth (.obj []), rest)
      | rest => (readMembers (depth + 1) fuel rest).map fun (members, after) =>
          (container depth (.obj members), after)
    | cs => (readNumeral cs).map fun (n, after) => (ofNumeral n, after)

/-- The items of an array, at least one, up to the closing bracket. -/
def readItems (depth : Nat) : Nat → List Char → Option (List Source × List Char)
  | 0, _ => none
  | fuel + 1, cs => do
    let (item, rest) ← readValue depth fuel cs
    match skipSpace rest with
    | ',' :: rest =>
      let (items, after) ← readItems depth fuel rest
      return (item :: items, after)
    | ']' :: after => return ([item], after)
    | _ => none

/-- The members of an object, at least one, up to the closing brace. -/
def readMembers (depth : Nat) :
    Nat → List Char → Option (List (Option String × Source) × List Char)
  | 0, _ => none
  | fuel + 1, cs =>
    match skipSpace cs with
    | '"' :: rest => do
      let (key, rest) ← readString rest
      match skipSpace rest with
      | ':' :: rest =>
        let (value, rest) ← readValue depth fuel rest
        match skipSpace rest with
        | ',' :: rest =>
          let (members, after) ← readMembers depth fuel rest
          return ((key, value) :: members, after)
        | '\x7d' :: after => return ([(key, value)], after)
        | _ => none
      | _ => none
    | _ => none

end

/-- The tree of a JSON text; nothing but white space may follow the value. -/
def read? (text : String) : Option Source := do
  let cs := text.toList
  let (s, rest) ← readValue 0 (2 * cs.length + 2) cs
  if (skipSpace rest).isEmpty then some s else none

end Source

/-- The value of a JSON text. -/
def Json.read? (text : String) : Option Json := (Source.read? text).bind Source.value?

end FieldStudy
