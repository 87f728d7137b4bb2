import FieldStudy.Json.Basic
import FieldStudy.Text.Hex
import FieldStudy.Text.Split

/-!
# Writing JSON

`Json.compact` writes a value without white space, `Json.pretty` with one member or item a line,
indented by two blanks. Members are written in the order in which the object lists them.
-/

namespace FieldStudy

namespace Json

/-- Floating point numbers are written with the fewest digits that read back, without an exponent from
0.00001 up to sixteen digits before the point. -/
def floatLayout : Decimal.Layout := ⟨-4, 16, 'e', ['+']⟩

/-- The escape of a code unit by four hexadecimal digits. -/
def unitEscape (n : Nat) : List Char :=
  '\\' :: 'u' :: [n / 4096, n / 256, n / 16, n].map Hex.digit

/-- How a character stands in a string: quotes, backslashes and control characters are escaped. -/
def escapeChar : Char → List Char
  | '"' => ['\\', '"']
  | '\\' => ['\\', '\\']
  | '\x08' => ['\\', 'b']
  | '\x0c' => ['\\', 'f']
  | '\n' => ['\\', 'n']
  | '\r' => ['\\', 'r']
  | '\t' => ['\\', 't']
  | c => if c.toNat < 0x20 then unitEscape c.toNat else [c]

def quote (s : String) : List Char := '"' :: (s.toList.flatMap escapeChar ++ ['"'])

/-- A number that JSON cannot write is written as null. -/
def floatChars (x : Double) : List Char := (floatLayout.writeDouble? x).getD "null".toList

def boolChars (b : Bool) : List Char := (if b then "true" else "false").toList

mutual

def compactChars : Json → List Char
  | .null => "null".toList
  | .bool b => boolChars b
  | .int n => Decimal.intChars n
  | .float x => floatChars x
  | .str s => quote s
  | .arr items => '[' :: (Text.join [','] (compactItems items) ++ [']'])
  | .obj members => '\x7b' :: (Text.join [','] (compactMembers members) ++ ['\x7d'])

def compactItems : List Json → List (List Char)
  | [] => []
  | v :: rest => compactChars v :: compactItems rest

def compactMembers : List (String × Json) → List (List Char)
  | [] => []
  | (k, v) :: rest => (quote k ++ ':' :: compactChars v) :: compactMembers rest

end

/-- A line break and the indentation of a level. -/
def lineBreak (level : Nat) : List Char := '\n' :: List.replicate (2 * level) ' '

/-- A container with its parts on lines of their own; without parts it is written on one line. -/
def prettyBlock (level : Nat) (opening closing : Char) (parts : List (List Char)) : List Char :=
  if parts.isEmpty then [opening, closing]
  else opening :: (lineBreak (level + 1) ++ Text.join (',' :: lineBreak (level + 1)) parts ++
    lineBreak level ++ [closing])

mutual

def prettyChars (level : Nat) : Json → List Char
  | .arr items => prettyBlock level '[' ']' (prettyItems (level + 1) items)
  | .obj members => prettyBlock level '\x7b' '\x7d' (prettyMembers (level + 1) members)
  | .null => "null".toList
  | .bool b => boolChars b
  | .int n => Decimal.intChars n
  | .float x => floatChars x
  | .str s => quote s

def prettyItems (level : Nat) : List Json → List (List Char)
  | [] => []
  | v :: rest => prettyChars level v :: prettyItems level rest

def prettyMembers (level : Nat) : List (String × Json) → List (List Char)
  | [] => []
  | (k, v) :: rest => (quote k ++ ':' :: ' ' :: prettyChars level v) :: prettyMembers level rest

end

def compact (v : Json) : String := String.ofList (compactChars v)

def pretty (v : Json) : String := String.ofList (prettyChars 0 v)

/-! ## Text within ASCII -/

/-- Replaces each character beyond ASCII by escapes of its UTF-16 code units. Within a JSON text such
characters stand in strings only. -/
def asciiEscape (c : Char) : List Char :=
  let n := c.toNat
  if n < 0x80 then [c]
  else if n < 0x10000 then unitEscape n
  else unitEscape (0xD800 + (n - 0x10000) / 0x400) ++ unitEscape (0xDC00 + (n - 0x10000) % 0x400)

/-- The compact text with every character beyond ASCII escaped. -/
def compactAscii (v : Json) : String := String.ofList ((compactChars v).flatMap asciiEscape)

end Json

end FieldStudy
