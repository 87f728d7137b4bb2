import FieldStudy.Text.Blank
import FieldStudy.Text.Split
import FieldStudy.Recording.Error

/-!
# Field formats

A field has a byte order and a code that fixes its width and its kind of number. A format has two
texts: two characters such as `<H`, and a datatype of three keywords such as
`UNSIGNED,16BIT,LITTLEENDIAN`.
-/

namespace FieldStudy

/-- Which byte of a field comes first. -/
inductive Endian
  | little
  | big
deriving DecidableEq, Repr

/-- The number that a field holds. -/
inductive FieldCode
  | int8 | uint8 | int16 | uint16 | int32 | uint32 | int64 | uint64 | float32 | float64
deriving DecidableEq, Repr

/-- The kind of number of a field, its width apart. -/
inductive FieldKind
  | signed | unsigned | float
deriving DecidableEq, Repr

structure FieldFormat where
  endian : Endian
  code : FieldCode
deriving DecidableEq, Repr

namespace FieldCode

/-- Width in bytes. -/
def size : FieldCode → Nat
  | .int8 | .uint8 => 1
  | .int16 | .uint16 => 2
  | .int32 | .uint32 | .float32 => 4
  | .int64 | .uint64 | .float64 => 8

def kind : FieldCode → FieldKind
  | .int8 | .int16 | .int32 | .int64 => .signed
  | .uint8 | .uint16 | .uint32 | .uint64 => .unsigned
  | .float32 | .float64 => .float

theorem size_pos (c : FieldCode) : 0 < c.size := by cases c <;> decide

def letter : FieldCode → Char
  | .int8 => 'b'
  | .uint8 => 'B'
  | .int16 => 'h'
  | .uint16 => 'H'
  | .int32 => 'l'
  | .uint32 => 'L'
  | .int64 => 'q'
  | .uint64 => 'Q'
  | .float32 => 'f'
  | .float64 => 'd'

def all : List FieldCode :=
  [.int8, .uint8, .int16, .uint16, .int32, .uint32, .int64, .uint64, .float32, .float64]

def ofLetter? (c : Char) : Option FieldCode := all.find? (·.letter == c)

def kindKeyword (c : FieldCode) : String :=
  match c.kind with
  | .signed => "SIGNED"
  | .unsigned => "UNSIGNED"
  | .float => "FLOAT"

def widthKeyword (c : FieldCode) : String :=
  match c.size with
  | 1 => "8BIT"
  | 2 => "16BIT"
  | 4 => "32BIT"
  | _ => "64BIT"

/-- The code of a kind and a width. Widths of 12 and 20 bits are carried in 16 and 32 bits, and the
narrow floats in 32. -/
def ofKeywords? (kind width : String) : Option FieldCode :=
  match kind, width with
  | "SIGNED", "8BIT" => some .int8
  | "SIGNED", "12BIT" | "SIGNED", "16BIT" => some .int16
  | "SIGNED", "20BIT" | "SIGNED", "32BIT" => some .int32
  | "SIGNED", "64BIT" => some .int64
  | "UNSIGNED", "8BIT" => some .uint8
  | "UNSIGNED", "12BIT" | "UNSIGNED", "16BIT" => some .uint16
  | "UNSIGNED", "20BIT" | "UNSIGNED", "32BIT" => some .uint32
  | "UNSIGNED", "64BIT" => some .uint64
  | "FLOAT", "8BIT" | "FLOAT", "12BIT" | "FLOAT", "16BIT" | "FLOAT", "20BIT" | "FLOAT", "32BIT" =>
    some .float32
  | "FLOAT", "64BIT" => some .float64
  | _, _ => none

end FieldCode

namespace Endian

def sign : Endian → Char
  | .little => '<'
  | .big => '>'

def keyword : Endian → String
  | .little => "LITTLEENDIAN"
  | .big => "BIGENDIAN"

def ofSign? : Char → Option Endian
  | '<' => some .little
  | '>' => some .big
  | _ => none

def ofKeyword? : String → Option Endian
  | "LITTLEENDIAN" => some .little
  | "BIGENDIAN" => some .big
  | _ => none

end Endian

namespace FieldFormat

def size (f : FieldFormat) : Nat := f.code.size

/-- The two characters of a format. -/
def compact (f : FieldFormat) : String := String.ofList [f.endian.sign, f.code.letter]

def ofCompact (text : String) : Except RecordingError FieldFormat :=
  let found := match text.toList with
    | [e, c] => do return ⟨← Endian.ofSign? e, ← FieldCode.ofLetter? c⟩
    | _ => none
  match found with
  | some f => .ok f
  | none => .error (.unknownDatatype text)

/-- The three keywords of a format. -/
def datatype (f : FieldFormat) : String :=
  f.code.kindKeyword ++ "," ++ f.code.widthKeyword ++ "," ++ f.endian.keyword

/-- Reads the first three parts of a datatype, blanks around each left out. -/
def ofParts? : List (List Char) → Option FieldFormat
  | kind :: width :: endian :: _ => do
    let text (cs : List Char) := String.ofList (Text.trimBlank cs)
    return ⟨← Endian.ofKeyword? (text endian), ← FieldCode.ofKeywords? (text kind) (text width)⟩
  | _ => none

def ofDatatype (datatype : String) : Except RecordingError FieldFormat :=
  match ofParts? (Text.splitAll ',' datatype.toList) with
  | some f => .ok f
  | none => .error (.unknownDatatype datatype)

end FieldFormat

end FieldStudy
