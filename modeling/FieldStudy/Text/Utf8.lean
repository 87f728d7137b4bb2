/-!
# Texts as bytes

`Utf8.decode` reads bytes as text and says where and how they first fail to be text: the length of
the longest part that could still have begun a character, or that the bytes end inside one.
-/

namespace FieldStudy

/-- Bytes that are no text. `length` is the number of bytes to blame; without it the bytes end inside
a character. -/
structure Utf8Error where
  index : Nat
  length : Option Nat
deriving DecidableEq, Repr

def Utf8Error.message (e : Utf8Error) : String :=
  match e.length with
  | some n => s!"invalid utf-8 sequence of {n} bytes from index {e.index}"
  | none => s!"incomplete utf-8 byte sequence from index {e.index}"

namespace Utf8

def encode (cs : List Char) : List UInt8 := cs.flatMap String.utf8EncodeChar

def isContinuation (b : UInt8) : Bool := 0x80 ≤ b && b ≤ 0xBF

/-- Whether `b` may follow the first byte `a` of a character. The narrower ranges keep out overlong
forms, surrogates and numbers above the last code point. -/
def maySecond (a b : UInt8) : Bool :=
  if a = 0xE0 then 0xA0 ≤ b && b ≤ 0xBF
  else if a = 0xED then 0x80 ≤ b && b ≤ 0x9F
  else if a = 0xF0 then 0x90 ≤ b && b ≤ 0xBF
  else if a = 0xF4 then 0x80 ≤ b && b ≤ 0x8F
  else isContinuation b

/-- How many bytes a character takes that begins with this byte. -/
def width? (a : UInt8) : Option Nat :=
  if a < 0x80 then some 1
  else if 0xC2 ≤ a && a ≤ 0xDF then some 2
  else if 0xE0 ≤ a && a ≤ 0xEF then some 3
  else if 0xF0 ≤ a && a ≤ 0xF4 then some 4
  else none

/-- The low six bits of the following bytes, appended to those of the first. -/
def join (start : Nat) (rest : List UInt8) : Char :=
  Char.ofNat (rest.foldl (fun n b => n * 64 + b.toNat % 64) start)

/-- Reads the bytes from position `index` on. -/
def decodeFrom (index : Nat) : List UInt8 → Except Utf8Error (List Char)
  | [] => .ok []
  | a :: rest =>
    let invalid (n : Nat) : Except Utf8Error (List Char) := .error ⟨index, some n⟩
    match width? a with
    | none => invalid 1
    | some 1 => return Char.ofNat a.toNat :: (← decodeFrom (index + 1) rest)
    | some 2 =>
      match rest with
      | [] => .error ⟨index, none⟩
      | b :: rest =>
        if !maySecond a b then invalid 1
        else return join (a.toNat % 32) [b] :: (← decodeFrom (index + 2) rest)
    | some 3 =>
      match rest with
      | [] => .error ⟨index, none⟩
      | b :: rest =>
        if !maySecond a b then invalid 1
        else match rest with
          | [] => .error ⟨index, none⟩
          | c :: rest =>
            if !isContinuation c then invalid 2
            else return join (a.toNat % 16) [b, c] :: (← decodeFrom (index + 3) rest)
    | some _ =>
      match rest with
      | [] => .error ⟨index, none⟩
      | b :: rest =>
        if !maySecond a b then invalid 1
        else match rest with
          | [] => .error ⟨index, none⟩
          | c :: rest =>
            if !isContinuation c then invalid 2
            else match rest with
              | [] => .error ⟨index, none⟩
              | d :: rest =>
                if !isContinuation d then invalid 3
                else return join (a.toNat % 8) [b, c, d] :: (← decodeFrom (index + 4) rest)

/-- The text that the bytes hold. -/
def decode (bytes : List UInt8) : Except Utf8Error (List Char) := decodeFrom 0 bytes

end Utf8

end FieldStudy
