/-!
# Splitting texts
-/

namespace FieldStudy.Text

/-- The pieces between the occurrences of a character; a text without it is one piece. -/
def splitAll (separator : Char) : List Char → List (List Char)
  | [] => [[]]
  | c :: rest =>
    match splitAll separator rest with
    | [] => [[]]
    | piece :: pieces => if c = separator then [] :: piece :: pieces else (c :: piece) :: pieces

/-- What stands before and after the first occurrence of a character. -/
def splitFirst (separator : Char) : List Char → Option (List Char × List Char)
  | [] => none
  | c :: rest =>
    if c = separator then some ([], rest)
    else (splitFirst separator rest).map fun (before, after) => (c :: before, after)

theorem splitFirst_append_cons {separator : Char} {before : List Char} (after : List Char)
    (h : separator ∉ before) :
    splitFirst separator (before ++ separator :: after) = some (before, after) := by
  induction before with
  | nil => simp [splitFirst]
  | cons c rest ih =>
    obtain ⟨hc, hrest⟩ : separator ≠ c ∧ separator ∉ rest := by simpa using h
    simp [splitFirst, hc.symm, ih hrest]

/-- What stands before and after the last occurrence of a character. -/
def splitLast (separator : Char) (cs : List Char) : Option (List Char × List Char) :=
  (splitFirst separator cs.reverse).map fun (after, before) => (before.reverse, after.reverse)

/-- What stands before the first occurrence of a piece, and what stands from it on. -/
def findPiece [BEq α] (piece : List α) : List α → Option (List α × List α)
  | [] => if piece.isEmpty then some ([], []) else none
  | c :: rest =>
    if piece.isPrefixOf (c :: rest) then some ([], c :: rest)
    else (findPiece piece rest).map fun (before, after) => (c :: before, after)

/-- The parts between the occurrences of a piece that is not empty. So many items are passed over first. -/
def splitPieces [BEq α] (piece : List α) : Nat → List α → List (List α)
  | _, [] => [[]]
  | skipped + 1, _ :: rest => splitPieces piece skipped rest
  | 0, c :: rest =>
    if piece.isPrefixOf (c :: rest) then [] :: splitPieces piece (piece.length - 1) rest
    else match splitPieces piece 0 rest with
      | [] => [[c]]
      | part :: parts => (c :: part) :: parts

/-- Joins pieces by a separator. -/
def join (separator : List Char) : List (List Char) → List Char
  | [] => []
  | [piece] => piece
  | piece :: rest => piece ++ separator ++ join separator rest

end FieldStudy.Text
