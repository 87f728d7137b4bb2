import FieldStudy.Text.Alphanumeric
import FieldStudy.Text.Split

/-!
# File names
-/

namespace FieldStudy

/-- Whether a name ends in an extension of three bytes, each character a letter, a numeral or an
underscore, with something before the point. -/
def hasExtension (name : List Char) : Bool :=
  match Text.splitLast '.' name with
  | some (stem, extension) =>
    !stem.isEmpty && (String.ofList extension).utf8ByteSize == 3 &&
      extension.all fun c => Text.isAlphanumeric c || c == '_'
  | none => false

/-- The name, with the extension behind it unless it has one. -/
def fileName (name extension : String) : String :=
  if hasExtension name.toList then name else name ++ "." ++ extension

end FieldStudy
