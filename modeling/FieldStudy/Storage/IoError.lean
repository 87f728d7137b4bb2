/-!
# Failures of reading and writing
-/

namespace FieldStudy

/-- Why a file or a sink could not be read or written. -/
inductive IoError
  /-- The data ends before what was to be read. -/
  | endOfData
  /-- A sink refuses the data. -/
  | refused (reason : String)
  /-- A file name holds a NUL character. -/
  | nulInName
  | notFound
  | exists
  | notFolder
  | isFolder
  | nameTooLong
deriving DecidableEq, Repr

def IoError.message : IoError → String
  | .endOfData => "failed to fill whole buffer"
  | .refused reason => reason
  | .nulInName => "file name contained an unexpected NUL byte"
  | .notFound => "No such file or directory (os error 2)"
  | .exists => "File exists (os error 17)"
  | .notFolder => "Not a directory (os error 20)"
  | .isFolder => "Is a directory (os error 21)"
  | .nameTooLong => "File name too long (os error 36)"

end FieldStudy
