/-!
# Dates of timestamps

The date and time of a number of milliseconds since the beginning of 1970, in universal time and in the
proleptic Gregorian calendar.
-/

namespace FieldStudy.Timestamp

def msPerDay : Int := 86400000

/-- Year, month and day of a number of days since the beginning of 1970. Years are counted from March on, so
that the leap day is the last of its year; 400 years have 146097 days. -/
def civil (days : Int) : Int × Nat × Nat :=
  let shifted := days + 719468
  let era := shifted / 146097
  let dayOfEra := (shifted % 146097).toNat
  let yearOfEra :=
    (dayOfEra - dayOfEra / 1460 + dayOfEra / 36524 - dayOfEra / 146096) / 365
  let dayOfYear := dayOfEra - (365 * yearOfEra + yearOfEra / 4 - yearOfEra / 100)
  let monthFromMarch := (5 * dayOfYear + 2) / 153
  let day := dayOfYear - (153 * monthFromMarch + 2) / 5 + 1
  let month := if monthFromMarch < 10 then monthFromMarch + 3 else monthFromMarch - 9
  let year := yearOfEra + era * 400 + if month ≤ 2 then 1 else 0
  (year, month, day)

/-- A number with at least so many digits. -/
def padded (width n : Nat) : String :=
  let digits := Nat.toDigits 10 n
  String.ofList (List.replicate (width - digits.length) '0' ++ digits)

/-- A year with at least four digits; those beyond four digits and those before year 0 have a sign. -/
def yearText (year : Int) : String :=
  let size := padded 4 year.natAbs
  if year < 0 then "-" ++ size else if 9999 < year then "+" ++ size else size

/-- The first and the last year that have a text of their own. -/
def firstYear : Int := -262143
def lastYear : Int := 262142

/-- The date and time with milliseconds. -/
def format (ms : Int) : String :=
  let (year, month, day) := civil (ms / msPerDay)
  let time := (ms % msPerDay).toNat
  yearText year ++ "-" ++ padded 2 month ++ "-" ++ padded 2 day ++ "T" ++
    padded 2 (time / 3600000) ++ ":" ++ padded 2 (time / 60000 % 60) ++ ":" ++
    padded 2 (time / 1000 % 60) ++ "." ++ padded 3 (time % 1000) ++ "Z"

/-- The date and time; timestamps of other years are written as the beginning of 1970. -/
def text (ms : Int) : String :=
  let year := (civil (ms / msPerDay)).1
  if firstYear ≤ year ∧ year ≤ lastYear then format ms else format 0

end FieldStudy.Timestamp
