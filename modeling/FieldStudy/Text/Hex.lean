/-!
# Hexadecimal text
-/

namespace FieldStudy.Hex

def digits : List Char := "0123456789abcdef".toList

/-- The digit for a number below sixteen; of a larger one the last digit. -/
def digit (n : Nat) : Char := digits.getD (n % 16) '0'

/-- The last so many digits of a number. -/
def word (digits n : Nat) : String :=
  String.ofList ((List.range digits).reverse.map fun i => digit (n / Nat.pow 16 i))

/-- Two digits for each byte. -/
def ofBytes (bytes : List UInt8) : String :=
  String.ofList (bytes.flatMap fun b => [digit (b.toNat / 16), digit b.toNat])

/-- The value of a digit in either case. -/
def value? (c : Char) : Option Nat :=
  if '0' ≤ c ∧ c ≤ '9' then some (c.toNat - '0'.toNat)
  else if 'a' ≤ c ∧ c ≤ 'f' then some (c.toNat - 'a'.toNat + 10)
  else if 'A' ≤ c ∧ c ≤ 'F' then some (c.toNat - 'A'.toNat + 10)
  else none

end FieldStudy.Hex
