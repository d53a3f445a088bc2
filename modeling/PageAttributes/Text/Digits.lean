/-
**Digits.**

* `isDecimal`, `isOctal`, `isHexadecimal` — the digits of three bases;
* `ofDigits` — the number that digits in a base write.
-/

namespace PageAttributes.Text

/-- A decimal digit. -/
def isDecimal (value : Char) : Bool := '0' ≤ value && value ≤ '9'

/-- An octal digit. -/
def isOctal (value : Char) : Bool := '0' ≤ value && value ≤ '7'

/-- A binary digit. -/
def isBinary (value : Char) : Bool := value == '0' || value == '1'

/-- The value of a hexadecimal digit. -/
def hexadecimal? (value : Char) : Option Nat :=
  if '0' ≤ value ∧ value ≤ '9' then some (value.toNat - '0'.toNat)
  else if 'a' ≤ value ∧ value ≤ 'f' then some (value.toNat - 'a'.toNat + 10)
  else if 'A' ≤ value ∧ value ≤ 'F' then some (value.toNat - 'A'.toNat + 10)
  else none

/-- A hexadecimal digit. -/
def isHexadecimal (value : Char) : Bool := (hexadecimal? value).isSome

/-- The number that digits in a base write. -/
def ofDigits (base : Nat) (digits : List Char) : Nat :=
  digits.foldl (fun total digit => total * base + (hexadecimal? digit).getD 0) 0

end PageAttributes.Text
