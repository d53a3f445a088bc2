/-
**Finite binary64 values, held as exact integers.**

A finite binary64 value is a sign and a magnitude word, the lower 63 bits of the usual format. The
words are ordered as the values are, so a magnitude is a plain natural number and neighbours differ
by one. Every such value is a whole number of units of `2 ^ -1074`; all arithmetic here is done on
these units, in `Nat`, so nothing depends on the floating-point operations of a machine.

* `Binary64.units` — the exact absolute value, in units of `2 ^ -1074`;
* `Binary64.roundUnits` — the nearest magnitude to a quotient of natural numbers, a half going to
  the even neighbour;
* `Binary64.times?`, `Binary64.over?`, `Binary64.ofDecimal?` — correctly rounded operations, `none`
  where the result is too large to be finite.
-/

import PageAttributes.Number.Power

namespace PageAttributes

/-- The first magnitude word that no longer stands for a finite value. -/
def Binary64.limit : Nat := 2047 * twoTo 52

/-- A finite binary64 value: its sign, and the exponent and fraction bits as one number. -/
structure Binary64 where
  negative : Bool
  magnitude : Nat
  finite : magnitude < Binary64.limit
deriving DecidableEq

namespace Binary64

/-- The absolute value of a magnitude word, in units of `2 ^ -1074`. Below `2 ^ 52` the word counts
units; above, the fraction with its leading one is shifted by the exponent. -/
def wordUnits (magnitude : Nat) : Nat :=
  if magnitude < twoTo 52 then magnitude
  else (twoTo 52 + magnitude % twoTo 52) * twoTo (magnitude / twoTo 52 - 1)

/-- The exact absolute value, in units of `2 ^ -1074`. -/
def units (value : Binary64) : Nat := wordUnits value.magnitude

/-- The zero of the given sign. -/
def zero (negative : Bool) : Binary64 := ⟨negative, 0, by decide⟩

instance : Inhabited Binary64 := ⟨zero false⟩

/-- Both zeros, and nothing else. -/
def isZero (value : Binary64) : Bool := value.magnitude == 0

/-- The value with the given sign. -/
def withSign (value : Binary64) (negative : Bool) : Binary64 := { value with negative := negative }

/-- Equality of the values: the two zeros are equal, and no other two words are. -/
def same (first second : Binary64) : Bool :=
  first.magnitude == second.magnitude &&
    (first.negative == second.negative || first.magnitude == 0)

/-- The value has no fractional part. -/
def isWhole (value : Binary64) : Bool := value.units % twoTo 1074 == 0

/-- The magnitude word nearest to `numerator / denominator` units, a half going to the even word.
The quotient keeps 53 significant bits; a result at or above `limit` means that the value is too
large to be finite. -/
def roundUnits (numerator denominator : Nat) : Nat :=
  let shift := Nat.log2 (numerator / denominator) + 1 - 53
  let divisor := denominator * twoTo shift
  let quotient := numerator / divisor
  let remainder := numerator % divisor
  let up := divisor < 2 * remainder ∨ (2 * remainder = divisor ∧ quotient % 2 = 1)
  shift * twoTo 52 + (if up then quotient + 1 else quotient)

/-- The value nearest to `numerator / denominator` units, if it is finite. -/
def ofUnits? (negative : Bool) (numerator denominator : Nat) : Option Binary64 :=
  let magnitude := roundUnits numerator denominator
  if finite : magnitude < limit then some ⟨negative, magnitude, finite⟩ else none

/-- The value nearest to `numerator / denominator`, if it is finite. -/
def ofRatio? (negative : Bool) (numerator denominator : Nat) : Option Binary64 :=
  ofUnits? negative (numerator * twoTo 1074) denominator

/-- The value nearest to a natural number, if it is finite. -/
def ofNat? (value : Nat) : Option Binary64 := ofRatio? false value 1

/-- The product, rounded. -/
def times? (first second : Binary64) : Option Binary64 :=
  ofUnits? (first.negative != second.negative) (first.units * second.units) (twoTo 1074)

/-- The quotient, rounded; a division by zero has no finite value. -/
def over? (first second : Binary64) : Option Binary64 :=
  if second.isZero then none
  else ofUnits? (first.negative != second.negative) (first.units * twoTo 1074) second.units

/-- The decimal digits of a number, how many there are. Zero has one. -/
def digitCount (value : Nat) : Nat := (Nat.toDigits 10 value).length

/-- The value nearest to `significand * 10 ^ exponent`, if it is finite. Exponents far outside the
range are settled by the number of digits, without forming the power. -/
def ofDecimal? (negative : Bool) (significand : Nat) (exponent : Int) : Option Binary64 :=
  if significand = 0 then some (zero negative)
  else
    let leading := exponent + digitCount significand
    if 400 < leading then none
    else if leading < -400 then some (zero negative)
    else if 0 ≤ exponent then ofRatio? negative (significand * tenTo exponent.toNat) 1
    else ofRatio? negative significand (tenTo (-exponent).toNat)

end Binary64

end PageAttributes
