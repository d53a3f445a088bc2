/-
**The shortest decimal that reads back as a binary64 value.**

The decimals that round to a value fill the interval between its two midpoints with the neighbouring
words (the ends belong to it when the word is even). For one digit, then two, and so on, the two
neighbours of the value on the decimal grid are tested against the interval, in exact arithmetic:
the first grid with a hit wins, and of two hits the nearer.

* `Binary64.shortest` — the significant digits and the power of ten;
* `DecimalLayout.write` — how such a decimal is written out.
-/

import PageAttributes.Number.Binary64

namespace PageAttributes

/-- A positive decimal, `digits * 10 ^ exponent`. -/
structure Decimal where
  digits : Nat
  exponent : Int
deriving DecidableEq, Repr

namespace Decimal

/-- The exponent of the leading digit. -/
def leading (decimal : Decimal) : Int :=
  decimal.exponent + Binary64.digitCount decimal.digits - 1

/-- Drops zeros at the end of the digits, at most `count` of them. -/
def trim : Nat → Decimal → Decimal
  | 0, decimal => decimal
  | count + 1, decimal =>
    if decimal.digits % 10 = 0 ∧ decimal.digits ≠ 0 then
      trim count ⟨decimal.digits / 10, decimal.exponent + 1⟩
    else decimal

end Decimal

namespace Binary64

/-- The exponent of the leading decimal digit of a positive number of units. Every such number is
above `10 ^ -324`, so after scaling by `10 ^ 324` the leading digit is a whole one. -/
def leadingExponent (units : Nat) : Int :=
  (digitCount (units * tenTo 324 / twoTo 1074) : Int) - 325

/-- The point of the grid `10 ^ exponent` that stands for a magnitude word, if the grid has one: of
the two neighbours of the value, the one inside the rounding interval, or the nearer of both. -/
def onGrid (magnitude : Nat) (exponent : Int) : Option Nat :=
  let above := if 0 ≤ exponent then twoTo 1074 * tenTo exponent.toNat else twoTo 1074
  let below := if 0 ≤ exponent then 1 else tenTo (-exponent).toNat
  let value := wordUnits magnitude
  let low := (wordUnits (magnitude - 1) + value) * below
  let high := (value + wordUnits (magnitude + 1)) * below
  let inside (candidate : Nat) : Bool :=
    let twice := 2 * candidate * above
    if magnitude % 2 = 0 then low ≤ twice && twice ≤ high else low < twice && twice < high
  let floor := value * below / above
  let remainder := value * below % above
  let floorIsNearer := 2 * remainder < above ∨ (2 * remainder = above ∧ floor % 2 = 0)
  match inside floor, inside (floor + 1) with
  | true, true => some (if floorIsNearer then floor else floor + 1)
  | true, false => some floor
  | false, true => some (floor + 1)
  | false, false => none

/-- The first grid with a hit, starting at `10 ^ exponent` and refining at most `finer` times. -/
def firstGrid (magnitude : Nat) : Nat → Int → Decimal
  | 0, exponent => ⟨(onGrid magnitude exponent).getD 0, exponent⟩
  | finer + 1, exponent =>
    match onGrid magnitude exponent with
    | some digits => ⟨digits, exponent⟩
    | none => firstGrid magnitude finer (exponent - 1)

/-- The shortest decimal that rounds to the absolute value, the nearest of the shortest. Seventeen
digits are always enough. Only for a value other than zero. -/
def shortest (value : Binary64) : Decimal :=
  (firstGrid value.magnitude 16 (leadingExponent value.units)).trim 17

end Binary64

/-- How a decimal is written: the range of leading exponents that is written positionally. Outside
of it one digit stands before the point and a signed exponent follows. -/
structure DecimalLayout where
  lowest : Int
  highest : Int
deriving DecidableEq, Repr

namespace DecimalLayout

/-- A run of zeros. -/
def zeros (count : Nat) : String := String.ofList (List.replicate count '0')

/-- Digits with a point after the first `whole` of them; a missing fraction is written as `0`. -/
def pointed (digits : List Char) (whole : Nat) : String :=
  let fraction := digits.drop whole
  String.ofList (digits.take whole ++ '.' :: (if fraction.isEmpty then ['0'] else fraction))

/-- The written form of a positive decimal. -/
def write (layout : DecimalLayout) (decimal : Decimal) : String :=
  let digits := Nat.toDigits 10 decimal.digits
  let leading := decimal.leading
  if layout.lowest ≤ leading ∧ leading ≤ layout.highest then
    if leading < 0 then
      "0." ++ zeros ((-leading).toNat - 1) ++ String.ofList digits
    else
      pointed (digits ++ List.replicate (leading.toNat + 1 - digits.length) '0')
        (leading.toNat + 1)
  else
    let mantissa := if digits.length = 1 then String.ofList digits else pointed digits 1
    let sign := if leading < 0 then "e-" else "e+"
    mantissa ++ sign ++ toString leading.natAbs

/-- The written form of a binary64 value; both zeros keep their sign. -/
def writeBinary64 (layout : DecimalLayout) (value : Binary64) : String :=
  let magnitude := if value.isZero then "0.0" else layout.write value.shortest
  if value.negative then "-" ++ magnitude else magnitude

end DecimalLayout

end PageAttributes
