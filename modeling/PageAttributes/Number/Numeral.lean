/-
**The numbers of a document.**

A number is a natural number of 64 bits, a negative integer of 64 bits, or a finite binary64 value.
The form belongs to the number: `2` and `2.0` are different numbers, although they match each other
in a comparison.

* `Numeral.agrees` — integers compare exactly, and as soon as one side is a binary64 value both are
  compared as binary64 values;
* `Numeral.write` — the written form, which reads back as the same number.
-/

import PageAttributes.Number.Shortest

namespace PageAttributes

/-- A number of a document, in the form in which it was given. -/
inductive Numeral where
  /-- A natural number below `2 ^ 64`. -/
  | natural (value : Fin 18446744073709551616)
  /-- The negative integer `-(distance + 1)`, not below `-2 ^ 63`. -/
  | negative (distance : Fin 9223372036854775808)
  /-- Every other number: a fraction, an exponent, or an integer that does not fit. -/
  | real (value : Binary64)
deriving DecidableEq

namespace Numeral

instance : Inhabited Numeral := ⟨.natural 0⟩

/-- The integer that an integral form stands for. -/
def integer? : Numeral → Option Int
  | .natural value => some value.val
  | .negative distance => some (-(distance.val + 1))
  | .real _ => none

/-- An integer as a number, if it has an integral form. -/
def ofInt? : Int → Option Numeral
  | .ofNat value => if h : value < 18446744073709551616 then some (.natural ⟨value, h⟩) else none
  | .negSucc distance => if h : distance < 9223372036854775808 then some (.negative ⟨distance, h⟩) else none

/-- The nearest binary64 value. Every integral form is in its range. -/
def toBinary64 : Numeral → Binary64
  | .natural value => (Binary64.ofNat? value.val).getD default
  | .negative distance => ((Binary64.ofNat? (distance.val + 1)).getD default).withSign true
  | .real value => value

/-- Two numbers agree: as integers if both are integral, else as binary64 values. -/
def agrees (first second : Numeral) : Bool :=
  match first.integer?, second.integer? with
  | some left, some right => left == right
  | _, _ => first.toBinary64.same second.toBinary64

/-- The number has no fractional part. -/
def isWhole : Numeral → Bool
  | .natural _ => true
  | .negative _ => true
  | .real value => value.isWhole

/-- Decimals from `0.00001` to below `10 ^ 16` are written positionally. -/
def layout : DecimalLayout := ⟨-5, 15⟩

/-- The written form of a number. -/
def write : Numeral → String
  | .natural value => toString value.val
  | .negative distance => "-" ++ toString (distance.val + 1)
  | .real value => layout.writeBinary64 value

end Numeral

end PageAttributes
