/-
**Labels written with ASCII letters and digits alone.**

A label with other characters is written as its ASCII characters, a hyphen, and a run of digits in
base 36. The digits say, one character after another in the order of code points, how far to go from
the last character to the next: a distance counts every place of the label for every code point. A
distance has as many digits as it needs, and a digit below the threshold of its place is the last.

* `readDistance?` — one distance;
* `decode?` — the label that a text is written for.
-/

import PageAttributes.Number.Power

namespace PageAttributes.Url.Bootstring

/-- The value of a digit in base 36. -/
def digit? (value : Char) : Option Nat :=
  if 'a' ≤ value ∧ value ≤ 'z' then some (value.toNat - 'a'.toNat)
  else if '0' ≤ value ∧ value ≤ '9' then some (value.toNat - '0'.toNat + 26)
  else none

/-- The threshold of a digit; `place` grows by 36 from digit to digit. -/
def threshold (place bias : Nat) : Nat := min 26 (max 1 (place - bias))

/-- Divides until the value is small; counts 36 for every division. -/
def shrink (value : Nat) : Nat × Nat :=
  if 455 < value then
    let (least, steps) := shrink (value / 35)
    (least, steps + 36)
  else (value, 0)
termination_by value
decreasing_by omega

/-- The bias after a distance, when the label has `length` characters. -/
def adapt (distance length : Nat) (first : Bool) : Nat :=
  let scaled := if first then distance / 700 else distance / 2
  let (least, steps) := shrink (scaled + scaled / length)
  steps + 36 * least / (least + 38)

/-- Distances and weights stay below this bound. -/
def bound : Nat := twoTo 32

/-- One distance, added to `total`, and the digits after it. -/
def readDistance? (bias : Nat) : (place weight total : Nat) → List Char → Option (Nat × List Char)
  | _, _, _, [] => none
  | place, weight, total, first :: rest => do
    let digit ← digit? first
    let sum := total + digit * weight
    if bound ≤ sum then none
    else if digit < threshold place bias then some (sum, rest)
    else
      let heavier := weight * (36 - threshold place bias)
      if bound ≤ heavier then none else readDistance? bias (place + 36) heavier sum rest

/-- Puts the characters that the digits say into a label, from place `place` and code point `code`
on. Every round reads a digit at least, so as many rounds as digits are enough. -/
def insertAll? : (rounds code place bias : Nat) → List Char → List Char → Option (List Char)
  | _, _, _, _, label, [] => some label
  | 0, _, _, _, _, _ => none
  | rounds + 1, code, place, bias, label, digits => do
    let (total, rest) ← readDistance? bias 36 1 place digits
    let length := label.length + 1
    let next := code + total / length
    let position := total % length
    if next.isValidChar then
      insertAll? rounds next (position + 1) (adapt (total - place) length (place == 0))
        (label.take position ++ Char.ofNat next :: label.drop position) rest
    else none

/-- The ASCII characters of a written label, and its digits. -/
def split (text : List Char) : List Char × List Char :=
  let digits := (text.reverse.takeWhile (· != '-')).reverse
  let basic := text.take (text.length - digits.length - 1)
  if basic.isEmpty then ([], text) else (basic, digits)

/-- The label that a text is written for. -/
def decode? (text : List Char) : Option (List Char) :=
  let (basic, digits) := split text
  insertAll? digits.length 0x80 0 72 basic digits

end PageAttributes.Url.Bootstring
