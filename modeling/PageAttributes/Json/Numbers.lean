/-
**Numbers in JSON texts.**

A number without fraction and exponent that fits a 64-bit integer stays an integer; every other
number is a binary64 value. The digits are gathered into a significand of 64 bits (digits beyond it
only move the exponent), which is rounded and then scaled by a power of ten, rounding again. So a
number of many digits may be read one unit away from the nearest value.

* `readNumber` — reads a number after its sign;
* `passNumber` — passes over a number nobody asks for.
-/

import PageAttributes.Json.Fault
import PageAttributes.Number.Numeral

namespace PageAttributes.Json

/-- The decimal digits at the start, and what follows them. -/
def digitRun : List Symbol → List Nat × List Symbol
  | .char value :: rest =>
    if '0' ≤ value ∧ value ≤ '9' then
      let (digits, rest) := digitRun rest
      ((value.toNat - '0'.toNat) :: digits, rest)
    else ([], .char value :: rest)
  | symbols => ([], symbols)

/-- Appends digits to a significand while it fits 64 bits; the digits that were not appended. -/
def appendDigits (significand : Nat) : List Nat → Nat × List Nat
  | [] => (significand, [])
  | digit :: rest =>
    if significand * 10 + digit < twoTo 64 then appendDigits (significand * 10 + digit) rest
    else (significand, digit :: rest)

/-- The digits of an exponent, as long as it fits a signed 32-bit integer; else the number of
digits that are too many. -/
def exponentOf (value : Nat) : List Nat → Except Nat Nat
  | [] => .ok value
  | digit :: rest =>
    if value * 10 + digit < twoTo 31 then exponentOf (value * 10 + digit) rest
    else .error rest.length

/-- A power of ten with an exponent of at most 308. -/
def powerOfTen (exponent : Nat) : Binary64 := (Binary64.ofNat? (tenTo exponent)).getD default

/-- Divides by powers of ten up to `10 ^ 308` until the exponent is used up or nothing is left. -/
def scaleDown (value : Binary64) (exponent : Nat) : Binary64 :=
  if value.isZero then value
  else if exponent ≤ 308 then (value.over? (powerOfTen exponent)).getD value
  else scaleDown ((value.over? (powerOfTen 308)).getD value) (exponent - 308)
termination_by exponent

/-- The value of a significand and an exponent, if it is finite. -/
def scaled? (negative : Bool) (significand : Nat) (exponent : Int) : Option Binary64 := do
  let value ← Binary64.ofNat? significand
  let magnitude ←
    if exponent < 0 then some (scaleDown value (-exponent).toNat)
    else if value.isZero then some value
    else if 308 < exponent then none
    else value.times? (powerOfTen exponent.toNat)
  some (magnitude.withSign negative)

/-- A value that has to be finite, in front of what follows the number. -/
def finiteBefore (value : Option Binary64) (rest : List Symbol) :
    Except Halt (Numeral × List Symbol) :=
  match value with
  | some value => .ok (.real value, rest)
  | none => haltBefore .numberTooLarge rest

/-- The value of a significand and an exponent, in front of what follows the number. -/
def realBefore (negative : Bool) (significand : Nat) (exponent : Int) (rest : List Symbol) :
    Except Halt (Numeral × List Symbol) :=
  finiteBefore (scaled? negative significand exponent) rest

/-- The sign of an exponent and what follows it. -/
def exponentSign : List Symbol → Bool × List Symbol
  | .char '+' :: rest => (false, rest)
  | .char '-' :: rest => (true, rest)
  | symbols => (false, symbols)

/-- Reads the digits of an exponent, after its letter. -/
def readExponent (negative : Bool) (significand : Nat) (exponent : Int) (symbols : List Symbol) :
    Except Halt (Numeral × List Symbol) :=
  let (down, symbols) := exponentSign symbols
  match digitRun symbols with
  | ([], _) =>
    if symbols.isEmpty then haltBefore .endBeforeValue [] else haltAt .badNumber symbols
  | (digits, rest) =>
    match exponentOf 0 digits with
    | .ok value =>
      realBefore negative significand (if down then exponent - value else exponent + value) rest
    | .error unread =>
      if significand = 0 ∨ down then .ok (.real (.zero negative), rest)
      else .error ⟨.numberTooLarge, rest.length + unread, 0⟩

/-- Reads an optional exponent. -/
def readScale (negative : Bool) (significand : Nat) (exponent : Int) :
    List Symbol → Except Halt (Numeral × List Symbol)
  | .char 'e' :: rest => readExponent negative significand exponent rest
  | .char 'E' :: rest => readExponent negative significand exponent rest
  | symbols => realBefore negative significand exponent symbols

/-- Reads the digits of a fraction, after the point. -/
def readFraction (negative : Bool) (significand : Nat) (exponent : Int) (symbols : List Symbol) :
    Except Halt (Numeral × List Symbol) :=
  match digitRun symbols with
  | ([], _) =>
    if symbols.isEmpty then haltBefore .endBeforeValue [] else haltAt .badNumber symbols
  | (digits, rest) =>
    let (significand, dropped) := appendDigits significand digits
    readScale negative significand (exponent - (digits.length - dropped.length : Nat)) rest

/-- The number of an integer literal: zero with a sign has no integral form. -/
def integral (negative : Bool) (value : Nat) : Numeral :=
  let whole : Int := if negative then -value else value
  if negative ∧ value = 0 then .real (.zero true)
  else (Numeral.ofInt? whole).getD
    (.real (((Binary64.ofNat? value).getD default).withSign negative))

/-- Reads a number, after its sign. -/
def readNumber (negative : Bool) (symbols : List Symbol) : Except Halt (Numeral × List Symbol) :=
  match digitRun symbols with
  | ([], _) =>
    if symbols.isEmpty then haltBefore .endBeforeValue [] else haltAt .badNumber symbols
  | (0 :: _ :: _, _) => haltAt .badNumber (symbols.drop 1)
  | (digits, rest) =>
    let (significand, dropped) := appendDigits 0 digits
    match rest with
    | .char '.' :: rest => readFraction negative significand dropped.length rest
    | .char 'e' :: rest => readExponent negative significand dropped.length rest
    | .char 'E' :: rest => readExponent negative significand dropped.length rest
    | _ =>
      if dropped.isEmpty then .ok (integral negative significand, rest)
      else realBefore negative significand dropped.length rest

/-- Passes over a run of digits that must not be empty. -/
def passDigits (symbols : List Symbol) : Except Halt (List Symbol) :=
  match digitRun symbols with
  | ([], _) => haltAt .badNumber symbols
  | (_, rest) => .ok rest

/-- Passes over an optional exponent. -/
def passExponent : List Symbol → Except Halt (List Symbol)
  | .char 'e' :: rest => passDigits (exponentSign rest).2
  | .char 'E' :: rest => passDigits (exponentSign rest).2
  | symbols => .ok symbols

/-- Passes over a number, after its sign. Its size does not matter. -/
def passNumber (symbols : List Symbol) : Except Halt (List Symbol) :=
  match digitRun symbols with
  | ([], _) => haltAt .badNumber symbols
  | (0 :: _ :: _, _) => haltAt .badNumber (symbols.drop 1)
  | (_, .char '.' :: rest) => do passExponent (← passDigits rest)
  | (_, rest) => passExponent rest

end PageAttributes.Json
