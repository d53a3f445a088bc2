/-
**What scalars mean.**

A plain scalar without a tag is nothing, a flag or a number if it is written like one, and a text
otherwise. Digits after a leading zero write no number.

* `number?` — the number that a text writes;
* `ofPlain` — the document that a plain scalar writes;
* `ofScalar` — the document that a scalar writes, with its tag.
-/

import PageAttributes.Document.Basic
import PageAttributes.Text.Digits
import PageAttributes.Yaml.Problem

namespace PageAttributes.Yaml

open Text

/-! ### Integers -/

/-- A text is digits in a base, one at least. -/
def naturalIn? (base : Nat) (isDigit : Char → Bool) (digits : List Char) : Option Nat :=
  if digits.isEmpty || !digits.all isDigit then none else some (ofDigits base digits)

/-- The natural number in digits after the mark of a base. -/
def based? : List Char → Option Nat
  | '0' :: 'x' :: digits => naturalIn? 16 isHexadecimal digits
  | '0' :: 'o' :: digits => naturalIn? 8 isOctal digits
  | '0' :: 'b' :: digits => naturalIn? 2 isBinary digits
  | _ => none

/-- Digits after a leading zero, and perhaps a sign. -/
def isPadded (text : List Char) : Bool :=
  let unsigned :=
    match text with
    | '-' :: rest => rest
    | '+' :: rest => rest
    | text => text
  match unsigned with
  | '0' :: rest => !rest.isEmpty && rest.all isDecimal
  | _ => false

/-- The integer that a text writes, of any size. -/
def integer? (text : List Char) : Option Int :=
  let natural? (digits : List Char) : Option Nat :=
    match based? digits with
    | some value => some value
    | none => if isPadded text then none else naturalIn? 10 isDecimal digits
  match text with
  | '-' :: digits => (natural? digits).map fun value => -value
  | '+' :: digits => (natural? digits).map fun value => value
  | digits => (natural? digits).map fun value => value

/-! ### Other numbers -/

/-- The exponent after its letter. -/
def exponent? (text : List Char) : Option Int :=
  match text with
  | '-' :: digits => (naturalIn? 10 isDecimal digits).map fun value => -value
  | '+' :: digits => (naturalIn? 10 isDecimal digits).map fun value => value
  | digits => (naturalIn? 10 isDecimal digits).map fun value => value

/-- A decimal as its digits without the point, and the power of ten that scales them. -/
def decimal? (text : List Char) : Option (Nat × Int) := do
  let whole := text.takeWhile isDecimal
  let (fraction, rest) :=
    match text.drop whole.length with
    | '.' :: rest =>
      let fraction := rest.takeWhile isDecimal
      (fraction, rest.drop fraction.length)
    | rest => ([], rest)
  let exponent ←
    match rest with
    | [] => some 0
    | 'e' :: rest => exponent? rest
    | 'E' :: rest => exponent? rest
    | _ => none
  if whole.isEmpty && fraction.isEmpty then none
  else some (ofDigits 10 (whole ++ fraction), exponent - fraction.length)

/-- The sign of a text, and what follows it. A plus may not stand before another sign. -/
def signed? : List Char → Option (Bool × List Char)
  | '+' :: '+' :: _ => none
  | '+' :: '-' :: _ => none
  | '+' :: rest => some (false, rest)
  | '-' :: rest => some (true, rest)
  | text => some (false, text)

/-- The finite number that a text writes with a fraction or an exponent. -/
def real? (text : List Char) : Option Binary64 := do
  let (negative, unsigned) ← signed? text
  let (significand, exponent) ← decimal? unsigned
  Binary64.ofDecimal? negative significand exponent

/-- The words for what is infinite or no number. -/
def unboundedWords : List String :=
  [".inf", ".Inf", ".INF", "+.inf", "+.Inf", "+.INF", "-.inf", "-.Inf", "-.INF", ".nan", ".NaN",
    ".NAN"]

/-- What a text writes as a number with a fraction. No document holds what is infinite or no
number. -/
def realDocument? (text : String) : Option Document :=
  if unboundedWords.contains text then some .null
  else (real? text.toList).map fun value => .number (.real value)

/-- What an integer means. One that fits neither 64 bits nor 128 is a number with a fraction; one
that fits 128 bits alone means nothing. -/
def integerDocument? (text : String) : Except Problem (Option Document) :=
  match integer? text.toList with
  | none => .ok none
  | some value =>
    match Numeral.ofInt? value with
    | some numeral => .ok (some (.number numeral))
    | none => if -(twoTo 127 : Int) ≤ value ∧ value < twoTo 128 then .error .bigInteger else .ok none

/-! ### Scalars -/

/-- The words for nothing. -/
def isNullWord (text : String) : Bool := ["null", "Null", "NULL", "~"].contains text

/-- The flag that a word writes. -/
def flag? (text : String) : Option Bool :=
  if ["true", "True", "TRUE"].contains text then some true
  else if ["false", "False", "FALSE"].contains text then some false
  else none

/-- The document that a plain scalar writes. -/
def ofPlain (text : String) : Except Problem Document :=
  if text.isEmpty || isNullWord text then .ok .null
  else
    match flag? text with
    | some value => .ok (.flag value)
    | none => do
      match ← integerDocument? text with
      | some document => .ok document
      | none =>
        if isPadded text.toList then .ok (.text text)
        else .ok ((realDocument? text).getD (.text text))

/-- A found document, where a tag says that there is one. -/
def demanded : Option Document → Except Problem Document
  | some document => .ok document
  | none => .error .badTaggedScalar

/-- The tag is not of the common ones. -/
def isOwnTag (tag : Option String) : Bool := tag.any fun tag => tag.startsWith "!"

/-- The document that a scalar writes. A common tag says what it is; every other tag but an own one
says that it is a text. -/
def ofScalar (tag : Option String) (plain : Bool) (text : String) : Except Problem Document :=
  if isOwnTag tag then .error .ownTag
  else
    match tag with
    | none => if plain then ofPlain text else .ok (.text text)
    | some "tag:yaml.org,2002:bool" => demanded ((flag? text).map .flag)
    | some "tag:yaml.org,2002:int" => do demanded (← integerDocument? text)
    | some "tag:yaml.org,2002:float" => demanded (realDocument? text)
    | some "tag:yaml.org,2002:null" => demanded (if isNullWord text then some .null else none)
    | some _ => .ok (.text text)

end PageAttributes.Yaml
