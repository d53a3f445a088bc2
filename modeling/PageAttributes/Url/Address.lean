/-
**Addresses of hosts.**

A host may be named by an address of four bytes or of eight pieces of sixteen bits.

* `Address4.isNumeric` — a name that ends in a number is an address of four bytes or nothing;
* `Address4.isValid` — up to four numbers; the last fills the bytes that the others leave;
* `Address6.isValid` — pieces with colons between them, one run of zero pieces left out, the last two
  pieces perhaps written as four bytes.
-/

import PageAttributes.Number.Power
import PageAttributes.Text.Digits

namespace PageAttributes.Url

open Text

namespace Address4

/-- The number that a part of an address stands for. A leading zero makes it octal, and a leading
`0x` hexadecimal. -/
def number? : List Char → Option Nat
  | [] => none
  | '0' :: 'x' :: digits => if digits.all isHexadecimal then some (ofDigits 16 digits) else none
  | ['0'] => some 0
  | '0' :: digits => if digits.all isOctal then some (ofDigits 8 digits) else none
  | digits => if digits.all isDecimal then some (ofDigits 10 digits) else none

/-- The parts of a name, without the empty part after a last dot. -/
def parts (labels : List (List Char)) : List (List Char) :=
  if labels.getLast? = some [] then labels.dropLast else labels

/-- The name ends in a number, so that it can only be an address. -/
def isNumeric (labels : List (List Char)) : Bool :=
  match (parts labels).getLast? with
  | none => false
  | some [] => false
  | some last => last.all isDecimal || (number? last).isSome

/-- The name is an address: its last number fills the bytes that the numbers before it leave. -/
def isValid (labels : List (List Char)) : Bool :=
  match (parts labels).mapM number? with
  | none => false
  | some numbers =>
    let bytes := numbers.dropLast
    decide (numbers.length ≤ 4) && bytes.all (· < 256)
      && numbers.getLast?.any fun last => decide (last < twoTo (8 * (4 - bytes.length)))

end Address4

namespace Address6

/-- The number of pieces of an address. -/
def size : Nat := 8

/-- A byte in decimal digits, without a zero before other digits. -/
def isByte (digits : List Char) : Bool :=
  !digits.isEmpty && digits.all isDecimal && (digits.length == 1 || digits.head? != some '0')
    && decide (ofDigits 10 digits < 256)

/-- Whether `count` bytes with dots between them are written, and nothing else. -/
def areBytes : (count : Nat) → List Char → Bool
  | 0, _ => false
  | 1, text => isByte text
  | count + 2, text =>
    isByte (text.takeWhile (· != '.'))
      && (match text.dropWhile (· != '.') with
        | _ :: rest => areBytes (count + 1) rest
        | [] => false)

/-- Whether the rest of an address is valid, after `pieces` pieces; `gap` says that a run of pieces
has been left out before. -/
def restIsValid : (rounds pieces : Nat) → (gap : Bool) → List Char → Bool
  | _, pieces, gap, [] => gap || pieces == size
  | 0, _, _, _ => false
  | rounds + 1, pieces, gap, text =>
    if pieces == size then false
    else if text.head? == some ':' then
      !gap && restIsValid rounds (pieces + 1) true (text.drop 1)
    else
      let digits := (text.take 4).takeWhile isHexadecimal
      match text.drop digits.length with
      | [] => restIsValid rounds (pieces + 1) gap []
      | ':' :: [] => false
      | ':' :: rest => restIsValid rounds (pieces + 1) gap rest
      | '.' :: _ =>
        !digits.isEmpty && areBytes 4 text && (if gap then pieces ≤ 6 else pieces == 6)
      | _ => false

/-- A text is an address of eight pieces. -/
def isValid (text : List Char) : Bool :=
  match text with
  | ':' :: ':' :: rest => restIsValid text.length 1 true rest
  | ':' :: _ => false
  | _ => restIsValid text.length 0 false text

end Address6

end PageAttributes.Url
