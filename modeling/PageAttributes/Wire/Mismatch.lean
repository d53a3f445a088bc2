/-
**Why a document does not spell a typed value.**

A `Mismatch` is a cause and the part of the document in which it was noticed. When a text breaks off
in the middle, the part tells whether the mismatch came before the fault of the text.

* `Mismatch.message` — the wording;
* `Mismatch.precedes` — the mismatch was noticed before the reading broke off.
-/

import PageAttributes.Document.Basic
import PageAttributes.Json.Fault
import PageAttributes.Text.Quoted

namespace PageAttributes.Wire

/-- Why a document does not spell a typed value. -/
inductive Cause where
  /-- A document of the wrong kind. -/
  | wrongKind (found : Document) (expected : String)
  /-- A document of the right kind that still is not possible. -/
  | wrongValue (found : Document) (expected : String)
  | missingField (name : String)
  | duplicateField (name : String)
  | unknownVariant (name : String) (known : List String)
  | wrongLength (length : Nat) (expected : String)
  | noAlternative (type : String)
  /-- What stands there is not even expected as JSON. -/
  | syntactic (fault : Json.Fault)

/-- The words for what was found. -/
def describe : Document → String
  | .null => "null"
  | .flag value => "boolean `" ++ (if value then "true" else "false") ++ "`"
  | .number (.real value) => "floating point `" ++ Numeral.write (.real value) ++ "`"
  | .number value => "integer `" ++ value.write ++ "`"
  | .text value => "string " ++ Text.quoted value
  | .list _ => "sequence"
  | .record _ => "map"

/-- A choice of names in words. -/
def alternatives (names : List String) : String :=
  match names.map fun name => "`" ++ name ++ "`" with
  | [] => "there are no variants"
  | [only] => "expected " ++ only
  | [first, second] => "expected " ++ first ++ " or " ++ second
  | quoted => "expected one of " ++ ", ".intercalate quoted

/-- The wording of a cause. -/
def Cause.message : Cause → String
  | .wrongKind found expected => "invalid type: " ++ describe found ++ ", expected " ++ expected
  | .wrongValue found expected => "invalid value: " ++ describe found ++ ", expected " ++ expected
  | .missingField name => "missing field `" ++ name ++ "`"
  | .duplicateField name => "duplicate field `" ++ name ++ "`"
  | .unknownVariant name known => "unknown variant `" ++ name ++ "`, " ++ alternatives known
  | .wrongLength length expected =>
    "invalid length " ++ toString length ++ ", expected " ++ expected
  | .noAlternative type => "data did not match any variant of untagged enum " ++ type
  | .syntactic fault => fault.message

/-- When a mismatch is noticed while a part of a text is read. -/
inductive Moment where
  /-- As soon as the part begins. -/
  | start
  /-- After the key of the part. -/
  | key
  /-- When the part has been read. -/
  | finish
deriving DecidableEq, Repr

/-- A cause, and the part of the document in which it was noticed. -/
structure Mismatch where
  cause : Cause
  /-- The positions that lead to the part. -/
  site : List Nat
  moment : Moment

namespace Mismatch

/-- The wording of a mismatch. -/
def message (mismatch : Mismatch) : String := mismatch.cause.message

/-- The same mismatch, seen from the part around. -/
def inside (position : Nat) (mismatch : Mismatch) : Mismatch :=
  { mismatch with site := position :: mismatch.site }

/-- The same mismatch, noticed only when the whole part had been read. -/
def held (mismatch : Mismatch) : Mismatch := { mismatch with site := [], moment := .finish }

/-- The mismatch was noticed before a reading broke off inside the part at `opened`. A part that is
still open is not finished; every other part that was looked at is. -/
def precedes (mismatch : Mismatch) (opened : List Nat) : Bool :=
  mismatch.moment != .finish || !mismatch.site.isPrefixOf opened

end Mismatch

/-- What reading a typed value gives. -/
abbrev Result (α : Type) := Except Mismatch α

/-- The part that is being read does not fit, which is noticed when it has been read. -/
def mismatch {α : Type} (cause : Cause) : Result α := .error ⟨cause, [], .finish⟩

/-- The document is of the wrong kind. A list or a record is refused as soon as it begins. -/
def wrongKind {α : Type} (found : Document) (expected : String) : Result α :=
  match found with
  | .list _ => .error ⟨.wrongKind found expected, [], .start⟩
  | .record _ => .error ⟨.wrongKind found expected, [], .start⟩
  | _ => mismatch (.wrongKind found expected)

/-- A result inside the part at a position. -/
def within {α : Type} (position : Nat) : Result α → Result α
  | .ok value => .ok value
  | .error mismatch => .error (mismatch.inside position)

/-- A result that was found only after the whole part had been read. -/
def afterwards {α : Type} : Result α → Result α
  | .ok value => .ok value
  | .error mismatch => .error mismatch.held

end PageAttributes.Wire
