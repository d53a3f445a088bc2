/-
**Reading the parts of typed values.**

A structure is spelled by a record of its fields, or by a list of them in declaration order. The
fields of a record are read in the order in which they stand; the first problem met on the way is
the one reported, and missing fields are noticed at the end, in declaration order.

* `Parts.slot` — what is said about one field: a value, and a problem with its place if there is
  one;
* `earliest` — the first of several problems;
* `Parts.required`, `Parts.optional`, `Parts.close` — the value of a field, and the final check.
-/

import PageAttributes.Wire.Mismatch

namespace PageAttributes.Wire

/-- Where the documents come from that a typed value is read from. -/
inductive Medium where
  /-- From a text, while it is being read. -/
  | text
  /-- From a document in memory. -/
  | tree
  /-- From a part of a document that was held back until its variant was known. -/
  | held
deriving DecidableEq, Repr

/-! ### Simple values -/

/-- Reads a text. -/
def readText : Document → Result String
  | .text value => .ok value
  | found => wrongKind found "a string"

/-- Reads a flag. -/
def readFlag : Document → Result Bool
  | .flag value => .ok value
  | found => wrongKind found "a boolean"

/-- Reads a number. -/
def readNumber : Document → Result Numeral
  | .number value => .ok value
  | found => wrongKind found "a JSON number"

/-- Reads a value that may be left out. -/
def readOptional {α : Type} (read : Document → Result α) : Document → Result (Option α)
  | .null => .ok none
  | document => (read document).map some

/-- Reads items from a position on. -/
def readItems {α : Type} (read : Document → Result α) (position : Nat) :
    List Document → Result (List α)
  | [] => .ok []
  | item :: rest => do
    let value ← within position (read item)
    let values ← readItems read (position + 1) rest
    .ok (value :: values)

/-- Reads a list. -/
def readList {α : Type} (read : Document → Result α) : Document → Result (List α)
  | .list items => readItems read 0 items
  | found => wrongKind found "a sequence"

/-! ### Fields -/

/-- What is said about one field. -/
structure Slot (α : Type) where
  value : Option α
  /-- A problem and the position where it was met. -/
  problem : Option (Nat × Mismatch)

namespace Slot

variable {α : Type}

/-- Nothing is said. -/
def absent : Slot α := ⟨none, none⟩

/-- What the document at a position says. -/
def ofResult (position : Nat) : Result α → Slot α
  | .ok value => ⟨some value, none⟩
  | .error mismatch => ⟨none, some (position, mismatch.inside position)⟩

end Slot

/-- The position of the next field with a key. -/
def nextPosition? (key : String) (position : Nat) : List (String × Document) → Option Nat
  | [] => none
  | (other, _) :: rest =>
    if other = key then some position else nextPosition? key (position + 1) rest

/-- A second field with the same key is a problem of its own. -/
def withoutRepetition {α : Type} (key : String) (repeated : Option Nat) (slot : Slot α) : Slot α :=
  match slot.problem, repeated with
  | none, some position =>
    { slot with problem := some (position, ⟨.duplicateField key, [position], .key⟩) }
  | _, _ => slot

/-- What the fields of a record say under a key. -/
def fieldSlot {α : Type} (key : String) (read : Document → Result α) (position : Nat) :
    List (String × Document) → Slot α
  | [] => .absent
  | (other, value) :: rest =>
    if other = key then
      withoutRepetition key (nextPosition? key (position + 1) rest)
        (.ofResult position (read value))
    else fieldSlot key read (position + 1) rest

/-- The problem that was met first. -/
def earliest : List (Option (Nat × Mismatch)) → Option (Nat × Mismatch)
  | [] => none
  | problem :: rest =>
    match problem, earliest rest with
    | some first, some second => if second.1 < first.1 then some second else some first
    | some first, none => some first
    | none, other => other

/-- Reports the problem that was met first. -/
def report (problems : List (Option (Nat × Mismatch))) : Result Unit :=
  match earliest problems with
  | some problem => .error problem.2
  | none => .ok ()

/-! ### Structures -/

/-- What a structure is spelled by. -/
inductive Parts where
  | fields (fields : List (String × Document))
  | items (items : List Document)

/-- The number of fields in words. -/
def elementCount (count : Nat) : String :=
  toString count ++ (if count = 1 then " element" else " elements")

namespace Parts

/-- The parts of a document that spells the structure called `label`. -/
def ofDocument (label : String) : Document → Result Parts
  | .record given => .ok (.fields given)
  | .list given => .ok (.items given)
  | found => wrongKind found label

/-- What is said about the field with a key, which is the one at `position` in a list. -/
def slot {α : Type} (parts : Parts) (position : Nat) (key : String)
    (read : Document → Result α) : Slot α :=
  match parts with
  | .fields given => fieldSlot key read 0 given
  | .items given =>
    match given[position]? with
    | some document => .ofResult position (read document)
    | none => .absent

/-- The value of a field that has to be there. -/
def required {α : Type} (parts : Parts) (label : String) (count position : Nat) (key : String)
    (slot : Slot α) : Result α :=
  match slot.value with
  | some value => .ok value
  | none =>
    match parts with
    | .fields _ => mismatch (.missingField key)
    | .items _ => mismatch (.wrongLength position (label ++ " with " ++ elementCount count))

/-- The value of a field that may be left out. -/
def optional {α : Type} (slot : Slot (Option α)) : Option α := slot.value.getD none

/-- A list must not have more items than the structure has fields. -/
def close (parts : Parts) (medium : Medium) (count : Nat) : Result Unit :=
  match parts with
  | .fields _ => .ok ()
  | .items given =>
    if given.length ≤ count then .ok ()
    else
      match medium with
      | .text => .error ⟨.syntactic .trailingCharacters, [count], .start⟩
      | .tree => mismatch (.wrongLength given.length "fewer elements in array")
      | .held => mismatch (.wrongLength given.length (elementCount count ++ " in sequence"))

end Parts

/-! ### Variants -/

/-- Reads the name of a variant. In a part that was held back its number will do as well. -/
def readVariant {α : Type} (medium : Medium) (variants : List (String × α)) :
    Document → Result α
  | .text name =>
    match variants.lookup name with
    | some variant => .ok variant
    | none => mismatch (.unknownVariant name (variants.map Prod.fst))
  | .number (.natural position) =>
    if medium = .held then
      match variants[position.val]? with
      | some variant => .ok variant.2
      | none =>
        mismatch (.wrongValue (.number (.natural position))
          ("variant index 0 <= i < " ++ toString variants.length))
    else wrongKind (.number (.natural position)) "variant identifier"
  | found => wrongKind found "variant identifier"

/-- Nothing may be said about a variant without fields. -/
def readNothing (medium : Medium) : Document → Result Unit
  | .null => .ok ()
  | .record [] =>
    if medium = .held then .ok () else wrongKind (.record []) "unit"
  | found => wrongKind found "unit"

/-- The variant of a key in front of a value. -/
def readKeyedVariant {α : Type} (medium : Medium) (variants : List (String × α)) (key : String)
    (value : Document) : Result α :=
  match variants.lookup key with
  | none => .error ⟨.unknownVariant key (variants.map Prod.fst), [0], .key⟩
  | some variant => do
    within 0 (readNothing medium value)
    .ok variant

/-- Reads a variant without fields: its name, or a record with the name as its only key. -/
def readUnitVariant {α : Type} (medium : Medium) (variants : List (String × α)) :
    Document → Result α
  | .text name => readVariant medium variants (.text name)
  | .record given =>
    match medium, given with
    | .text, [] => .error ⟨.syntactic .expectedValue, [], .finish⟩
    | .text, (key, value) :: rest => do
      let variant ← readKeyedVariant medium variants key value
      if rest.isEmpty then .ok variant else .error ⟨.syntactic .expectedValue, [1], .start⟩
    | _, [(key, value)] => readKeyedVariant medium variants key value
    | _, _ => mismatch (.wrongValue (.record given) "map with a single key")
  | found =>
    match medium with
    | .text => .error ⟨.syntactic .expectedValue, [], .start⟩
    | _ => wrongKind found "string or map"

/-- Reads the variant named by a tag among the fields of a record, or by the first item of a list.
The fields are kept for the variant, and so are the items after the first. -/
def readTagged {α : Type} (medium : Medium) (label tag : String) (variants : List (String × α)) :
    Document → Result (α × Document)
  | .record given => do
    let slot := fieldSlot tag (readVariant medium variants) 0 given
    report [slot.problem]
    match slot.value with
    | some variant => .ok (variant, .record given)
    | none => mismatch (.missingField tag)
  | .list [] => mismatch (.missingField tag)
  | .list (first :: rest) => do
    let variant ← within 0 (readVariant medium variants first)
    .ok (variant, .list rest)
  | found => wrongKind found label

end PageAttributes.Wire
