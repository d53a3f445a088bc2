/-
**Conditions as documents.**

* `Condition.toDocument`, `Condition.ofDocument` — a condition as a document, and back;
* `ConditionValue.toDocument`, `ConditionValue.ofDocument` — the same for the value compared with.

A condition is a record with a `type`; a list whose first item is the type will do as well.
-/

import PageAttributes.Schema.Condition
import PageAttributes.Wire.Parts

namespace PageAttributes

open Wire

/-! ### Values -/

/-- The document of a value. -/
def ConditionValue.toDocument : ConditionValue → Document
  | .text value => .text value
  | .number value => .number value

/-- Reads a value: a text or a number. -/
def ConditionValue.ofDocument : Document → Result ConditionValue
  | .text value => .ok (.text value)
  | .number value => .ok (.number value)
  | _ => mismatch (.noAlternative "ConditionValue")

/-! ### Operators -/

/-- The operators by name. -/
def Operator.variants : List (String × Operator) :=
  Operator.every.map fun operator => (operator.name, operator)

/-- Reads an operator. -/
def Operator.ofDocument (medium : Medium) : Document → Result Operator :=
  readUnitVariant medium Operator.variants

/-! ### Conditions -/

namespace Condition

/-- The two forms of conditions. -/
inductive Form where
  | leaf
  | group
deriving DecidableEq, Repr

/-- The forms by the name of their type. -/
def Form.variants : List (String × Form) := [("condition", .leaf), ("group", .group)]

mutual

/-- The document of a condition. -/
def toDocument : Condition → Document
  | .leaf attributeId expected =>
    .record [("type", .text "condition"), ("attributeId", .text attributeId),
      ("attributeValue", expected.toDocument)]
  | .group operator members =>
    .record [("type", .text "group"), ("operator", .text operator.name),
      ("conditions", .list (toDocuments members))]

/-- The documents of some conditions. -/
def toDocuments : List Condition → List Document
  | [] => []
  | member :: rest => toDocument member :: toDocuments rest

end

/-- The name of a leaf in a report. -/
def leafLabel : String := "struct variant Condition::Leaf"

/-- The name of a group in a report. -/
def groupLabel : String := "struct variant Condition::Group"

/-- Reads the fields of a leaf. -/
def leafOfParts (parts : Parts) : Result Condition := do
  let attributeId := parts.slot 0 "attributeId" readText
  let expected := parts.slot 1 "attributeValue" ConditionValue.ofDocument
  report [attributeId.problem, expected.problem]
  let condition := Condition.leaf
    (← parts.required leafLabel 2 0 "attributeId" attributeId)
    (← parts.required leafLabel 2 1 "attributeValue" expected)
  parts.close .held 2
  .ok condition

/-- Reads the fields of a group, of which the members have been read already. -/
def groupOfParts (parts : Parts) (members : Slot (List Condition)) : Result Condition := do
  let operator := parts.slot 0 "operator" (Operator.ofDocument .held)
  report [operator.problem, members.problem]
  let condition := Condition.group
    (← parts.required groupLabel 2 0 "operator" operator)
    (← parts.required groupLabel 2 1 "conditions" members)
  parts.close .held 2
  .ok condition

/-- Reads a condition of a known form. -/
def ofParts (form : Form) (parts : Parts) (members : Slot (List Condition)) : Result Condition :=
  match form with
  | .leaf => leafOfParts parts
  | .group => groupOfParts parts members

/-- Reads the form of a condition, of which the members have been read already. -/
def ofTagged (medium : Medium) (document : Document) (members : Slot (List Condition)) :
    Result Condition := do
  let (form, content) ←
    readTagged medium "internally tagged enum Condition" "type" Form.variants document
  match content with
  | .list items => afterwards (ofParts form (.items items) members)
  | .record fields => afterwards (ofParts form (.fields fields) members)
  | found => wrongKind found leafLabel

mutual

/-- Reads a condition. -/
def ofDocument (medium : Medium) : Document → Result Condition
  | .record fields => ofTagged medium (.record fields) (membersSlot 0 fields)
  | .list items => ofTagged medium (.list items) (thirdSlot items)
  | found => ofTagged medium found .absent

/-- What the fields of a record say about the members of a group. -/
def membersSlot (position : Nat) : List (String × Document) → Slot (List Condition)
  | [] => .absent
  | (key, value) :: rest =>
    if key = "conditions" then
      withoutRepetition key (nextPosition? key (position + 1) rest)
        (.ofResult position (membersOfDocument value))
    else membersSlot (position + 1) rest

/-- What a list says about the members of a group. -/
def thirdSlot : List Document → Slot (List Condition)
  | _ :: _ :: third :: _ => .ofResult 1 (membersOfDocument third)
  | _ => .absent

/-- Reads the members of a group. -/
def membersOfDocument : Document → Result (List Condition)
  | .list items => ofDocuments 0 items
  | found => wrongKind found "a sequence"

/-- Reads conditions from a position on. -/
def ofDocuments (position : Nat) : List Document → Result (List Condition)
  | [] => .ok []
  | item :: rest => do
    let member ← within position (ofDocument .held item)
    let members ← ofDocuments (position + 1) rest
    .ok (member :: members)

end

end Condition

end PageAttributes
