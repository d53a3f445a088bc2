/-
**Values and assignments as documents.**

* `AttributeValue.toDocument`, `AttributeValue.ofDocument` — a value as a document, and back;
* `Assignment.toDocument`, `Assignment.ofDocument` — the same for an assignment, a record with the
  single field `values`.
-/

import PageAttributes.Evaluation.Assignment
import PageAttributes.Wire.Parts

namespace PageAttributes

open Wire

namespace AttributeValue

/-- The document of a value. -/
def toDocument : AttributeValue → Document
  | .flag value => .flag value
  | .number value => .number value
  | .text value => .text value

/-- Reads a value: a flag, a number or a text. -/
def ofDocument : Document → Result AttributeValue
  | .flag value => .ok (.flag value)
  | .number value => .ok (.number value)
  | .text value => .ok (.text value)
  | _ => mismatch (.noAlternative "AttributeValue")

end AttributeValue

namespace Assignment

/-- The name of an assignment in a report. -/
def label : String := "struct Assignment"

/-- The document of an assignment. -/
def toDocument (assignment : Assignment) : Document :=
  .record [("values", .record (assignment.values.map fun pair => (pair.1, pair.2.toDocument)))]

/-- Reads the values of some ids, from a position on. -/
def valuesOfFields (position : Nat) :
    List (String × Document) → Result (List (String × AttributeValue))
  | [] => .ok []
  | (id, document) :: rest => do
    let value ← within position (AttributeValue.ofDocument document)
    let values ← valuesOfFields (position + 1) rest
    .ok ((id, value) :: values)

/-- Reads the values of an assignment. -/
def valuesOfDocument : Document → Result (Keyed AttributeValue)
  | .record given => (valuesOfFields 0 given).map Keyed.ofPairs
  | found => wrongKind found "a map"

/-- Reads an assignment. -/
def ofDocument (document : Document) : Result Assignment := do
  let parts ← Parts.ofDocument label document
  let values := parts.slot 0 "values" valuesOfDocument
  report [values.problem]
  let assignment : Assignment := ⟨← parts.required label 1 0 "values" values⟩
  parts.close .tree 1
  .ok assignment

end Assignment

end PageAttributes
