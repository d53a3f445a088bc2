/-
**Schemas as documents.**

* `Schema.toDocument`, `Schema.ofDocument` — a schema as a document, and back;
* `Schema.attention` — the parts of a text that a schema is read from. Fields of a schema, a
  solution or a script that mean nothing are passed over; an entry of an attribute list is read as a
  whole.
-/

import PageAttributes.Json.Reader
import PageAttributes.Wire.Attribute

namespace PageAttributes

open Wire

namespace Solution

/-- The name of a solution in a report. -/
def label : String := "struct Solution"

/-- The document of a solution. -/
def toDocument (solution : Solution) : Document :=
  .record [("id", .text solution.id), ("name", .text solution.name),
    ("scripts", .list (solution.scripts.map Script.toDocument)),
    ("attributes", .list (solution.attributes.map AttributeNode.toDocument))]

/-- Reads a solution. -/
def ofDocument (medium : Medium) (document : Document) : Result Solution := do
  let parts ← Parts.ofDocument label document
  let id := parts.slot 0 "id" readText
  let name := parts.slot 1 "name" readText
  let scripts := parts.slot 2 "scripts" (readList (Script.ofDocument medium))
  let attributes := parts.slot 3 "attributes" (readList (AttributeNode.ofDocument medium))
  report [id.problem, name.problem, scripts.problem, attributes.problem]
  let solution : Solution := {
    id := ← parts.required label 4 0 "id" id
    name := ← parts.required label 4 1 "name" name
    scripts := ← parts.required label 4 2 "scripts" scripts
    attributes := ← parts.required label 4 3 "attributes" attributes }
  parts.close medium 4
  .ok solution

end Solution

namespace Schema

/-- The name of a schema in a report. -/
def label : String := "struct Schema"

/-- The document of a schema. -/
def toDocument (schema : Schema) : Document :=
  .record [("id", .text schema.id), ("name", .text schema.name),
    ("solutions", .list (schema.solutions.map Solution.toDocument))]

/-- Reads a schema. -/
def ofDocument (medium : Medium) (document : Document) : Result Schema := do
  let parts ← Parts.ofDocument label document
  let id := parts.slot 0 "id" readText
  let name := parts.slot 1 "name" readText
  let solutions := parts.slot 2 "solutions" (readList (Solution.ofDocument medium))
  report [id.problem, name.problem, solutions.problem]
  let schema : Schema := {
    id := ← parts.required label 3 0 "id" id
    name := ← parts.required label 3 1 "name" name
    solutions := ← parts.required label 3 2 "solutions" solutions }
  parts.close medium 3
  .ok schema

/-- The parts of a text that a script is read from. -/
def scriptAttention : Json.Attention :=
  .fields [("id", .full), ("src", .full), ("defer", .full), ("async", .full),
    ("location", .full)]

/-- The parts of a text that a solution is read from. -/
def solutionAttention : Json.Attention :=
  .fields [("id", .full), ("name", .full), ("scripts", .each scriptAttention),
    ("attributes", .full)]

/-- The parts of a text that a schema is read from. -/
def attention : Json.Attention :=
  .fields [("id", .full), ("name", .full), ("solutions", .each solutionAttention)]

end Schema

end PageAttributes
