/-
**Scripts and choices as documents.**

* `Script.toDocument`, `Script.ofDocument` — a script as a document, and back;
* `Choice.toDocument`, `Choice.ofDocument` — the same for a choice of a dropdown.

A field that is not set is left out of the document.
-/

import PageAttributes.Schema.Basic
import PageAttributes.Wire.Parts

namespace PageAttributes

open Wire

/-- A field that is left out if there is no value. -/
def Wire.optionalField {α : Type} (key : String) (write : α → Document) :
    Option α → List (String × Document)
  | some value => [(key, write value)]
  | none => []

/-! ### Scripts -/

/-- The locations by name. -/
def ScriptLocation.variants : List (String × ScriptLocation) :=
  ScriptLocation.every.map fun location => (location.name, location)

namespace Script

/-- The name of a script in a report. -/
def label : String := "struct ScriptRef"

/-- The document of a script. -/
def toDocument (script : Script) : Document :=
  .record ([("id", .text script.id), ("src", .text script.source)]
    ++ optionalField "defer" .flag script.deferred
    ++ optionalField "async" .flag script.asynchronous
    ++ [("location", .text script.location.name)])

/-- Reads a script. -/
def ofDocument (medium : Medium) (document : Document) : Result Script := do
  let parts ← Parts.ofDocument label document
  let id := parts.slot 0 "id" readText
  let source := parts.slot 1 "src" readText
  let deferred := parts.slot 2 "defer" (readOptional readFlag)
  let asynchronous := parts.slot 3 "async" (readOptional readFlag)
  let location := parts.slot 4 "location" (readUnitVariant medium ScriptLocation.variants)
  report [id.problem, source.problem, deferred.problem, asynchronous.problem, location.problem]
  let script : Script := {
    id := ← parts.required label 5 0 "id" id
    source := ← parts.required label 5 1 "src" source
    deferred := Parts.optional deferred
    asynchronous := Parts.optional asynchronous
    location := ← parts.required label 5 4 "location" location }
  parts.close medium 5
  .ok script

end Script

/-! ### Choices -/

namespace Choice

/-- The name of a choice in a report. -/
def label : String := "struct DropdownOption"

/-- The document of a choice. -/
def toDocument (choice : Choice) : Document :=
  .record [("name", .text choice.name), ("description", .text choice.description),
    ("attributeValue", .text choice.value)]

/-- Reads a choice. -/
def ofDocument (document : Document) : Result Choice := do
  let parts ← Parts.ofDocument label document
  let name := parts.slot 0 "name" readText
  let description := parts.slot 1 "description" readText
  let value := parts.slot 2 "attributeValue" readText
  report [name.problem, description.problem, value.problem]
  let choice : Choice := {
    name := ← parts.required label 3 0 "name" name
    description := ← parts.required label 3 1 "description" description
    value := ← parts.required label 3 2 "attributeValue" value }
  parts.close .held 3
  .ok choice

end Choice

end PageAttributes
