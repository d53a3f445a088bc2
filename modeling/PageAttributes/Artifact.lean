/-
**The persisted form of a schema.**

A schema is written as compact JSON and read back without validation.

* `Schema.toJson` — the written form;
* `Schema.ofBytes` — the schema of a written form.
-/

import PageAttributes.Json.Printer
import PageAttributes.Wire.FromText
import PageAttributes.Wire.Schema

namespace PageAttributes.Schema

/-- The name of the file that a schema is written to. -/
def fileName : String := "schema.json"

/-- The written form of a schema. -/
def toJson (schema : Schema) : String := schema.toDocument.write

/-- Reads a schema from the symbols of its written form. -/
def ofSymbols (symbols : List Json.Symbol) : Except Wire.TextProblem Schema :=
  Wire.ofSymbols attention (ofDocument .text) symbols

/-- Reads a schema from its written form. -/
def ofBytes (bytes : ByteArray) : Except Wire.TextProblem Schema :=
  ofSymbols (Json.Symbol.ofBytes bytes)

end PageAttributes.Schema
