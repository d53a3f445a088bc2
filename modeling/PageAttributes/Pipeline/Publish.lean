/-
**Publishing schemas.**

A schema is published under the version that the project gives itself.

* `ProjectMetadata` — what the file of a project says about it;
* `ProjectMetadata.read` — the metadata of a project in a directory;
* `publish` — the receipt for a schema. A version of blanks alone is turned away.
-/

import PageAttributes.Pipeline.Error
import PageAttributes.Schema.Basic
import PageAttributes.Storage.Access
import PageAttributes.Text.Blank

namespace PageAttributes

open Wire

/-- What the file of a project says about it. -/
structure ProjectMetadata where
  name : Option String
  version : String

namespace ProjectMetadata

/-- The name of the file of a project. -/
def fileName : String := "package.json"

/-- The name of the metadata in a report. -/
def label : String := "struct ProjectMetadata"

/-- The parts of a text that the metadata are read from. -/
def attention : Json.Attention := .fields [("name", .full), ("version", .full)]

/-- Reads the metadata of a project. -/
def ofDocument (medium : Medium) (document : Document) : Result ProjectMetadata := do
  let parts ← Parts.ofDocument label document
  let name := parts.slot 0 "name" (readOptional readText)
  let version := parts.slot 1 "version" readText
  report [name.problem, version.problem]
  let metadata : ProjectMetadata := {
    name := Parts.optional name
    version := ← parts.required label 2 1 "version" version }
  parts.close medium 2
  .ok metadata

/-- The metadata of a text. -/
def ofText (path text : String) : Except PipelineError ProjectMetadata :=
  let symbols := Json.Symbol.ofText text
  match ofSymbols attention (ofDocument .text) symbols with
  | .ok metadata => .ok metadata
  | .error problem =>
    let (line, column) := problem.place symbols
    .error (.badMetadata path problem line column)

/-- The metadata of the project in a directory. -/
def read {m : Type → Type} [Monad m] [FileAccess m] (directory : String) :
    m (Except PipelineError ProjectMetadata) := do
  let path := FilePath.join directory fileName
  match ← FileAccess.readText path with
  | .error fault => pure (.error (.metadata path fault))
  | .ok text => pure (ofText path text)

end ProjectMetadata

/-- The receipt for a published schema. -/
structure PublishReceipt where
  schemaId : String
  version : String

/-- Publishes a schema under a version. -/
def publish (schema : Schema) (version : String) : Except PipelineError PublishReceipt :=
  if Text.isAllBlank version then .error .noVersion else .ok ⟨schema.id, version⟩

end PageAttributes
