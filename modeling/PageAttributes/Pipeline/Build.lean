/-
**Building schemas.**

A build loads a source, validates it and writes the schema into a directory. The first stage that
fails ends it.

* `loadSource` — the document of a source file;
* `Schema.save`, `Schema.load` — writes a schema into a directory, and reads one back;
* `build` — a whole build.
-/

import PageAttributes.Artifact
import PageAttributes.Grammar.Validator
import PageAttributes.Pipeline.Error
import PageAttributes.Storage.Access

namespace PageAttributes

variable {m : Type → Type} [Monad m] [FileAccess m]

/-- The document of a source file. A source of an unknown format is not read. -/
def loadSource (path : String) : m (Except LoadError Document) :=
  match sourceFormat path with
  | .error error => pure (.error error)
  | .ok format => do
    match ← FileAccess.readText path with
    | .error fault => pure (.error (.unreadable path fault))
    | .ok text => pure (parseSource text format path)

/-- Writes a schema into a directory; the path of the file. -/
def Schema.save (schema : Schema) (directory : String) : m (Except PipelineError String) := do
  let path := FilePath.join directory Schema.fileName
  match ← FileAccess.writeFile path schema.toJson.toUTF8 with
  | .ok () => pure (.ok path)
  | .error fault => pure (.error (.artifact path fault))

/-- Reads back a schema that was written before. It is not validated again. -/
def Schema.load (path : String) : m (Except PipelineError Schema) := do
  match ← FileAccess.readFile path with
  | .error fault => pure (.error (.artifact path fault))
  | .ok content => pure ((Schema.ofBytes content).mapError .unreadable)

/-- What a build has made. -/
structure BuildOutput where
  schema : Schema
  path : String

/-- The schema of a source document. -/
def schemaOf (validator : Validator) (loaded : Except LoadError Document) :
    Except PipelineError Schema :=
  match loaded with
  | .error error => .error (.source error)
  | .ok document => (validator.validate document).mapError .invalid

/-- Loads a source, validates it and writes the schema into a directory. -/
def build (source directory : String) (validator : Validator) :
    m (Except PipelineError BuildOutput) := do
  match schemaOf validator (← loadSource source) with
  | .error error => pure (.error error)
  | .ok schema =>
    match ← schema.save directory with
    | .error error => pure (.error error)
    | .ok path => pure (.ok ⟨schema, path⟩)

end PageAttributes
