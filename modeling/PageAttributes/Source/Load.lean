/-
**Loading schema sources.**

* `parseSource` — the document of a source text; the origin is named in errors only;
* `LoadError.message` — the wording of what can go wrong.
-/

import PageAttributes.Json.Reader
import PageAttributes.Source.Format
import PageAttributes.Storage.Fault
import PageAttributes.Yaml.Reader

namespace PageAttributes

/-- Why a source cannot be loaded. -/
inductive LoadError where
  | unreadable (path : String) (fault : FileFault)
  | badJson (path : String) (halt : Json.Halt) (line column : Nat)
  | badYaml (path : String) (problem : Yaml.Problem)
  | unsupported (path : String)
  | missingSchema (path : String)

namespace LoadError

/-- The wording of an error. -/
def message : LoadError → String
  | .unreadable path fault => "Could not read schema source '" ++ path ++ "': " ++ fault.message
  | .badJson path halt line column =>
    "Failed to parse schema source '" ++ path ++ "': " ++ halt.fault.message ++ " at line "
      ++ toString line ++ " column " ++ toString column
  | .badYaml path problem =>
    "Failed to parse schema source '" ++ path ++ "': " ++ problem.message
  | .unsupported path =>
    "Unsupported schema source '" ++ path ++ "': expected a .json, .yaml or .yml file"
  | .missingSchema path => "Schema source '" ++ path ++ "' does not define a schema"

end LoadError

/-- The document of a text in a format. -/
def readSource (text : String) (format : SourceFormat) (origin : String) :
    Except LoadError Document :=
  match format with
  | .json =>
    let symbols := Json.Symbol.ofText text
    match Json.readAll Json.depthLimit symbols with
    | .ok document => .ok document
    | .error halt =>
      let (line, column) := halt.lineAndColumn symbols
      .error (.badJson origin halt line column)
  | .yaml =>
    match Yaml.read text with
    | .ok document => .ok document
    | .error problem => .error (.badYaml origin problem)

/-- The document of a source text. A source that says nothing defines no schema. -/
def parseSource (text : String) (format : SourceFormat) (origin : String) :
    Except LoadError Document :=
  match readSource text format origin with
  | .ok document => if document.isNull then .error (.missingSchema origin) else .ok document
  | .error error => .error error

/-- The format of a source, by its path. -/
def sourceFormat (path : String) : Except LoadError SourceFormat :=
  match SourceFormat.ofPath? path with
  | some format => .ok format
  | none => .error (.unsupported path)

end PageAttributes
