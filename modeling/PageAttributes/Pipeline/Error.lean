/-
**What ends a build or a publication.**
-/

import PageAttributes.Grammar.Violation
import PageAttributes.Source.Load
import PageAttributes.Wire.FromText

namespace PageAttributes

/-- Why a schema is not built, read back or published. -/
inductive PipelineError where
  | source (error : LoadError)
  | invalid (violations : List Violation)
  | artifact (path : String) (fault : FileFault)
  | unreadable (problem : Wire.TextProblem)
  | metadata (path : String) (fault : FileFault)
  | badMetadata (path : String) (problem : Wire.TextProblem) (line column : Nat)
  | noVersion

namespace PipelineError

/-- The wording of an error, the place in bad metadata being left out if `placed` is not set. -/
def wording (placed : Bool) : PipelineError → String
  | .source error => error.message
  | .invalid violations => Violations.message violations
  | .artifact path fault => "Could not write schema artifact '" ++ path ++ "': " ++ fault.message
  | .unreadable problem => "Could not serialize schema: " ++ problem.message
  | .metadata path fault =>
    "Could not read project metadata: could not read '" ++ path ++ "': " ++ fault.message
  | .badMetadata path problem line column =>
    "Could not read project metadata: invalid '" ++ path ++ "': " ++ problem.message
      ++ (if placed then " at line " ++ toString line ++ " column " ++ toString column else "")
  | .noVersion => "Publish was rejected: version must not be empty"

/-- The wording of an error. -/
def message : PipelineError → String := wording true

end PipelineError

end PageAttributes
