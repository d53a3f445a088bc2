/-
**Why visibility cannot be resolved.**
-/

namespace PageAttributes

/-- Why the visibility of a solution cannot be resolved. -/
inductive VisibilityError where
  /-- The labels on a way from an attribute or a group back to itself. -/
  | cycle (labels : List String)
  /-- A condition reads an id that is not declared. -/
  | unknownAttribute (id : String)
  /-- Something is nested deeper than this. -/
  | tooDeep (limit : Nat)
deriving DecidableEq, Repr

/-- The wording of an error. -/
def VisibilityError.message : VisibilityError → String
  | .cycle labels => "Conditions form a dependency cycle: " ++ " -> ".intercalate labels
  | .unknownAttribute id =>
    "Condition references attribute '" ++ id ++ "', which is not declared in the solution"
  | .tooDeep limit => "Conditions are nested deeper than " ++ toString limit ++ " levels"

end PageAttributes
