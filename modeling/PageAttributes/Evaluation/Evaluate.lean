/-
**Deciding conditions.**

A leaf holds when its attribute has a value and the value is the expected one. An `and` group holds
when all its members hold, an `or` group when any does.

* `Condition.holds` — whether a condition holds;
* `Condition.allHold` — whether all conditions of a list hold;
* `Condition.listHolds` — the same for a list that may be absent.
-/

import PageAttributes.Evaluation.Assignment

namespace PageAttributes

/-- The attribute has a value, and it is the expected one. -/
def Assignment.satisfies (assignment : Assignment) (id : String) (expected : ConditionValue) :
    Bool :=
  match assignment.get? id with
  | some actual => actual.satisfies expected
  | none => false

namespace Condition

mutual

/-- Whether a condition holds. -/
def holds (assignment : Assignment) : Condition → Bool
  | .leaf attributeId expected => assignment.satisfies attributeId expected
  | .group .all members => allHold assignment members
  | .group .any members => anyHolds assignment members

/-- Whether all conditions hold. -/
def allHold (assignment : Assignment) : List Condition → Bool
  | [] => true
  | member :: rest => holds assignment member && allHold assignment rest

/-- Whether any condition holds. -/
def anyHolds (assignment : Assignment) : List Condition → Bool
  | [] => false
  | member :: rest => holds assignment member || anyHolds assignment rest

end

/-- Whether the conditions of an attribute or a group hold; without conditions they do. -/
def listHolds (assignment : Assignment) (conditions : Option (List Condition)) : Bool :=
  allHold assignment (conditions.getD [])

end Condition

end PageAttributes
