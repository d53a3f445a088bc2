/-
**How conditions were decided.**

A trace records what was found at every leaf and what came out at every group. Members that could
no longer change the outcome of their group are skipped.

* `Condition.trace` — the trace of a condition;
* `Condition.traceSequence` — the traces of the members of a group, and its outcome;
* `Condition.traceAll` — the same for a list of conditions that stands for all of them.
-/

import PageAttributes.Evaluation.Evaluate

namespace PageAttributes

/-- How a condition was decided. -/
inductive Trace where
  | group (operator : Operator) (members : List Trace) (outcome : Bool)
  | leaf (attributeId : String) (expected : ConditionValue) (actual : Option AttributeValue)
      (outcome : Bool)
  /-- The outcome was clear without this condition. -/
  | skipped

namespace Trace

instance : Inhabited Trace := ⟨.skipped⟩

/-- What came out. Nothing came out of what was skipped. -/
def outcome : Trace → Bool
  | .group _ _ outcome => outcome
  | .leaf _ _ _ outcome => outcome
  | .skipped => false

/-- The condition was not looked at. -/
def isSkipped : Trace → Bool
  | .skipped => true
  | _ => false

end Trace

/-- The outcome of one member that decides a group. -/
def Operator.decisive : Operator → Bool
  | .all => false
  | .any => true

namespace Condition

mutual

/-- The trace of a condition. -/
def trace (assignment : Assignment) : Condition → Trace
  | .leaf attributeId expected =>
    .leaf attributeId expected (assignment.get? attributeId)
      (assignment.satisfies attributeId expected)
  | .group operator members =>
    let (traces, outcome) := traceSequence assignment operator members
    .group operator traces outcome

/-- The traces of the members of a group, up to the one that decides it, and its outcome. -/
def traceSequence (assignment : Assignment) (operator : Operator) :
    List Condition → List Trace × Bool
  | [] => ([], !operator.decisive)
  | member :: rest =>
    let first := trace assignment member
    if first.outcome = operator.decisive then
      (first :: rest.map fun _ => .skipped, operator.decisive)
    else
      let (traces, outcome) := traceSequence assignment operator rest
      (first :: traces, outcome)

end

/-- The traces of conditions that all have to hold, and the outcome. -/
def traceAll (assignment : Assignment) (conditions : List Condition) : List Trace × Bool :=
  traceSequence assignment .all conditions

end Condition

end PageAttributes
