/-
**Traces in one line.**

A trace is written as a formula over its leaves, in which `AND` binds tighter than `OR`; parentheses
stand only where they are needed. What was skipped is left out, and a group of which one member is
left is written as that member.

* `Trace.format` — the line of a trace;
* `Trace.formatAll` — the line of the traces of conditions that all have to hold;
* `Condition.explain` — the line of a list of conditions with its outcome.
-/

import PageAttributes.Trace.Basic

namespace PageAttributes

namespace Trace

/-- How tight a trace binds. -/
def precedence : Trace → Nat
  | .group .any _ _ => 1
  | .group .all _ _ => 2
  | .leaf .. => 9
  | .skipped => 9

/-- How many of some traces are shown. -/
def shownCount (traces : List Trace) : Nat := (traces.filter fun trace => !trace.isSkipped).length

/-- The line of a leaf. -/
def formatLeaf (attributeId : String) (expected : ConditionValue)
    (actual : Option AttributeValue) : String :=
  let was := match actual with
    | some value => value.display
    | none => "unset"
  attributeId ++ " == " ++ expected.display ++ " (was " ++ was ++ ")"

/-- Puts parentheses around a line that binds less tight than what is around it. -/
def parenthesize (needed : Bool) (line : String) : String :=
  if needed then "(" ++ line ++ ")" else line

mutual

/-- The line of a trace inside something that binds as tight as `around`. -/
def formatInside (around : Nat) : Trace → String
  | .group operator members outcome =>
    let own := precedence (.group operator members outcome)
    if shownCount members = 1 then
      (formatShown around members).headD ""
    else
      parenthesize (own < around)
        ((" " ++ operator.sign ++ " ").intercalate (formatShown own members))
  | .leaf attributeId expected actual _ =>
    parenthesize (9 < around) (formatLeaf attributeId expected actual)
  | .skipped => parenthesize (9 < around) ""

/-- The lines of the traces that are shown. -/
def formatShown (around : Nat) : List Trace → List String
  | [] => []
  | .skipped :: rest => formatShown around rest
  | trace :: rest => formatInside around trace :: formatShown around rest

end

/-- The line of a trace. -/
def format (trace : Trace) : String := trace.formatInside 0

/-- The line of the traces of conditions that all have to hold. -/
def formatAll (traces : List Trace) : String :=
  " AND ".intercalate (formatShown (if 1 < traces.length then 2 else 0) traces)

end Trace

/-- The line of a list of conditions, with its outcome. -/
def Condition.explain (assignment : Assignment) (conditions : Option (List Condition)) : String :=
  match conditions with
  | some (first :: rest) =>
    let (traces, outcome) := traceAll assignment (first :: rest)
    Trace.formatAll traces ++ " => " ++ (if outcome then "true" else "false")
  | _ => "unconditional => true"

end PageAttributes
