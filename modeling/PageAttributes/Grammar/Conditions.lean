/-
**Conditions in a document.**

* `checkCondition`, `checkConditions` — the violations in a condition, and in the conditions of an
  attribute or a group;
* `referencesIn`, `referencesOf` — the ids that the leaves name, with their places.

A condition nested too deep is reported as such and not looked at.
-/

import PageAttributes.Grammar.Fields

namespace PageAttributes.Grammar

/-- The keys of a leaf. -/
def leafKeys : List String := ["type", "attributeId", "attributeValue"]

/-- The keys of a group of conditions. -/
def conditionGroupKeys : List String := ["type", "operator", "conditions"]

/-- The value of a leaf has to be a text or a number. -/
def checkExpected (fields : Fields) (path : Path) : List Violation :=
  match fields.lookup "attributeValue" with
  | some (.text _) => []
  | some (.number _) => []
  | some found => wrongKind (path.field "attributeValue") "string or number" found
  | none => missing path "attributeValue"

/-- The violations in a leaf. -/
def checkLeaf (strict : Bool) (path : Path) (fields : Fields) : List Violation :=
  checkKeys strict leafKeys fields path
    ++ requireText fields path "attributeId"
    ++ checkExpected fields path

/-- The violations in a group of conditions, given those in its members. -/
def checkConditionGroup (strict : Bool) (path : Path) (fields : Fields)
    (members : List Violation) : List Violation :=
  checkKeys strict conditionGroupKeys fields path
    ++ requireText fields path "operator"
    ++ checkName fields path "operator" (fun name => (Operator.ofName? name).isSome)
      .unknownOperator
    ++ members

/-- The violations in a condition that is a record, given those in its members. -/
def checkConditionRecord (strict : Bool) (path : Path) (fields : Fields)
    (members : List Violation) : List Violation :=
  requireText fields path "type" ++
    match textOf? fields "type" with
    | some "condition" => checkLeaf strict path fields
    | some "group" => checkConditionGroup strict path fields members
    | some other => [.because (path.field "type") (.unknownType other "condition or group")]
    | none => []

mutual

/-- The violations in a condition at a depth. -/
def checkCondition (strict : Bool) (depth : Nat) (path : Path) : Document → List Violation
  | .record fields =>
    if Condition.depthLimit < depth then
      [.because path (.nestedTooDeep Condition.depthLimit)]
    else
      checkConditionRecord strict path fields
        (checkMembersField strict (depth + 1) (path.field "conditions") fields)
  | found =>
    if Condition.depthLimit < depth then
      [.because path (.nestedTooDeep Condition.depthLimit)]
    else wrongKind path "object" found

/-- The violations in the members of a group, which stand under `conditions`. -/
def checkMembersField (strict : Bool) (depth : Nat) (path : Path) :
    List (String × Document) → List Violation
  | [] => [.because path .missingField]
  | (key, value) :: rest =>
    if key = "conditions" then checkMembers strict depth path value
    else checkMembersField strict depth path rest

/-- The violations in what stands in the place of the members of a group. -/
def checkMembers (strict : Bool) (depth : Nat) (path : Path) : Document → List Violation
  | .list [] => [.because path .emptyConditionGroup]
  | .list (first :: rest) =>
    checkCondition strict depth (path.index 0) first ++ checkEach strict depth path 1 rest
  | found => wrongKind path "array" found

/-- The violations in the members from a position on. -/
def checkEach (strict : Bool) (depth : Nat) (path : Path) (position : Nat) :
    List Document → List Violation
  | [] => []
  | item :: rest =>
    checkCondition strict depth (path.index position) item
      ++ checkEach strict depth path (position + 1) rest

end

/-- The violations in the conditions of an attribute or a group. -/
def checkConditions (strict : Bool) (fields : Fields) (path : Path) : List Violation :=
  allowList fields path "conditions"
    ++ checkEach strict 1 (path.field "conditions") 0 (listOf fields "conditions")

/-! ### References -/

/-- The id that a leaf names, with its place. -/
def leafReference (path : Path) (fields : Fields) : List (String × Path) :=
  match textOf? fields "attributeId" with
  | some id => [(id, path.field "attributeId")]
  | none => []

mutual

/-- The ids that the leaves of a condition name. -/
def referencesIn (depth : Nat) (path : Path) : Document → List (String × Path)
  | .record fields =>
    if Condition.depthLimit < depth then []
    else
      match textOf? fields "type" with
      | some "condition" => leafReference path fields
      | some "group" => referencesInField (depth + 1) (path.field "conditions") fields
      | _ => []
  | _ => []

/-- The ids that the leaves under `conditions` name. -/
def referencesInField (depth : Nat) (path : Path) :
    List (String × Document) → List (String × Path)
  | [] => []
  | (key, value) :: rest =>
    if key = "conditions" then referencesInMembers depth path value
    else referencesInField depth path rest

/-- The ids that the leaves of the members of a group name. -/
def referencesInMembers (depth : Nat) (path : Path) : Document → List (String × Path)
  | .list items => referencesInEach depth path 0 items
  | _ => []

/-- The ids that the leaves name from a position on. -/
def referencesInEach (depth : Nat) (path : Path) (position : Nat) :
    List Document → List (String × Path)
  | [] => []
  | item :: rest =>
    referencesIn depth (path.index position) item
      ++ referencesInEach depth path (position + 1) rest

end

/-- The ids that the conditions of an attribute or a group name. -/
def referencesOf (fields : Fields) (path : Path) : List (String × Path) :=
  referencesInEach 1 (path.field "conditions") 0 (listOf fields "conditions")

end PageAttributes.Grammar
