/-
**Conditions.**

A condition compares the value of one attribute with a fixed value, or joins conditions by `and` or
`or`. Lists of conditions stand for all of them together.

* `Condition.reads` — the attributes that a condition reads, each once, in the order of their first
  use.
-/

import PageAttributes.Number.Numeral

namespace PageAttributes

/-- How the conditions of a group are joined. -/
inductive Operator where
  | all
  | any
deriving DecidableEq, Repr

namespace Operator

/-- The name in a schema. -/
def name : Operator → String
  | .all => "and"
  | .any => "or"

/-- The sign in an explanation. -/
def sign : Operator → String
  | .all => "AND"
  | .any => "OR"

/-- Every operator. -/
def every : List Operator := [.all, .any]

/-- The operator of a name. -/
def ofName? (name : String) : Option Operator := every.find? fun operator => operator.name == name

end Operator

/-- What a condition compares an attribute with: a text or a number. -/
inductive ConditionValue where
  | text (value : String)
  | number (value : Numeral)
deriving DecidableEq

namespace ConditionValue

/-- The form shown to a reader: texts in quotes, nothing escaped. -/
def display : ConditionValue → String
  | .text value => "\"" ++ value ++ "\""
  | .number value => value.write

end ConditionValue

/-- When an attribute or a group applies. -/
inductive Condition where
  /-- The attribute has this value. -/
  | leaf (attributeId : String) (expected : ConditionValue)
  /-- All or any of the members hold. -/
  | group (operator : Operator) (members : List Condition)

namespace Condition

/-- How deep conditions may be nested. -/
def depthLimit : Nat := 128

mutual

/-- Appends the ids that a condition reads and that `known` does not have yet. -/
def addReads : Condition → List String → List String
  | .leaf attributeId _, known =>
    if known.contains attributeId then known else known ++ [attributeId]
  | .group _ members, known => addAllReads members known

/-- Appends the ids that some conditions read, one condition after another. -/
def addAllReads : List Condition → List String → List String
  | [], known => known
  | member :: rest, known => addAllReads rest (addReads member known)

end

/-- The ids that a condition reads, in the order of their first use. -/
def reads (condition : Condition) : List String := condition.addReads []

end Condition

end PageAttributes
