/-
**Values of attributes.**

An assignment holds the current value of some attributes, in the order of their ids.

* `AttributeValue.satisfies` — a value is what a condition expects: the same kind and the same
  value, a flag never;
* `Assignment.get?`, `Assignment.set`, `Assignment.unset` — look up, assign, forget;
* `Assignment.defaults` — what the attributes of a solution start with, the first declaration of an
  id winning.
-/

import PageAttributes.Document.Keyed
import PageAttributes.Schema.Basic

namespace PageAttributes

/-- The value of an attribute. -/
inductive AttributeValue where
  | flag (value : Bool)
  | number (value : Numeral)
  | text (value : String)
deriving DecidableEq

namespace AttributeValue

/-- The value is the expected one: of the same kind, and equal as a text or as a number. -/
def satisfies : AttributeValue → ConditionValue → Bool
  | .text actual, .text expected => actual == expected
  | .number actual, .number expected => actual.agrees expected
  | _, _ => false

/-- The form shown to a reader: texts in quotes, nothing escaped. -/
def display : AttributeValue → String
  | .flag value => if value then "true" else "false"
  | .number value => value.write
  | .text value => "\"" ++ value ++ "\""

end AttributeValue

/-- What an input starts with. -/
def Input.initialValue? : Input → Option AttributeValue
  | .checkbox => none
  | .dropdown initial _ => initial.map .text
  | .textInput initial => initial.map .text
  | .integerInput initial => initial.map .number
  | .floatInput initial => initial.map .number

/-- The current values of attributes, by id. -/
structure Assignment where
  values : Keyed AttributeValue
deriving DecidableEq

namespace Assignment

/-- No attribute has a value. -/
def empty : Assignment := ⟨[]⟩

/-- The value of an attribute, if it has one. -/
def get? (assignment : Assignment) (id : String) : Option AttributeValue :=
  assignment.values.lookup id

/-- Gives an attribute a value. -/
def set (assignment : Assignment) (id : String) (value : AttributeValue) : Assignment :=
  ⟨Keyed.put id value assignment.values⟩

/-- Forgets the value of an attribute. -/
def unset (assignment : Assignment) (id : String) : Assignment :=
  ⟨Keyed.without id assignment.values⟩

/-- How many attributes have a value. -/
def size (assignment : Assignment) : Nat := assignment.values.length

/-- Gives an attribute a value unless it has one. -/
def setIfUnset (assignment : Assignment) (id : String) (value : AttributeValue) : Assignment :=
  if (assignment.get? id).isSome then assignment else assignment.set id value

/-- Takes over what an attribute starts with, unless a value is there already. -/
def addDefault (assignment : Assignment) (declared : Attribute) : Assignment :=
  match declared.input.initialValue? with
  | some value => assignment.setIfUnset declared.id value
  | none => assignment

/-- What the attributes of a solution start with. -/
def defaults (solution : Solution) : Assignment :=
  (solution.flat.map Prod.snd).foldl addDefault empty

end Assignment

end PageAttributes
