/-
**Schemas of page attributes.**

A schema lists solutions. A solution has scripts to load and attributes to offer; an attribute has
an input kind, and may be restricted to kinds of nodes and by conditions. Attributes may be gathered
in groups, which are restricted in the same way; groups hold no groups.

* `Solution.flat` — every attribute with the group it stands in, in declaration order;
* `Solution.findAttribute?`, `Solution.findGroup?` — the first declaration of an id or a name.
-/

import PageAttributes.Schema.Condition
import PageAttributes.Schema.NodeType

namespace PageAttributes

/-- The part of a page that a script is put into. -/
inductive ScriptLocation where
  | head
  | body
deriving DecidableEq, Repr

namespace ScriptLocation

/-- The name in a schema. -/
def name : ScriptLocation → String
  | .head => "head"
  | .body => "body"

/-- Both locations. -/
def every : List ScriptLocation := [.head, .body]

/-- The location of a name. -/
def ofName? (name : String) : Option ScriptLocation :=
  every.find? fun location => location.name == name

end ScriptLocation

/-- A script that a page loads when the solution is active. -/
structure Script where
  id : String
  source : String
  deferred : Option Bool
  asynchronous : Option Bool
  location : ScriptLocation
deriving DecidableEq

/-- One choice of a dropdown. -/
structure Choice where
  name : String
  description : String
  value : String
deriving DecidableEq

/-- The kinds of inputs. -/
inductive InputKind where
  | checkbox
  | dropdown
  | textInput
  | integerInput
  | floatInput
deriving DecidableEq, Repr

namespace InputKind

/-- The name in a schema. -/
def name : InputKind → String
  | .checkbox => "checkbox"
  | .dropdown => "dropdown"
  | .textInput => "text-input"
  | .integerInput => "integer-input"
  | .floatInput => "float-input"

/-- Every kind, in the order in which they are listed to a reader. -/
def every : List InputKind := [.checkbox, .dropdown, .textInput, .integerInput, .floatInput]

/-- The kind of a name. -/
def ofName? (name : String) : Option InputKind := every.find? fun kind => kind.name == name

end InputKind

/-- How an attribute is entered, and what it starts with. -/
inductive Input where
  | checkbox
  | dropdown (initial : Option String) (choices : List Choice)
  | textInput (initial : Option String)
  | integerInput (initial : Option Numeral)
  | floatInput (initial : Option Numeral)
deriving DecidableEq

/-- The kind of an input. -/
def Input.kind : Input → InputKind
  | .checkbox => .checkbox
  | .dropdown .. => .dropdown
  | .textInput _ => .textInput
  | .integerInput _ => .integerInput
  | .floatInput _ => .floatInput

/-- One property that can be set on a node. -/
structure Attribute where
  id : String
  name : String
  description : String
  attributeName : String
  required : Option Bool
  nodeTypes : Option (List NodeType)
  conditions : Option (List Condition)
  input : Input

/-- The attribute has to be set. -/
def Attribute.isRequired (declared : Attribute) : Bool := declared.required.getD false

/-- Attributes that are offered together. -/
structure AttributeGroup where
  name : String
  attributes : List Attribute
  nodeTypes : Option (List NodeType)
  conditions : Option (List Condition)

/-- An entry of the attribute list of a solution. -/
inductive AttributeNode where
  | single (declared : Attribute)
  | group (group : AttributeGroup)

/-- The attributes of an entry, each with its group. -/
def AttributeNode.flat : AttributeNode → List (Option AttributeGroup × Attribute)
  | .single declared => [(none, declared)]
  | .group gathered => gathered.attributes.map fun declared => (some gathered, declared)

/-- A feature: the scripts it loads and the attributes it offers. -/
structure Solution where
  id : String
  name : String
  scripts : List Script
  attributes : List AttributeNode

namespace Solution

/-- Every attribute in declaration order, each with its group. -/
def flat (solution : Solution) : List (Option AttributeGroup × Attribute) :=
  solution.attributes.flatMap AttributeNode.flat

/-- The groups in declaration order. -/
def groups (solution : Solution) : List AttributeGroup :=
  solution.attributes.filterMap fun
    | .group group => some group
    | .single _ => none

/-- The first attribute with an id. -/
def findAttribute? (solution : Solution) (id : String) : Option Attribute :=
  (solution.flat.map Prod.snd).find? fun declared => declared.id == id

/-- The first group with a name. -/
def findGroup? (solution : Solution) (name : String) : Option AttributeGroup :=
  solution.groups.find? fun group => group.name == name

end Solution

/-- A schema. -/
structure Schema where
  id : String
  name : String
  solutions : List Solution

end PageAttributes
