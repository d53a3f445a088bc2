/-
**Attributes and groups as documents.**

* `Attribute.toDocument`, `Attribute.ofDocument` — an attribute as a document, and back;
* `AttributeNode.toDocument`, `AttributeNode.ofDocument` — the same for an entry of an attribute
  list, with its `type`.

The fields of an input stand beside the fields of its attribute, behind the kind of the input.
-/

import PageAttributes.Wire.Condition
import PageAttributes.Wire.Script

namespace PageAttributes

open Wire

/-! ### Restrictions -/

/-- The kinds of nodes by name. -/
def NodeType.variants : List (String × NodeType) := NodeType.all.map fun kind => (kind.name, kind)

/-- Reads a kind of node inside an attribute or a group. -/
def NodeType.ofDocument : Document → Result NodeType := readUnitVariant .held NodeType.variants

/-- The fields of the restrictions that are set. -/
def Wire.restrictionFields (nodeTypes : Option (List NodeType))
    (conditions : Option (List Condition)) : List (String × Document) :=
  optionalField "nodeTypes" (fun kinds => .list (kinds.map fun kind => .text kind.name)) nodeTypes
    ++ optionalField "conditions" (fun list => .list (Condition.toDocuments list)) conditions

/-! ### Inputs -/

namespace Input

/-- The kinds of inputs by name. -/
def variants : List (String × InputKind) :=
  InputKind.every.map fun kind => (kind.name, kind)

/-- The fields of an input, its kind first. -/
def toFields (input : Input) : List (String × Document) :=
  ("optionsType", .text input.kind.name) ::
    match input with
    | .checkbox => []
    | .dropdown initial choices =>
      optionalField "attributeValue" .text initial
        ++ [("options", .list (choices.map Choice.toDocument))]
    | .textInput initial => optionalField "attributeValue" .text initial
    | .integerInput initial => optionalField "attributeValue" .number initial
    | .floatInput initial => optionalField "attributeValue" .number initial

/-- Reads what an input starts with, if nothing else belongs to it. -/
def initialOf {α : Type} (read : Document → Result α) (given : List (String × Document)) :
    Result (Option α) := do
  let initial := fieldSlot "attributeValue" (readOptional read) 0 given
  report [initial.problem]
  .ok (Parts.optional initial)

/-- Reads an input from the fields of its attribute. -/
def ofFields (given : List (String × Document)) : Result Input := do
  let (kind, _) ←
    readTagged .held "internally tagged enum AttributeInput" "optionsType" variants (.record given)
  match kind with
  | .checkbox => .ok .checkbox
  | .dropdown =>
    let initial := fieldSlot "attributeValue" (readOptional readText) 0 given
    let choices := fieldSlot "options" (readList Choice.ofDocument) 0 given
    report [initial.problem, choices.problem]
    match choices.value with
    | some choices => .ok (.dropdown (Parts.optional initial) choices)
    | none => mismatch (.missingField "options")
  | .textInput => (initialOf readText given).map .textInput
  | .integerInput => (initialOf readNumber given).map .integerInput
  | .floatInput => (initialOf readNumber given).map .floatInput

end Input

/-! ### Attributes -/

namespace Attribute

/-- The fields of an attribute. -/
def toFields (declared : Attribute) : List (String × Document) :=
  [("id", .text declared.id), ("name", .text declared.name),
      ("description", .text declared.description), ("attributeName", .text declared.attributeName)]
    ++ optionalField "required" .flag declared.required
    ++ restrictionFields declared.nodeTypes declared.conditions
    ++ declared.input.toFields

/-- The document of an attribute without its type. -/
def toDocument (declared : Attribute) : Document := .record declared.toFields

/-- The document of an attribute in a list. -/
def toEntry (declared : Attribute) : Document :=
  .record (("type", .text "attribute") :: declared.toFields)

/-- Reads an attribute. Since its fields are not all its own it cannot be spelled by a list. -/
def ofDocument : Document → Result Attribute
  | .record given => do
    let id := fieldSlot "id" readText 0 given
    let name := fieldSlot "name" readText 0 given
    let description := fieldSlot "description" readText 0 given
    let attributeName := fieldSlot "attributeName" readText 0 given
    let required := fieldSlot "required" (readOptional readFlag) 0 given
    let nodeTypes := fieldSlot "nodeTypes" (readOptional (readList NodeType.ofDocument)) 0 given
    let conditions :=
      fieldSlot "conditions" (readOptional (readList (Condition.ofDocument .held))) 0 given
    report [id.problem, name.problem, description.problem, attributeName.problem,
      required.problem, nodeTypes.problem, conditions.problem]
    let parts := Parts.fields given
    .ok {
      id := ← parts.required "" 0 0 "id" id
      name := ← parts.required "" 0 0 "name" name
      description := ← parts.required "" 0 0 "description" description
      attributeName := ← parts.required "" 0 0 "attributeName" attributeName
      required := Parts.optional required
      nodeTypes := Parts.optional nodeTypes
      conditions := Parts.optional conditions
      input := ← Input.ofFields given }
  | found => wrongKind found "struct Attribute"

/-- Reads an attribute with its type. -/
def ofEntry (document : Document) : Result Attribute := do
  let (_, content) ←
    readTagged .held "internally tagged enum Tagged" "type" [("attribute", ())] document
  ofDocument content

end Attribute

/-! ### Groups -/

namespace AttributeGroup

/-- The name of a group in a report. -/
def label : String := "struct AttributeGroup"

/-- The fields of a group. -/
def toFields (group : AttributeGroup) : List (String × Document) :=
  [("name", .text group.name), ("attributes", .list (group.attributes.map Attribute.toEntry))]
    ++ restrictionFields group.nodeTypes group.conditions

/-- The document of a group without its type. -/
def toDocument (group : AttributeGroup) : Document := .record group.toFields

/-- Reads a group. -/
def ofDocument (document : Document) : Result AttributeGroup := do
  let parts ← Parts.ofDocument label document
  let name := parts.slot 0 "name" readText
  let attributes := parts.slot 1 "attributes" (readList Attribute.ofEntry)
  let nodeTypes := parts.slot 2 "nodeTypes" (readOptional (readList NodeType.ofDocument))
  let conditions := parts.slot 3 "conditions"
    (readOptional (readList (Condition.ofDocument .held)))
  report [name.problem, attributes.problem, nodeTypes.problem, conditions.problem]
  let group : AttributeGroup := {
    name := ← parts.required label 4 0 "name" name
    attributes := ← parts.required label 4 1 "attributes" attributes
    nodeTypes := Parts.optional nodeTypes
    conditions := Parts.optional conditions }
  parts.close .held 4
  .ok group

end AttributeGroup

/-! ### Entries -/

namespace AttributeNode

/-- The two forms of entries. -/
inductive Form where
  | single
  | group
deriving DecidableEq, Repr

/-- The forms by the name of their type. -/
def Form.variants : List (String × Form) := [("attribute", .single), ("group", .group)]

/-- The document of an entry. -/
def toDocument : AttributeNode → Document
  | .single declared => declared.toEntry
  | .group gathered => .record (("type", .text "group") :: gathered.toFields)

/-- Reads an entry. -/
def ofDocument (medium : Medium) (document : Document) : Result AttributeNode := do
  let (form, content) ←
    readTagged medium "internally tagged enum AttributeNode" "type" Form.variants document
  match form with
  | .single => afterwards ((Attribute.ofDocument content).map .single)
  | .group => afterwards ((AttributeGroup.ofDocument content).map .group)

end AttributeNode

end PageAttributes
