/-
**The shape of a schema document.**

Every part of a document is checked by a function that gives its violations, in the order in which
the parts are looked at. What has the wrong kind is reported and not looked into.

* `checkSchema` — the violations in the shape of a whole document.
-/

import PageAttributes.Grammar.Conditions
import PageAttributes.Url.Check

namespace PageAttributes.Grammar

/-- The keys of a schema. -/
def schemaKeys : List String := ["id", "name", "solutions"]

/-- The keys of a solution. -/
def solutionKeys : List String := ["id", "name", "scripts", "attributes"]

/-- The keys of a script. -/
def scriptKeys : List String := ["id", "src", "defer", "async", "location"]

/-- The keys of a group of attributes. -/
def groupKeys : List String := ["type", "name", "attributes", "nodeTypes", "conditions"]

/-- The keys of an attribute. -/
def attributeKeys : List String :=
  ["type", "id", "name", "description", "attributeName", "required", "nodeTypes", "conditions",
    "optionsType", "attributeValue", "options"]

/-- The keys of a choice of a dropdown. -/
def choiceKeys : List String := ["name", "description", "attributeValue"]

/-- What is at a place has to be a record; its fields are checked further. -/
def inRecord (check : Fields → List Violation) (path : Path) : Document → List Violation
  | .record fields => check fields
  | found => wrongKind path "object" found

/-! ### Restrictions -/

/-- The violations in one kind of node. -/
def checkNodeType (path : Path) : Document → List Violation
  | .text name =>
    if (NodeType.ofName? name).isSome then [] else [.because path (.unknownNodeType name)]
  | found => wrongKind path "string" found

/-- The violations in the kinds of nodes of an attribute or a group. -/
def checkNodeTypes (fields : Fields) (path : Path) : List Violation :=
  allowList fields path "nodeTypes"
    ++ eachItem checkNodeType (path.field "nodeTypes") 0 (listOf fields "nodeTypes")

/-! ### Inputs -/

/-- A choice must not repeat the value of an earlier one. -/
def checkRepeatedChoice (seen : List (String × Path)) (value : String) (path : Path) :
    List Violation :=
  match seen.lookup value with
  | some first => [.because path (.repeatedChoice value first)]
  | none => []

/-- The violations in a choice and in those after it; `seen` holds the values so far. -/
def checkChoices (strict : Bool) (path : Path) (seen : List (String × Path)) (position : Nat) :
    List Document → List Violation
  | [] => []
  | .record fields :: rest =>
    let place := path.index position
    let own :=
      checkKeys strict choiceKeys fields place
        ++ requireText fields place "name"
        ++ requireText fields place "description"
        ++ requireText fields place "attributeValue"
    match textOf? fields "attributeValue" with
    | some value =>
      own ++ checkRepeatedChoice seen value (place.field "attributeValue")
        ++ checkChoices strict path (seen ++ [(value, place.field "attributeValue")])
          (position + 1) rest
    | none => own ++ checkChoices strict path seen (position + 1) rest
  | found :: rest =>
    wrongKind (path.index position) "object" found
      ++ checkChoices strict path seen (position + 1) rest

/-- The violations in the choices of a dropdown. -/
def checkOptions (strict : Bool) (fields : Fields) (path : Path) : List Violation :=
  requireList fields path "options"
    ++ (if isEmptyList fields "options" then [.because (path.field "options") .emptyDropdown]
        else [])
    ++ checkChoices strict (path.field "options") [] 0 (listOf fields "options")

/-- A number that an integer input starts with has to be whole. -/
def checkWhole (fields : Fields) (path : Path) : List Violation :=
  match numberOf? fields "attributeValue" with
  | some value =>
    if value.isWhole then [] else [.because (path.field "attributeValue") (.notWhole value)]
  | none => []

/-- The violations in what belongs to a kind of input. -/
def checkInputKind (strict : Bool) (fields : Fields) (path : Path) (kind : InputKind) :
    List Violation :=
  match kind with
  | .checkbox =>
    forbid fields path kind.name "attributeValue" ++ forbid fields path kind.name "options"
  | .dropdown => allowText fields path "attributeValue" ++ checkOptions strict fields path
  | .textInput => allowText fields path "attributeValue" ++ forbid fields path kind.name "options"
  | .integerInput =>
    allowNumber fields path "attributeValue" ++ checkWhole fields path
      ++ forbid fields path kind.name "options"
  | .floatInput =>
    allowNumber fields path "attributeValue" ++ forbid fields path kind.name "options"

/-- The violations in the input of an attribute. -/
def checkInput (strict : Bool) (fields : Fields) (path : Path) : List Violation :=
  requireText fields path "optionsType" ++
    match textOf? fields "optionsType" with
    | some name =>
      match InputKind.ofName? name with
      | some kind => checkInputKind strict fields path kind
      | none => [.because (path.field "optionsType") (.unknownOptionsType name)]
    | none => []

/-! ### Attributes and groups -/

/-- The violations in an attribute. -/
def checkAttribute (strict : Bool) (path : Path) (fields : Fields) : List Violation :=
  checkKeys strict attributeKeys fields path
    ++ requireText fields path "id"
    ++ requireText fields path "name"
    ++ requireText fields path "description"
    ++ requireText fields path "attributeName"
    ++ allowFlag fields path "required"
    ++ checkNodeTypes fields path
    ++ checkConditions strict fields path
    ++ checkInput strict fields path

/-- The violations in a member of a group, which has to be an attribute. -/
def checkMember (strict : Bool) (path : Path) : Document → List Violation :=
  inRecord (fun fields =>
    requireText fields path "type" ++
      match textOf? fields "type" with
      | some "attribute" => checkAttribute strict path fields
      | some "group" => [.because (path.field "type") .nestedGroup]
      | some other => [.because (path.field "type") (.unknownType other "attribute")]
      | none => []) path

/-- The violations in a group. -/
def checkGroup (strict : Bool) (path : Path) (fields : Fields) : List Violation :=
  checkKeys strict groupKeys fields path
    ++ requireText fields path "name"
    ++ checkNodeTypes fields path
    ++ requireList fields path "attributes"
    ++ (if isEmptyList fields "attributes" then [.because (path.field "attributes") .emptyGroup]
        else [])
    ++ eachItem (checkMember strict) (path.field "attributes") 0 (listOf fields "attributes")
    ++ checkConditions strict fields path

/-- The violations in an entry of the attribute list of a solution. -/
def checkNode (strict : Bool) (path : Path) : Document → List Violation :=
  inRecord (fun fields =>
    requireText fields path "type" ++
      match textOf? fields "type" with
      | some "attribute" => checkAttribute strict path fields
      | some "group" => checkGroup strict path fields
      | some other => [.because (path.field "type") (.unknownType other "attribute or group")]
      | none => []) path

/-! ### Scripts and solutions -/

/-- The source of a script has to be a URL. -/
def checkSource (fields : Fields) (path : Path) : List Violation :=
  match textOf? fields "src" with
  | some source =>
    match Url.problem? source with
    | some problem => [.because (path.field "src") (.badUrl source problem)]
    | none => []
  | none => []

/-- The violations in a script. -/
def checkScript (strict : Bool) (path : Path) : Document → List Violation :=
  inRecord (fun fields =>
    checkKeys strict scriptKeys fields path
      ++ requireText fields path "id"
      ++ requireText fields path "src"
      ++ checkSource fields path
      ++ allowFlag fields path "defer"
      ++ allowFlag fields path "async"
      ++ requireText fields path "location"
      ++ checkName fields path "location" (fun name => (ScriptLocation.ofName? name).isSome)
        .unknownLocation) path

/-- The violations in a solution. -/
def checkSolution (strict : Bool) (path : Path) : Document → List Violation :=
  inRecord (fun fields =>
    checkKeys strict solutionKeys fields path
      ++ requireText fields path "id"
      ++ requireText fields path "name"
      ++ requireList fields path "scripts"
      ++ eachItem (checkScript strict) (path.field "scripts") 0 (listOf fields "scripts")
      ++ requireList fields path "attributes"
      ++ eachItem (checkNode strict) (path.field "attributes") 0 (listOf fields "attributes")) path

/-- The violations in the shape of a document. -/
def checkSchema (strict : Bool) : Document → List Violation :=
  inRecord (fun fields =>
    checkKeys strict schemaKeys fields .root
      ++ requireText fields .root "id"
      ++ requireText fields .root "name"
      ++ requireList fields .root "solutions"
      ++ eachItem (checkSolution strict) (Path.root.field "solutions") 0
        (listOf fields "solutions")) .root

end PageAttributes.Grammar
