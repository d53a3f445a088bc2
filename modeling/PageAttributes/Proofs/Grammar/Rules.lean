/-
**The grammar of schema documents, as rules.**

What a document has to look like, said part by part and without a walk over it.

* `ValidCondition`, `ValidAttribute`, `ValidGroup`, `ValidNode`, `ValidScript`, `ValidSolution` —
  the shape of the parts of a document;
* `WellShaped` — the shape of a whole document;
* `WellNamed` — ids are unique in their scope, every condition reads an attribute of its own
  solution that it may read, and if cycles are looked for there are none;
* `Conforms` — all of it.

`null` is a value like any other: a field that holds it is there, and of the wrong kind.
-/

import PageAttributes.Proofs.Grammar.Outline
import PageAttributes.Grammar.Structure
import PageAttributes.Proofs.Number.Agreement

namespace PageAttributes.Grammar

/-! ### Fields -/

/-- There are no keys but the known ones, if that is asked for. -/
def OnlyKeys (strict : Bool) (known : List String) (fields : Fields) : Prop :=
  strict = true → ∀ field ∈ fields, field.1 ∈ known

/-- There is nothing under a key. -/
def Lacks (fields : Fields) (key : String) : Prop := fields.lookup key = none

/-- There is a text under a key. -/
def HasText (fields : Fields) (key : String) : Prop :=
  ∃ value, fields.lookup key = some (.text value)

/-- There is a list under a key, and every item of it is as it should be. -/
def HasList (fields : Fields) (key : String) (fits : Document → Prop) : Prop :=
  ∃ items, fields.lookup key = some (.list items) ∧ ∀ item ∈ items, fits item

/-- The same for a list that must not be empty. -/
def HasItems (fields : Fields) (key : String) (fits : Document → Prop) : Prop :=
  ∃ items, fields.lookup key = some (.list items) ∧ items ≠ [] ∧ ∀ item ∈ items, fits item

/-- What is under a key, if there is anything, is as it should be. -/
def MayHave (fields : Fields) (key : String) (fits : Document → Prop) : Prop :=
  ∀ found, fields.lookup key = some found → fits found

theorem mayHave_of_lookup_eq_none {fields : Fields} {key : String} {fits : Document → Prop}
    (nothing : fields.lookup key = none) : MayHave fields key fits := by
  intro found there
  rw [nothing] at there
  cases there

/-- A document is a text. -/
def IsText (document : Document) : Prop := ∃ value, document = .text value

/-- A document is a flag. -/
def IsFlag (document : Document) : Prop := ∃ value, document = .flag value

/-- A document is a number. -/
def IsNumber (document : Document) : Prop := ∃ value, document = .number value

/-- A document is a number without a fractional part. -/
def IsWhole (document : Document) : Prop := ∃ value, document = .number value ∧ value.isWhole = true

/-- That is a number whose exact value is an integer. -/
theorem isWhole_iff {document : Document} :
    IsWhole document
      ↔ ∃ value, document = .number value ∧ ∃ integer : Int, value.value = integer := by
  simp only [IsWhole, Numeral.isWhole_iff]

/-- A document is a list, and every item of it is as it should be. -/
def IsListOf (fits : Document → Prop) (document : Document) : Prop :=
  ∃ items, document = .list items ∧ ∀ item ∈ items, fits item

/-- A document is a record, and its fields are as they should be. -/
def IsRecord (fits : Fields → Prop) (document : Document) : Prop :=
  ∃ fields, document = .record fields ∧ fits fields

/-- The texts that some records have under a key. -/
def textsUnder (key : String) (documents : List Document) : List String :=
  documents.filterMap fun document =>
    match document with
    | .record fields => textOf? fields key
    | _ => none

/-! ### Conditions -/

/-- A condition of at most so many levels. -/
inductive ValidCondition (strict : Bool) : Nat → Document → Prop
  | leaf (levels : Nat) (fields : Fields)
      (type : fields.lookup "type" = some (.text "condition"))
      (keys : OnlyKeys strict leafKeys fields)
      (attributeId : HasText fields "attributeId")
      (expected : ∃ found, fields.lookup "attributeValue" = some found ∧
        (IsText found ∨ IsNumber found)) :
    ValidCondition strict (levels + 1) (.record fields)
  | group (levels : Nat) (fields : Fields) (members : List Document)
      (type : fields.lookup "type" = some (.text "group"))
      (keys : OnlyKeys strict conditionGroupKeys fields)
      (operator : ∃ operator : Operator, fields.lookup "operator" = some (.text operator.name))
      (listed : fields.lookup "conditions" = some (.list members))
      (nonempty : members ≠ [])
      (each : ∀ member ∈ members, ValidCondition strict levels member) :
    ValidCondition strict (levels + 1) (.record fields)

/-- The restrictions of an attribute or a group: kinds of nodes, and conditions of at most
`Condition.depthLimit` levels. -/
structure ValidRestrictions (strict : Bool) (fields : Fields) : Prop where
  nodeTypes : MayHave fields "nodeTypes"
    (IsListOf fun item => ∃ kind : NodeType, item = .text kind.name)
  conditions : MayHave fields "conditions"
    (IsListOf (ValidCondition strict Condition.depthLimit))

/-! ### Inputs -/

/-- A choice of a dropdown. -/
structure ValidChoice (strict : Bool) (fields : Fields) : Prop where
  keys : OnlyKeys strict choiceKeys fields
  name : HasText fields "name"
  description : HasText fields "description"
  value : HasText fields "attributeValue"

/-- The choices of a dropdown: some, and none with the value of another. -/
structure ValidChoices (strict : Bool) (fields : Fields) : Prop where
  items : HasItems fields "options" (IsRecord (ValidChoice strict))
  unique : (textsUnder "attributeValue" (listOf fields "options")).Nodup

/-- The fields that belong to a kind of input, and no others. -/
def ValidInput (strict : Bool) (fields : Fields) : InputKind → Prop
  | .checkbox => Lacks fields "attributeValue" ∧ Lacks fields "options"
  | .dropdown => MayHave fields "attributeValue" IsText ∧ ValidChoices strict fields
  | .textInput => MayHave fields "attributeValue" IsText ∧ Lacks fields "options"
  | .integerInput => MayHave fields "attributeValue" IsWhole ∧ Lacks fields "options"
  | .floatInput => MayHave fields "attributeValue" IsNumber ∧ Lacks fields "options"

/-! ### Attributes and groups -/

/-- An attribute. -/
structure ValidAttribute (strict : Bool) (fields : Fields) : Prop where
  keys : OnlyKeys strict attributeKeys fields
  id : HasText fields "id"
  name : HasText fields "name"
  description : HasText fields "description"
  attributeName : HasText fields "attributeName"
  required : MayHave fields "required" IsFlag
  restrictions : ValidRestrictions strict fields
  input : ∃ kind : InputKind, fields.lookup "optionsType" = some (.text kind.name) ∧
    ValidInput strict fields kind

/-- A member of a group is an attribute, and no group. -/
structure ValidMember (strict : Bool) (fields : Fields) : Prop where
  type : fields.lookup "type" = some (.text "attribute")
  declared : ValidAttribute strict fields

/-- A group of attributes. -/
structure ValidGroup (strict : Bool) (fields : Fields) : Prop where
  keys : OnlyKeys strict groupKeys fields
  name : HasText fields "name"
  members : HasItems fields "attributes" (IsRecord (ValidMember strict))
  restrictions : ValidRestrictions strict fields

/-- An entry of the attribute list of a solution. -/
inductive ValidNode (strict : Bool) (fields : Fields) : Prop
  | single (type : fields.lookup "type" = some (.text "attribute"))
      (declared : ValidAttribute strict fields)
  | group (type : fields.lookup "type" = some (.text "group"))
      (gathered : ValidGroup strict fields)

/-! ### Scripts and solutions -/

/-- A script. -/
structure ValidScript (strict : Bool) (fields : Fields) : Prop where
  keys : OnlyKeys strict scriptKeys fields
  id : HasText fields "id"
  source : ∃ source, fields.lookup "src" = some (.text source) ∧ Url.problem? source = none
  deferred : MayHave fields "defer" IsFlag
  asynchronous : MayHave fields "async" IsFlag
  location : ∃ location : ScriptLocation, fields.lookup "location" = some (.text location.name)

/-- A solution. -/
structure ValidSolution (strict : Bool) (fields : Fields) : Prop where
  keys : OnlyKeys strict solutionKeys fields
  id : HasText fields "id"
  name : HasText fields "name"
  scripts : HasList fields "scripts" (IsRecord (ValidScript strict))
  attributes : HasList fields "attributes" (IsRecord (ValidNode strict))

/-- A schema. -/
structure ValidSchema (strict : Bool) (fields : Fields) : Prop where
  keys : OnlyKeys strict schemaKeys fields
  id : HasText fields "id"
  name : HasText fields "name"
  solutions : HasList fields "solutions" (IsRecord (ValidSolution strict))

/-! ### Documents -/

/-- The shape of a document. -/
def WellShaped (strict : Bool) (document : Document) : Prop :=
  IsRecord (ValidSchema strict) document

/-- The names in a solution. -/
structure ValidNames (detectCycles : Bool) (fields : Fields) : Prop where
  scripts : (textsUnder "id" (listOf fields "scripts")).Nodup
  sound : (Outline.ofFields fields).Sound
  acyclic : detectCycles = true → (Outline.ofFields fields).Acyclic

/-- The names in a document. -/
def WellNamed (detectCycles : Bool) (document : Document) : Prop :=
  IsRecord (fun fields => (textsUnder "id" (listOf fields "solutions")).Nodup ∧
    ∀ solution ∈ listOf fields "solutions", IsRecord (ValidNames detectCycles) solution) document

/-- A document keeps all rules of the grammar. -/
structure Conforms (strict detectCycles : Bool) (document : Document) : Prop where
  shape : WellShaped strict document
  names : WellNamed detectCycles document

end PageAttributes.Grammar
