/-
**What a document spells.**

A document spells a typed value if the keys of the grammar lead to the parts of the value, and to
nothing where a part is left out. Other keys may be there, and the fields may stand in any order.

* `Condition.Spells`, `Script.Spells`, `Attribute.Spells`, `AttributeNode.Spells`,
  `Solution.Spells`, `Schema.Spells` — the relation, one definition for every type;
* `Schema.exists_spells` — a well-shaped document spells a schema, and so for the other types.
-/

import PageAttributes.Proofs.Document.Unique
import PageAttributes.Proofs.Grammar.Rules
import PageAttributes.Proofs.Grammar.Typed
import PageAttributes.Wire.Schema

namespace PageAttributes

open Grammar

/-! ### Lists and records -/

namespace Wire

variable {α : Type}

/-- A record spells a value by its fields. -/
def SpellsRecord (spells : Fields → α → Prop) (document : Document) (value : α) : Prop :=
  ∃ fields, document = .record fields ∧ spells fields value

/-- The list under a key spells some values, item by item. -/
def SpellsList (spells : Document → α → Prop) (fields : Fields) (key : String)
    (values : List α) : Prop :=
  ∃ items, fields.lookup key = some (.list items) ∧ List.Forall₂ spells items values

/-- The list under a key spells some values, and there is nothing under it for no list at all. -/
def SpellsOption (spells : Document → α → Prop) (fields : Fields) (key : String) :
    Option (List α) → Prop
  | some values => SpellsList spells fields key values
  | none => Lacks fields key

end Wire

open Wire

/-! ### Conditions -/

namespace Condition

mutual

/-- A document spells a condition. -/
def Spells : Document → Condition → Prop
  | .record fields, .leaf attributeId expected =>
    fields.lookup "type" = some (.text "condition")
      ∧ fields.lookup "attributeId" = some (.text attributeId)
      ∧ fields.lookup "attributeValue" = some expected.toDocument
  | .record fields, .group operator members =>
    fields.lookup "type" = some (.text "group")
      ∧ fields.lookup "operator" = some (.text operator.name)
      ∧ ∃ items, fields.lookup "conditions" = some (.list items) ∧ SpellEach items members
  | _, _ => False

/-- Some documents spell some conditions, one by one. -/
def SpellEach : List Document → List Condition → Prop
  | [], [] => True
  | item :: items, member :: members => Spells item member ∧ SpellEach items members
  | _, _ => False

end

theorem spellEach_iff {items : List Document} {members : List Condition} :
    SpellEach items members ↔ List.Forall₂ Spells items members := by
  induction items generalizing members with
  | nil => cases members <;> simp [SpellEach]
  | cons item rest ih => cases members <;> simp [SpellEach, ih]

end Condition

/-! ### Scripts and choices -/

/-- A record spells a script. -/
structure Script.Spells (fields : Fields) (script : Script) : Prop where
  id : fields.lookup "id" = some (.text script.id)
  source : fields.lookup "src" = some (.text script.source)
  deferred : fields.lookup "defer" = script.deferred.map .flag
  asynchronous : fields.lookup "async" = script.asynchronous.map .flag
  location : fields.lookup "location" = some (.text script.location.name)

/-- A record spells a choice. -/
structure Choice.Spells (fields : Fields) (choice : Choice) : Prop where
  name : fields.lookup "name" = some (.text choice.name)
  description : fields.lookup "description" = some (.text choice.description)
  value : fields.lookup "attributeValue" = some (.text choice.value)

/-! ### Attributes and groups -/

namespace Input

/-- The fields of an input other than its kind. -/
def SpellsOwn (fields : Fields) : Input → Prop
  | .checkbox => Lacks fields "attributeValue" ∧ Lacks fields "options"
  | .dropdown initial choices =>
    fields.lookup "attributeValue" = initial.map .text
      ∧ SpellsList (SpellsRecord Choice.Spells) fields "options" choices
  | .textInput initial =>
    fields.lookup "attributeValue" = initial.map .text ∧ Lacks fields "options"
  | .integerInput initial =>
    fields.lookup "attributeValue" = initial.map .number ∧ Lacks fields "options"
  | .floatInput initial =>
    fields.lookup "attributeValue" = initial.map .number ∧ Lacks fields "options"

/-- A record spells an input among its fields. -/
structure Spells (fields : Fields) (input : Input) : Prop where
  kind : fields.lookup "optionsType" = some (.text input.kind.name)
  own : SpellsOwn fields input

end Input

/-- The document of some kinds of nodes. -/
def NodeType.listed (kinds : List NodeType) : Document := .list (kinds.map fun kind => .text kind.name)

/-- A record spells restrictions among its fields. -/
structure Wire.SpellsRestrictions (fields : Fields) (nodeTypes : Option (List NodeType))
    (conditions : Option (List Condition)) : Prop where
  nodeTypes : fields.lookup "nodeTypes" = nodeTypes.map NodeType.listed
  conditions : SpellsOption Condition.Spells fields "conditions" conditions

/-- A record spells an attribute. -/
structure Attribute.Spells (fields : Fields) (declared : Attribute) : Prop where
  id : fields.lookup "id" = some (.text declared.id)
  name : fields.lookup "name" = some (.text declared.name)
  description : fields.lookup "description" = some (.text declared.description)
  attributeName : fields.lookup "attributeName" = some (.text declared.attributeName)
  required : fields.lookup "required" = declared.required.map .flag
  restrictions : SpellsRestrictions fields declared.nodeTypes declared.conditions
  input : declared.input.Spells fields

/-- A record spells an attribute with its type. -/
structure Attribute.SpellsEntry (fields : Fields) (declared : Attribute) : Prop where
  type : fields.lookup "type" = some (.text "attribute")
  declared : declared.Spells fields

/-- A record spells a group. -/
structure AttributeGroup.Spells (fields : Fields) (group : AttributeGroup) : Prop where
  name : fields.lookup "name" = some (.text group.name)
  attributes : SpellsList (SpellsRecord Attribute.SpellsEntry) fields "attributes" group.attributes
  restrictions : SpellsRestrictions fields group.nodeTypes group.conditions

/-- A record spells an entry of an attribute list. -/
def AttributeNode.Spells (fields : Fields) : AttributeNode → Prop
  | .single declared => declared.SpellsEntry fields
  | .group gathered =>
    fields.lookup "type" = some (.text "group") ∧ gathered.Spells fields

/-! ### Solutions and schemas -/

/-- A record spells a solution. -/
structure Solution.Spells (fields : Fields) (solution : Solution) : Prop where
  id : fields.lookup "id" = some (.text solution.id)
  name : fields.lookup "name" = some (.text solution.name)
  scripts : SpellsList (SpellsRecord Script.Spells) fields "scripts" solution.scripts
  attributes :
    SpellsList (SpellsRecord AttributeNode.Spells) fields "attributes" solution.attributes

/-- A record spells a schema. -/
structure Schema.Spells (fields : Fields) (schema : Schema) : Prop where
  id : fields.lookup "id" = some (.text schema.id)
  name : fields.lookup "name" = some (.text schema.name)
  solutions : SpellsList (SpellsRecord Solution.Spells) fields "solutions" schema.solutions

/-! ### Well-shaped documents -/

variable {strict : Bool} {fields : Fields} {key : String}

namespace Wire

variable {α : Type} {spells : Document → α → Prop}

/-- If every item spells a value, the items spell values. -/
theorem exists_forall₂ {items : List Document}
    (each : ∀ item ∈ items, ∃ value, spells item value) :
    ∃ values, List.Forall₂ spells items values := by
  induction items with
  | nil => exact ⟨[], .nil⟩
  | cons item rest ih =>
    obtain ⟨value, spelled⟩ := each item (.head _)
    obtain ⟨values, others⟩ := ih fun other member => each other (.tail _ member)
    exact ⟨value :: values, .cons spelled others⟩

theorem exists_spellsList {fits : Document → Prop} (listed : HasList fields key fits)
    (each : ∀ item, fits item → ∃ value, spells item value) :
    ∃ values, SpellsList spells fields key values := by
  obtain ⟨items, there, fit⟩ := listed
  obtain ⟨values, spelled⟩ := exists_forall₂ fun item member => each item (fit item member)
  exact ⟨values, items, there, spelled⟩

theorem exists_spellsRecord {valid : Fields → Prop} {spells : Fields → α → Prop}
    (each : ∀ fields, valid fields → ∃ value, spells fields value) (document : Document)
    (fits : IsRecord valid document) : ∃ value, SpellsRecord spells document value := by
  obtain ⟨fields, rfl, valid⟩ := fits
  obtain ⟨value, spelled⟩ := each fields valid
  exact ⟨value, fields, rfl, spelled⟩

/-- A field that may be left out holds the written form of a value if it is there. -/
theorem exists_optional {fits : Document → Prop} {write : α → Document}
    (may : MayHave fields key fits) (written : ∀ found, fits found → ∃ value, found = write value) :
    ∃ value : Option α, fields.lookup key = value.map write := by
  cases there : fields.lookup key with
  | none => exact ⟨none, rfl⟩
  | some found =>
    obtain ⟨value, rfl⟩ := written found (may found there)
    exact ⟨some value, rfl⟩

end Wire

/-- A condition of the right shape is spelled. -/
theorem Condition.exists_spells (levels : Nat) : ∀ document, ValidCondition strict levels document →
    ∃ condition, Condition.Spells document condition := by
  induction levels with
  | zero => exact fun _ valid => nomatch valid
  | succ levels ih =>
    intro document valid
    cases valid with
    | leaf _ fields type _ attributeId expected =>
      obtain ⟨id, named⟩ := attributeId
      obtain ⟨found, there, kind⟩ := expected
      have written : ∃ value : ConditionValue, found = value.toDocument := by
        obtain ⟨value, rfl⟩ | ⟨value, rfl⟩ := kind
        · exact ⟨.text value, rfl⟩
        · exact ⟨.number value, rfl⟩
      obtain ⟨value, rfl⟩ := written
      refine ⟨.leaf id value, ?_⟩
      rw [Condition.Spells]
      exact ⟨type, named, there⟩
    | group _ fields items type _ operator listed _ each =>
      obtain ⟨operator, named⟩ := operator
      obtain ⟨members, spelled⟩ := exists_forall₂ fun item member => ih item (each item member)
      refine ⟨.group operator members, ?_⟩
      rw [Condition.Spells]
      exact ⟨type, named, items, listed, spellEach_iff.mpr spelled⟩

theorem Script.exists_spells (fields : Fields) (valid : ValidScript strict fields) :
    ∃ script, Script.Spells fields script := by
  obtain ⟨id, named⟩ := valid.id
  obtain ⟨source, sourced, _⟩ := valid.source
  obtain ⟨deferred, sets⟩ := exists_optional valid.deferred fun _ fits => fits
  obtain ⟨asynchronous, asks⟩ := exists_optional valid.asynchronous fun _ fits => fits
  obtain ⟨location, located⟩ := valid.location
  exact ⟨⟨id, source, deferred, asynchronous, location⟩, named, sourced, sets, asks, located⟩

theorem Choice.exists_spells (fields : Fields) (valid : ValidChoice strict fields) :
    ∃ choice, Choice.Spells fields choice := by
  obtain ⟨name, named⟩ := valid.name
  obtain ⟨description, described⟩ := valid.description
  obtain ⟨value, valued⟩ := valid.value
  exact ⟨⟨name, description, value⟩, named, described, valued⟩

theorem Input.exists_spells {kind : InputKind}
    (type : fields.lookup "optionsType" = some (.text kind.name))
    (valid : ValidInput strict fields kind) : ∃ input, Input.Spells fields input := by
  cases kind with
  | checkbox => exact ⟨.checkbox, type, valid⟩
  | dropdown =>
    obtain ⟨may, ⟨items, listed, _, each⟩, _⟩ := valid
    obtain ⟨initial, starts⟩ := exists_optional may fun _ fits => fits
    obtain ⟨choices, spelled⟩ :=
      exists_spellsList ⟨items, listed, each⟩ (exists_spellsRecord Choice.exists_spells)
    exact ⟨.dropdown initial choices, type, starts, spelled⟩
  | textInput =>
    obtain ⟨initial, starts⟩ := exists_optional valid.1 fun _ fits => fits
    exact ⟨.textInput initial, type, starts, valid.2⟩
  | integerInput =>
    obtain ⟨initial, starts⟩ := exists_optional valid.1 fun _ ⟨value, written, _⟩ => ⟨value, written⟩
    exact ⟨.integerInput initial, type, starts, valid.2⟩
  | floatInput =>
    obtain ⟨initial, starts⟩ := exists_optional valid.1 fun _ fits => fits
    exact ⟨.floatInput initial, type, starts, valid.2⟩

theorem Wire.exists_spellsRestrictions (valid : ValidRestrictions strict fields) :
    ∃ nodeTypes conditions, SpellsRestrictions fields nodeTypes conditions := by
  have kinds : ∀ found, IsListOf (fun item => ∃ kind : NodeType, item = .text kind.name) found →
      ∃ kinds, found = NodeType.listed kinds := by
    rintro _ ⟨items, rfl, each⟩
    obtain ⟨kinds, named⟩ := exists_forall₂ each
    refine ⟨kinds, congrArg Document.list ?_⟩
    exact List.forall₂_eq_eq_eq ▸ (List.forall₂_map_right_iff.mpr named)
  obtain ⟨nodeTypes, listed⟩ := exists_optional valid.nodeTypes kinds
  cases there : fields.lookup "conditions" with
  | none => exact ⟨nodeTypes, none, listed, there⟩
  | some found =>
    obtain ⟨items, rfl, each⟩ := valid.conditions found there
    obtain ⟨conditions, spelled⟩ :=
      exists_spellsList ⟨items, there, each⟩ (Condition.exists_spells _)
    exact ⟨nodeTypes, some conditions, listed, spelled⟩

theorem Attribute.exists_spells (valid : ValidAttribute strict fields) :
    ∃ declared, Attribute.Spells fields declared := by
  obtain ⟨id, named⟩ := valid.id
  obtain ⟨name, titled⟩ := valid.name
  obtain ⟨description, described⟩ := valid.description
  obtain ⟨attributeName, written⟩ := valid.attributeName
  obtain ⟨required, demanded⟩ := exists_optional valid.required fun _ fits => fits
  obtain ⟨nodeTypes, conditions, restricted⟩ := exists_spellsRestrictions valid.restrictions
  obtain ⟨kind, type, fits⟩ := valid.input
  obtain ⟨input, entered⟩ := Input.exists_spells type fits
  exact ⟨⟨id, name, description, attributeName, required, nodeTypes, conditions, input⟩, named,
    titled, described, written, demanded, restricted, entered⟩

theorem Attribute.exists_spellsEntry (fields : Fields) (valid : ValidMember strict fields) :
    ∃ declared, Attribute.SpellsEntry fields declared := by
  obtain ⟨declared, spelled⟩ := Attribute.exists_spells valid.declared
  exact ⟨declared, valid.type, spelled⟩

theorem AttributeGroup.exists_spells (valid : ValidGroup strict fields) :
    ∃ group, AttributeGroup.Spells fields group := by
  obtain ⟨name, named⟩ := valid.name
  obtain ⟨items, listed, _, each⟩ := valid.members
  obtain ⟨attributes, spelled⟩ :=
    exists_spellsList ⟨items, listed, each⟩ (exists_spellsRecord Attribute.exists_spellsEntry)
  obtain ⟨nodeTypes, conditions, restricted⟩ := exists_spellsRestrictions valid.restrictions
  exact ⟨⟨name, attributes, nodeTypes, conditions⟩, named, spelled, restricted⟩

theorem AttributeNode.exists_spells (fields : Fields) (valid : ValidNode strict fields) :
    ∃ node, AttributeNode.Spells fields node := by
  cases valid with
  | single type declared =>
    obtain ⟨declared, spelled⟩ := Attribute.exists_spells declared
    exact ⟨.single declared, type, spelled⟩
  | group type gathered =>
    obtain ⟨gathered, spelled⟩ := AttributeGroup.exists_spells gathered
    exact ⟨.group gathered, type, spelled⟩

theorem Solution.exists_spells (fields : Fields) (valid : ValidSolution strict fields) :
    ∃ solution, Solution.Spells fields solution := by
  obtain ⟨id, named⟩ := valid.id
  obtain ⟨name, titled⟩ := valid.name
  obtain ⟨scripts, loaded⟩ :=
    exists_spellsList valid.scripts (exists_spellsRecord Script.exists_spells)
  obtain ⟨attributes, offered⟩ :=
    exists_spellsList valid.attributes (exists_spellsRecord AttributeNode.exists_spells)
  exact ⟨⟨id, name, scripts, attributes⟩, named, titled, loaded, offered⟩

/-- **A well-shaped document spells a schema.** -/
theorem Schema.exists_spells (valid : ValidSchema strict fields) :
    ∃ schema, Schema.Spells fields schema := by
  obtain ⟨id, named⟩ := valid.id
  obtain ⟨name, titled⟩ := valid.name
  obtain ⟨solutions, listed⟩ :=
    exists_spellsList valid.solutions (exists_spellsRecord Solution.exists_spells)
  exact ⟨⟨id, name, solutions⟩, named, titled, listed⟩

end PageAttributes
