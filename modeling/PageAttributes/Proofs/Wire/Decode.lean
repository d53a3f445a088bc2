/-
**What a document spells is what is read from it.**

* `Condition.ofDocument_of_spells`, `Script.ofDocument_of_spells`, `Attribute.ofDocument_of_spells`,
  `AttributeNode.ofDocument_of_spells`, `Solution.ofDocument_of_spells`,
  `Schema.ofDocument_of_spells` — a document without repeated keys is read as the value it spells;
* `Schema.exists_ofDocument` — a canonical document of the right shape can be read, and what is read
  keeps the outlines of its solutions.

Keys that are not known are passed over, whatever is under them.
-/

import PageAttributes.Proofs.Grammar.Shape
import PageAttributes.Proofs.Wire.Outline
import PageAttributes.Proofs.Wire.Parts

namespace PageAttributes

open Wire Grammar

variable {strict : Bool} {fields : Fields}

/-! ### Conditions -/

namespace Condition

theorem membersSlot_eq (position : Nat) (fields : Fields) :
    membersSlot position fields = fieldSlot "conditions" membersOfDocument position fields := by
  induction fields generalizing position with
  | nil => rw [membersSlot, fieldSlot]
  | cons field rest ih =>
    obtain ⟨key, value⟩ := field
    rw [membersSlot, fieldSlot, ih]
    split
    · rename_i same
      rw [same]
    · rfl

/-- The form of a record is the one that its type names. -/
theorem ofTagged_of_lookup (unique : (fields.map Prod.fst).Nodup) {name : String} {form : Form}
    (type : fields.lookup "type" = some (.text name))
    (known : Form.variants.lookup name = some form) (medium : Medium)
    (members : Slot (List Condition)) :
    ofTagged medium (.record fields) members
      = afterwards (ofParts form (.fields fields) members) := by
  rw [ofTagged, readTagged_of_lookup unique type form known, ok_bind]

theorem ofDocument_toDocument_value (expected : ConditionValue) :
    ConditionValue.ofDocument expected.toDocument = .ok expected := by
  cases expected <;> rfl

/-- A leaf is read from its two fields. -/
theorem leafOfParts_of_lookup (unique : (fields.map Prod.fst).Nodup) {id : String}
    {expected : ConditionValue} (named : fields.lookup "attributeId" = some (.text id))
    (valued : fields.lookup "attributeValue" = some expected.toDocument) :
    leafOfParts (.fields fields) = .ok (.leaf id expected) := by
  rw [leafOfParts, Parts.slot, Parts.slot, fieldSlot_text unique named,
    fieldSlot_of_lookup unique valued (ofDocument_toDocument_value expected)]
  rfl

/-- A group is read from its operator once its members have been read. -/
theorem groupOfParts_of_lookup (unique : (fields.map Prod.fst).Nodup) {operator : Operator}
    (named : fields.lookup "operator" = some (.text operator.name)) (members : List Condition) :
    groupOfParts (.fields fields) ⟨some members, none⟩ = .ok (.group operator members) := by
  have readable : Operator.ofDocument .held (.text operator.name) = .ok operator :=
    readUnitVariant_name (by decide) (by cases operator <;> decide) .held
  rw [groupOfParts, Parts.slot, fieldSlot_of_lookup unique named readable]
  rfl

mutual

/-- A condition is read from every document that spells it. -/
theorem ofDocument_of_spells : ∀ (condition : Condition) (document : Document),
    document.HasUniqueKeys → Spells document condition → ∀ medium,
      ofDocument medium document = .ok condition
  | .leaf id expected, .record fields, unique, spelled, medium => by
    rw [Spells] at spelled
    obtain ⟨type, named, valued⟩ := spelled
    rw [ofDocument, ofTagged_of_lookup unique.1 type rfl, ofParts,
      leafOfParts_of_lookup unique.1 named valued]
    rfl
  | .group operator members, .record fields, unique, spelled, medium => by
    rw [Spells] at spelled
    obtain ⟨type, named, items, listed, each⟩ := spelled
    have readable : membersOfDocument (.list items) = .ok members := by
      rw [membersOfDocument]
      exact ofDocuments_of_spellEach members items (unique.ofLookup listed) each 0
    have slot : membersSlot 0 fields = ⟨some members, none⟩ := by
      rw [membersSlot_eq]
      exact fieldSlot_of_lookup unique.1 listed readable 0
    rw [ofDocument, ofTagged_of_lookup unique.1 type rfl, slot, ofParts,
      groupOfParts_of_lookup unique.1 named]
    rfl

/-- Conditions are read from documents that spell them one by one. -/
theorem ofDocuments_of_spellEach : ∀ (members : List Condition) (items : List Document),
    (Document.list items).HasUniqueKeys → SpellEach items members → ∀ position,
      ofDocuments position items = .ok members
  | [], [], _, _, _ => by rw [ofDocuments]
  | member :: members, item :: items, unique, spelled, position => by
    rw [SpellEach] at spelled
    rw [ofDocuments, ofDocument_of_spells member item unique.1 spelled.1,
      ofDocuments_of_spellEach members items unique.2 spelled.2]
    rfl

end

end Condition

/-! ### Scripts and choices -/

/-- A script is read from every record that spells it. -/
theorem Script.ofDocument_of_spells (medium : Medium) {script : Script}
    (unique : (Document.record fields).HasUniqueKeys) (spelled : script.Spells fields) :
    Script.ofDocument medium (.record fields) = .ok script := by
  have located : readUnitVariant medium ScriptLocation.variants (.text script.location.name)
      = .ok script.location :=
    readUnitVariant_name (by decide) (by cases script.location <;> decide) medium
  rw [Script.ofDocument, Parts.ofDocument, ok_bind]
  simp only [Parts.slot, fieldSlot_text unique.1 spelled.id, fieldSlot_text unique.1 spelled.source,
    fieldSlot_optional unique.1 spelled.deferred readOptional_flag,
    fieldSlot_optional unique.1 spelled.asynchronous readOptional_flag,
    fieldSlot_of_lookup unique.1 spelled.location located, optional_map_some]
  rfl

/-- A choice is read from every record that spells it. -/
theorem Choice.ofDocument_of_spells {choice : Choice}
    (unique : (Document.record fields).HasUniqueKeys) (spelled : choice.Spells fields) :
    Choice.ofDocument (.record fields) = .ok choice := by
  rw [Choice.ofDocument, Parts.ofDocument, ok_bind]
  simp only [Parts.slot, fieldSlot_text unique.1 spelled.name,
    fieldSlot_text unique.1 spelled.description, fieldSlot_text unique.1 spelled.value]
  rfl

/-- What is read from records that spell a value is read from them as items of a list. -/
theorem Wire.read_of_spellsRecord {α : Type} {read : Document → Result α}
    {spells : Fields → α → Prop}
    (readable : ∀ {fields value}, (Document.record fields).HasUniqueKeys → spells fields value →
      read (.record fields) = .ok value)
    (item : Document) (value : α) (unique : item.HasUniqueKeys)
    (spelled : SpellsRecord spells item value) : read item = .ok value := by
  obtain ⟨fields, rfl, spelled⟩ := spelled
  exact readable unique spelled

/-! ### Inputs -/

namespace Input

theorem variants_lookup (kind : InputKind) : variants.lookup kind.name = some kind := by
  cases kind <;> rfl

/-- What an input starts with is read from the field that holds it. -/
theorem initialOf_of_lookup {α : Type} {read : Document → Result α} {write : α → Document}
    {initial : Option α} (unique : (fields.map Prod.fst).Nodup)
    (starts : fields.lookup "attributeValue" = initial.map write)
    (readable : ∀ value, readOptional read (write value) = .ok (some value)) :
    initialOf read fields = .ok initial := by
  rw [initialOf, fieldSlot_optional unique starts readable, optional_map_some]
  rfl

/-- An input is read from the record that spells it among its fields. -/
theorem ofFields_of_spells {input : Input} (unique : (Document.record fields).HasUniqueKeys)
    (spelled : input.Spells fields) : Input.ofFields fields = .ok input := by
  obtain ⟨type, own⟩ := spelled
  rw [Input.ofFields, readTagged_of_lookup unique.1 type input.kind (variants_lookup _), ok_bind]
  cases input with
  | checkbox => rfl
  | dropdown initial choices =>
    obtain ⟨starts, listed⟩ := own
    simp only [Input.kind, fieldSlot_optional unique.1 starts readOptional_text,
      fieldSlot_list unique listed (read_of_spellsRecord Choice.ofDocument_of_spells),
      optional_map_some]
    rfl
  | textInput initial =>
    simp only [Input.kind, initialOf_of_lookup unique.1 own.1 readOptional_text]
    rfl
  | integerInput initial =>
    simp only [Input.kind, initialOf_of_lookup unique.1 own.1 readOptional_number]
    rfl
  | floatInput initial =>
    simp only [Input.kind, initialOf_of_lookup unique.1 own.1 readOptional_number]
    rfl

end Input

/-! ### Attributes and groups -/

theorem NodeType.ofDocument_name (kind : NodeType) :
    NodeType.ofDocument (.text kind.name) = .ok kind :=
  readUnitVariant_name (by decide) (by cases kind <;> decide) .held

/-- The kinds of nodes of a restriction are read by their names. -/
theorem NodeType.readOptional_listed (kinds : List NodeType) :
    readOptional (readList NodeType.ofDocument) (NodeType.listed kinds) = .ok (some kinds) := by
  have named : List.Forall₂ (fun item kind => item = Document.text kind.name)
      (kinds.map fun kind => .text kind.name) kinds := by
    rw [List.forall₂_map_left_iff]
    exact List.forall₂_same.mpr fun _ _ => rfl
  refine readOptional_readList ?_
  exact readItems_of_forall₂ named (fun _ _ kind same => same ▸ NodeType.ofDocument_name kind) 0

/-- The conditions of a restriction are read one by one. -/
theorem Wire.conditionsSlot (unique : (Document.record fields).HasUniqueKeys)
    {nodeTypes : Option (List NodeType)} {conditions : Option (List Condition)}
    (spelled : SpellsRestrictions fields nodeTypes conditions) :
    fieldSlot "conditions" (readOptional (readList (Condition.ofDocument .held))) 0 fields
      = ⟨conditions.map some, none⟩ :=
  fieldSlot_optionalList unique spelled.conditions
    (fun item condition unique spelled =>
      Condition.ofDocument_of_spells condition item unique spelled .held) 0

/-- An attribute is read from every record that spells it. -/
theorem Attribute.ofDocument_of_spells {declared : Attribute}
    (unique : (Document.record fields).HasUniqueKeys) (spelled : declared.Spells fields) :
    Attribute.ofDocument (.record fields) = .ok declared := by
  rw [Attribute.ofDocument]
  simp only [fieldSlot_text unique.1 spelled.id, fieldSlot_text unique.1 spelled.name,
    fieldSlot_text unique.1 spelled.description, fieldSlot_text unique.1 spelled.attributeName,
    fieldSlot_optional unique.1 spelled.required readOptional_flag,
    fieldSlot_optional unique.1 spelled.restrictions.nodeTypes NodeType.readOptional_listed,
    conditionsSlot unique spelled.restrictions, Input.ofFields_of_spells unique spelled.input,
    optional_map_some]
  rfl

/-- An attribute is read with its type. -/
theorem Attribute.ofEntry_of_spells {declared : Attribute}
    (unique : (Document.record fields).HasUniqueKeys) (spelled : declared.SpellsEntry fields) :
    Attribute.ofEntry (.record fields) = .ok declared := by
  rw [Attribute.ofEntry, readTagged_of_lookup unique.1 spelled.type () rfl, ok_bind]
  exact Attribute.ofDocument_of_spells unique spelled.declared

/-- A group is read from every record that spells it. -/
theorem AttributeGroup.ofDocument_of_spells {group : AttributeGroup}
    (unique : (Document.record fields).HasUniqueKeys) (spelled : group.Spells fields) :
    AttributeGroup.ofDocument (.record fields) = .ok group := by
  rw [AttributeGroup.ofDocument, Parts.ofDocument, ok_bind]
  simp only [Parts.slot, fieldSlot_text unique.1 spelled.name,
    fieldSlot_list unique spelled.attributes (read_of_spellsRecord Attribute.ofEntry_of_spells),
    fieldSlot_optional unique.1 spelled.restrictions.nodeTypes NodeType.readOptional_listed,
    conditionsSlot unique spelled.restrictions, optional_map_some]
  rfl

/-- An entry is read from every record that spells it. -/
theorem AttributeNode.ofDocument_of_spells (medium : Medium) {node : AttributeNode}
    (unique : (Document.record fields).HasUniqueKeys) (spelled : node.Spells fields) :
    AttributeNode.ofDocument medium (.record fields) = .ok node := by
  rw [AttributeNode.ofDocument]
  cases node with
  | single declared =>
    rw [readTagged_of_lookup unique.1 spelled.type Form.single rfl, ok_bind]
    simp only [Attribute.ofDocument_of_spells unique spelled.declared]
    rfl
  | group gathered =>
    rw [readTagged_of_lookup unique.1 spelled.1 Form.group rfl, ok_bind]
    simp only [AttributeGroup.ofDocument_of_spells unique spelled.2]
    rfl

/-! ### Solutions and schemas -/

/-- A solution is read from every record that spells it. -/
theorem Solution.ofDocument_of_spells (medium : Medium) {solution : Solution}
    (unique : (Document.record fields).HasUniqueKeys) (spelled : solution.Spells fields) :
    Solution.ofDocument medium (.record fields) = .ok solution := by
  rw [Solution.ofDocument, Parts.ofDocument, ok_bind]
  simp only [Parts.slot, fieldSlot_text unique.1 spelled.id, fieldSlot_text unique.1 spelled.name,
    fieldSlot_list unique spelled.scripts
      (read_of_spellsRecord (Script.ofDocument_of_spells medium)),
    fieldSlot_list unique spelled.attributes
      (read_of_spellsRecord (AttributeNode.ofDocument_of_spells medium))]
  rfl

/-- **A schema is read from every record that spells it.** -/
theorem Schema.ofDocument_of_spells (medium : Medium) {schema : Schema}
    (unique : (Document.record fields).HasUniqueKeys) (spelled : schema.Spells fields) :
    Schema.ofDocument medium (.record fields) = .ok schema := by
  rw [Schema.ofDocument, Parts.ofDocument, ok_bind]
  simp only [Parts.slot, fieldSlot_text unique.1 spelled.id, fieldSlot_text unique.1 spelled.name,
    fieldSlot_list unique spelled.solutions
      (read_of_spellsRecord (Solution.ofDocument_of_spells medium))]
  rfl

/-- **A canonical document of the right shape can be read.** -/
theorem Schema.exists_ofDocument (canonical : (Document.record fields).IsCanonical)
    (valid : ValidSchema strict fields) (medium : Medium) :
    ∃ schema, Schema.ofDocument medium (.record fields) = .ok schema ∧ schema.Keeps fields := by
  obtain ⟨schema, spelled⟩ := Schema.exists_spells valid
  exact ⟨schema, Schema.ofDocument_of_spells medium canonical.hasUniqueKeys spelled,
    Schema.keeps_of_spells valid spelled⟩

end PageAttributes
