/-
**What is written of a value spells it.**

* `Wire.Rearranges` — a way of rearranging documents that leaves everything under its key, such as
  leaving them as they are or putting their keys in order;
* `Script.keys_toFields`, `Attribute.keys_toFields`, `AttributeGroup.keys_toFields` — the keys of
  what is written are keys of the grammar, in the order of its tables;
* `Condition.spells_toDocument`, `Script.spells_toDocument`, `Attribute.spells_toEntry`,
  `AttributeNode.spells_toDocument`, `Solution.spells_toDocument`, `Schema.spells_toDocument` — what
  is written of a value and then rearranged spells the value.
-/

import PageAttributes.Proofs.Document.Canonical
import PageAttributes.Proofs.Wire.Spelling

namespace PageAttributes

open Grammar

/-! ### Rearranged documents -/

namespace Wire

/-- Documents are rearranged: lists keep their order, records what stands under their keys, and
everything else stays as it is. -/
structure Rearranges (change : Document → Document) : Prop where
  text : ∀ value, change (.text value) = .text value
  flag : ∀ value, change (.flag value) = .flag value
  number : ∀ value, change (.number value) = .number value
  list : ∀ items, change (.list items) = .list (items.map change)
  record : ∀ fields : Fields, (fields.map Prod.fst).Nodup →
    ∃ others, change (.record fields) = .record others
      ∧ ∀ key, others.lookup key = (fields.lookup key).map change

/-- Documents may be left as they are. -/
theorem Rearranges.same : Rearranges id where
  text _ := rfl
  flag _ := rfl
  number _ := rfl
  list items := congrArg Document.list (List.map_id items).symm
  record fields _ := ⟨fields, rfl, fun _ => Option.map_id_apply.symm⟩

/-- The keys of documents may be put in order. -/
theorem Rearranges.canonical : Rearranges Document.canonical where
  text _ := by rw [Document.canonical]
  flag _ := by rw [Document.canonical]
  number _ := by rw [Document.canonical]
  list items := by rw [Document.canonical, Document.canonicalItems_eq]
  record fields unique := by
    obtain ⟨others, same, _, found⟩ := Document.canonical_record unique
    exact ⟨others, same, found⟩

variable {α : Type} {change : Document → Document} {fields : Fields} {key : String}

@[simp] theorem lookup_optionalField (key other : String) (write : α → Document)
    (value : Option α) :
    (optionalField key write value).lookup other = if key = other then value.map write else none := by
  cases value with
  | none => simp [optionalField]
  | some value => rw [optionalField, lookup_field, Option.map_some, List.lookup_nil]

theorem keys_optionalField (key : String) (write : α → Document) (value : Option α) :
    ((optionalField key write value).map Prod.fst).Sublist [key] := by
  cases value with
  | none => exact List.nil_sublist _
  | some _ => exact List.Sublist.refl _

/-- The items of a list are spelled one by one. -/
theorem spellsList_of_lookup {spells : Document → α → Prop} {write : α → Document}
    {values : List α} (rearranges : Rearranges change)
    (listed : fields.lookup key = some (change (.list (values.map write))))
    (each : ∀ value, spells (change (write value)) value) : SpellsList spells fields key values := by
  refine ⟨(values.map write).map change, by rw [listed, rearranges.list], ?_⟩
  rw [List.map_map, List.forall₂_map_left_iff]
  exact List.forall₂_same.mpr fun value _ => each value

end Wire

open Wire

variable {change : Document → Document} {fields : Fields}

/-! ### Conditions -/

namespace Condition

theorem toDocuments_eq (conditions : List Condition) :
    toDocuments conditions = conditions.map toDocument := by
  induction conditions with
  | nil => rw [toDocuments, List.map_nil]
  | cons first rest ih => rw [toDocuments, List.map_cons, ih]

theorem change_expected (rearranges : Rearranges change) (expected : ConditionValue) :
    change expected.toDocument = expected.toDocument := by
  cases expected with
  | text value => exact rearranges.text value
  | number value => exact rearranges.number value

mutual

/-- What is written of a condition spells it. -/
theorem spells_toDocument (rearranges : Rearranges change) :
    ∀ condition : Condition, Spells (change condition.toDocument) condition
  | .leaf attributeId expected => by
    rw [toDocument]
    obtain ⟨fields, same, found⟩ := rearranges.record
      [("type", .text "condition"), ("attributeId", .text attributeId),
        ("attributeValue", expected.toDocument)] (by simp)
    rw [same, Spells]
    simp [found, lookup_field, rearranges.text, change_expected rearranges]
  | .group operator members => by
    rw [toDocument]
    obtain ⟨fields, same, found⟩ := rearranges.record
      [("type", .text "group"), ("operator", .text operator.name),
        ("conditions", .list (toDocuments members))] (by simp)
    rw [same, Spells]
    have each := spellEach_toDocuments rearranges members
    refine ⟨?_, ?_, (toDocuments members).map change, ?_, each⟩ <;>
      simp [found, lookup_field, rearranges.text, rearranges.list]

theorem spellEach_toDocuments (rearranges : Rearranges change) :
    ∀ members : List Condition, SpellEach ((toDocuments members).map change) members
  | [] => by
    rw [toDocuments, List.map_nil, SpellEach]
    trivial
  | member :: members => by
    rw [toDocuments, List.map_cons, SpellEach]
    exact ⟨spells_toDocument rearranges member, spellEach_toDocuments rearranges members⟩

end

end Condition

/-! ### Scripts and choices -/

/-- The fields of a script. -/
def Script.toFields (script : Script) : Fields :=
  [("id", .text script.id), ("src", .text script.source)]
    ++ optionalField "defer" .flag script.deferred
    ++ optionalField "async" .flag script.asynchronous
    ++ [("location", .text script.location.name)]

theorem Script.toDocument_eq (script : Script) : script.toDocument = .record script.toFields := rfl

theorem Script.keys_toFields (script : Script) :
    (script.toFields.map Prod.fst).Sublist scriptKeys := by
  simp only [toFields, List.map_append]
  have defer := keys_optionalField "defer" Document.flag script.deferred
  have async := keys_optionalField "async" Document.flag script.asynchronous
  exact (((List.Sublist.refl ["id", "src"]).append defer).append async).append
    (List.Sublist.refl ["location"])

/-- The fields of a choice. -/
def Choice.toFields (choice : Choice) : Fields :=
  [("name", .text choice.name), ("description", .text choice.description),
    ("attributeValue", .text choice.value)]

theorem Choice.toDocument_eq (choice : Choice) : choice.toDocument = .record choice.toFields := rfl

theorem Choice.keys_toFields (choice : Choice) : choice.toFields.map Prod.fst = choiceKeys := rfl

/-- What is written of a script spells it. -/
theorem Script.spells_toDocument (rearranges : Rearranges change) (script : Script) :
    SpellsRecord Script.Spells (change script.toDocument) script := by
  have unique : (script.toFields.map Prod.fst).Nodup := script.keys_toFields.nodup (by decide)
  obtain ⟨fields, same, found⟩ := rearranges.record _ unique
  refine ⟨fields, by rw [toDocument_eq, same], ?_, ?_, ?_, ?_, ?_⟩ <;> rw [found, toFields]
  · simp [rearranges.text]
  · simp [lookup_field, rearranges.text]
  · cases script.deferred <;> simp [lookup_field, List.lookup_append, rearranges.flag]
  · cases script.asynchronous <;> simp [lookup_field, List.lookup_append, rearranges.flag]
  · simp [lookup_field, List.lookup_append, rearranges.text]

/-- What is written of a choice spells it. -/
theorem Choice.spells_toDocument (rearranges : Rearranges change) (choice : Choice) :
    SpellsRecord Choice.Spells (change choice.toDocument) choice := by
  have unique : (choice.toFields.map Prod.fst).Nodup := by rw [keys_toFields]; decide
  obtain ⟨fields, same, found⟩ := rearranges.record _ unique
  refine ⟨fields, by rw [toDocument_eq, same], ?_, ?_, ?_⟩ <;> rw [found, toFields] <;>
    simp [lookup_field, rearranges.text]

/-! ### Attributes and groups -/

namespace Input

theorem keys_toFields (input : Input) :
    (input.toFields.map Prod.fst).Sublist ["optionsType", "attributeValue", "options"] := by
  unfold toFields
  rw [List.map_cons]
  refine List.Sublist.cons_cons _ ?_
  cases input with
  | checkbox => exact List.nil_sublist _
  | dropdown initial choices =>
    rw [List.map_append]
    exact (keys_optionalField "attributeValue" Document.text initial).append
      (List.Sublist.refl ["options"])
  | textInput initial =>
    exact (keys_optionalField "attributeValue" Document.text initial).trans
      (List.sublist_append_left _ ["options"])
  | integerInput initial =>
    exact (keys_optionalField "attributeValue" Document.number initial).trans
      (List.sublist_append_left _ ["options"])
  | floatInput initial =>
    exact (keys_optionalField "attributeValue" Document.number initial).trans
      (List.sublist_append_left _ ["options"])

/-- An input has no fields but its own. -/
theorem lookup_toFields_eq_none (input : Input) {key : String}
    (other : key ∉ ["optionsType", "attributeValue", "options"]) :
    input.toFields.lookup key = none :=
  lookup_eq_none_iff_not_mem.mpr fun known => other (input.keys_toFields.subset known)

/-- Where the keys of an input lead to what is written of it, they spell it. -/
theorem spells_of_lookup (rearranges : Rearranges change) {input : Input}
    (found : ∀ key ∈ ["optionsType", "attributeValue", "options"],
      fields.lookup key = (input.toFields.lookup key).map change) : input.Spells fields := by
  have type := found "optionsType" (by decide)
  have value := found "attributeValue" (by decide)
  have options := found "options" (by decide)
  refine ⟨?_, ?_⟩
  · unfold toFields at type
    rw [type, lookup_field, if_pos rfl, Option.map_some, rearranges.text]
  · cases input with
    | checkbox => exact ⟨value, options⟩
    | dropdown initial choices =>
      refine ⟨?_, spellsList_of_lookup rearranges ?_ (Choice.spells_toDocument rearranges)⟩
      · rw [value]
        cases initial <;> simp [toFields, lookup_field, List.lookup_append, rearranges.text]
      · rw [options]
        simp [toFields, lookup_field, List.lookup_append]
    | textInput initial =>
      refine ⟨?_, ?_⟩
      · rw [value]
        cases initial <;> simp [toFields, lookup_field, rearranges.text]
      · rw [Lacks, options]
        simp [toFields, lookup_field]
    | integerInput initial =>
      refine ⟨?_, ?_⟩
      · rw [value]
        cases initial <;> simp [toFields, lookup_field, rearranges.number]
      · rw [Lacks, options]
        simp [toFields, lookup_field]
    | floatInput initial =>
      refine ⟨?_, ?_⟩
      · rw [value]
        cases initial <;> simp [toFields, lookup_field, rearranges.number]
      · rw [Lacks, options]
        simp [toFields, lookup_field]

end Input

namespace Wire

variable {nodeTypes : Option (List NodeType)} {conditions : Option (List Condition)}

theorem keys_restrictionFields (nodeTypes : Option (List NodeType))
    (conditions : Option (List Condition)) :
    ((restrictionFields nodeTypes conditions).map Prod.fst).Sublist ["nodeTypes", "conditions"] := by
  rw [restrictionFields, List.map_append]
  exact (keys_optionalField _ _ _).append (keys_optionalField _ _ _)

/-- Where the keys of restrictions lead to what is written of them, they spell them. -/
theorem spellsRestrictions_of_lookup (rearranges : Rearranges change)
    (found : ∀ key ∈ ["nodeTypes", "conditions"],
      fields.lookup key = ((restrictionFields nodeTypes conditions).lookup key).map change) :
    SpellsRestrictions fields nodeTypes conditions := by
  have kinds := found "nodeTypes" (by decide)
  have listed := found "conditions" (by decide)
  rw [restrictionFields, List.lookup_append, lookup_optionalField, lookup_optionalField]
    at kinds listed
  constructor
  · rw [kinds]
    cases nodeTypes with
    | none => rfl
    | some kinds => simp [NodeType.listed, rearranges.list, rearranges.text, Function.comp_def]
  · cases conditions with
    | none => exact listed
    | some conditions =>
      refine spellsList_of_lookup rearranges ?_ (Condition.spells_toDocument rearranges)
      rw [listed, ← Condition.toDocuments_eq]
      rfl

end Wire

/-- The type of an attribute comes first. -/
theorem Attribute.keys_toFields (declared : Attribute) :
    (("type", Document.text "attribute") :: declared.toFields |>.map Prod.fst).Sublist
      attributeKeys := by
  simp only [toFields, List.map_append, List.map_cons]
  have required := keys_optionalField "required" Document.flag declared.required
  have restrictions := keys_restrictionFields declared.nodeTypes declared.conditions
  exact (((List.Sublist.refl ["id", "name", "description", "attributeName"]).append
    required).append restrictions |>.append declared.input.keys_toFields).cons_cons "type"

theorem AttributeGroup.keys_toFields (group : AttributeGroup) :
    (("type", Document.text "group") :: group.toFields |>.map Prod.fst).Sublist groupKeys := by
  simp only [toFields, List.map_append, List.map_cons]
  have restrictions := keys_restrictionFields group.nodeTypes group.conditions
  exact ((List.Sublist.refl ["name", "attributes"]).append restrictions).cons_cons "type"

namespace Attribute

/-- The restrictions of an attribute stand among its fields. -/
theorem lookup_restriction (declared : Attribute) {key : String}
    (member : key ∈ ["nodeTypes", "conditions"]) :
    declared.toFields.lookup key
      = (restrictionFields declared.nodeTypes declared.conditions).lookup key := by
  rw [List.mem_pair] at member
  rcases member with rfl | rfl <;>
    simp [toFields, List.lookup_append, lookup_field, Input.lookup_toFields_eq_none]

/-- The fields of the input of an attribute stand among its own. -/
theorem lookup_input (declared : Attribute) {key : String}
    (member : key ∈ ["optionsType", "attributeValue", "options"]) :
    declared.toFields.lookup key = declared.input.toFields.lookup key := by
  simp only [List.mem_cons, List.not_mem_nil, or_false] at member
  rcases member with rfl | rfl | rfl <;>
    simp [toFields, List.lookup_append, lookup_field, restrictionFields]

/-- Where the keys of an attribute lead to what is written of it, they spell it. -/
theorem spells_of_lookup (rearranges : Rearranges change) {declared : Attribute}
    (found : ∀ key, key ≠ "type" → fields.lookup key = (declared.toFields.lookup key).map change) :
    declared.Spells fields where
  id := by
    rw [found "id" (by decide), toFields]
    simp [rearranges.text]
  name := by
    rw [found "name" (by decide), toFields]
    simp [lookup_field, rearranges.text]
  description := by
    rw [found "description" (by decide), toFields]
    simp [lookup_field, rearranges.text]
  attributeName := by
    rw [found "attributeName" (by decide), toFields]
    simp [lookup_field, rearranges.text]
  required := by
    rw [found "required" (by decide), toFields]
    cases declared.required <;>
      simp [lookup_field, List.lookup_append, restrictionFields, Input.lookup_toFields_eq_none,
        rearranges.flag]
  restrictions := by
    refine spellsRestrictions_of_lookup rearranges fun key member => ?_
    have other : key ≠ "type" := by
      rintro rfl
      simp at member
    rw [found key other, declared.lookup_restriction member]
  input := by
    refine Input.spells_of_lookup rearranges fun key member => ?_
    have other : key ≠ "type" := by
      rintro rfl
      simp at member
    rw [found key other, declared.lookup_input member]

/-- What is written of an attribute with its type spells it. -/
theorem spells_toEntry (rearranges : Rearranges change) (declared : Attribute) :
    SpellsRecord SpellsEntry (change declared.toEntry) declared := by
  obtain ⟨fields, same, found⟩ :=
    rearranges.record _ (declared.keys_toFields.nodup (by decide))
  refine ⟨fields, by rw [toEntry, same], ?_, spells_of_lookup rearranges fun key other => ?_⟩
  · rw [found, lookup_field, if_pos rfl, Option.map_some, rearranges.text]
  · rw [found, lookup_field, if_neg other.symm]

end Attribute

/-- Where the keys of a group lead to what is written of it, they spell it. -/
theorem AttributeGroup.spells_of_lookup (rearranges : Rearranges change) {group : AttributeGroup}
    (found : ∀ key, key ≠ "type" → fields.lookup key = (group.toFields.lookup key).map change) :
    group.Spells fields where
  name := by
    rw [found "name" (by decide), toFields]
    simp [rearranges.text]
  attributes := by
    refine spellsList_of_lookup rearranges ?_ (Attribute.spells_toEntry rearranges)
    rw [found "attributes" (by decide), toFields]
    simp [lookup_field]
  restrictions := by
    refine spellsRestrictions_of_lookup rearranges fun key member => ?_
    rw [List.mem_pair] at member
    rcases member with rfl | rfl
    · rw [found "nodeTypes" (by decide), toFields]
      simp [lookup_field]
    · rw [found "conditions" (by decide), toFields]
      simp [lookup_field]

/-- What is written of an entry spells it. -/
theorem AttributeNode.spells_toDocument (rearranges : Rearranges change) (node : AttributeNode) :
    SpellsRecord AttributeNode.Spells (change node.toDocument) node := by
  cases node with
  | single declared => exact Attribute.spells_toEntry rearranges declared
  | group gathered =>
    obtain ⟨fields, same, found⟩ :=
      rearranges.record _ (gathered.keys_toFields.nodup (by decide))
    refine ⟨fields, by rw [toDocument, same], ?_,
      AttributeGroup.spells_of_lookup rearranges fun key other => ?_⟩
    · rw [found, lookup_field, if_pos rfl, Option.map_some, rearranges.text]
    · rw [found, lookup_field, if_neg other.symm]

/-! ### Solutions and schemas -/

/-- The fields of a solution. -/
def Solution.toFields (solution : Solution) : Fields :=
  [("id", .text solution.id), ("name", .text solution.name),
    ("scripts", .list (solution.scripts.map Script.toDocument)),
    ("attributes", .list (solution.attributes.map AttributeNode.toDocument))]

theorem Solution.toDocument_eq (solution : Solution) :
    solution.toDocument = .record solution.toFields := rfl

theorem Solution.keys_toFields (solution : Solution) :
    solution.toFields.map Prod.fst = solutionKeys := rfl

/-- What is written of a solution spells it. -/
theorem Solution.spells_toDocument (rearranges : Rearranges change) (solution : Solution) :
    SpellsRecord Solution.Spells (change solution.toDocument) solution := by
  have unique : (solution.toFields.map Prod.fst).Nodup := by rw [keys_toFields]; decide
  obtain ⟨fields, same, found⟩ := rearranges.record _ unique
  refine ⟨fields, by rw [toDocument_eq, same], ?_, ?_,
    spellsList_of_lookup rearranges ?_ (Script.spells_toDocument rearranges),
    spellsList_of_lookup rearranges ?_ (AttributeNode.spells_toDocument rearranges)⟩ <;>
    rw [found, toFields] <;> simp [lookup_field, rearranges.text]

/-- The fields of a schema. -/
def Schema.toFields (schema : Schema) : Fields :=
  [("id", .text schema.id), ("name", .text schema.name),
    ("solutions", .list (schema.solutions.map Solution.toDocument))]

theorem Schema.toDocument_eq (schema : Schema) : schema.toDocument = .record schema.toFields := rfl

theorem Schema.keys_toFields (schema : Schema) : schema.toFields.map Prod.fst = schemaKeys := rfl

/-- **What is written of a schema spells it.** -/
theorem Schema.spells_toDocument (rearranges : Rearranges change) (schema : Schema) :
    SpellsRecord Schema.Spells (change schema.toDocument) schema := by
  have unique : (schema.toFields.map Prod.fst).Nodup := by rw [keys_toFields]; decide
  obtain ⟨fields, same, found⟩ := rearranges.record _ unique
  refine ⟨fields, by rw [toDocument_eq, same], ?_, ?_,
    spellsList_of_lookup rearranges ?_ (Solution.spells_toDocument rearranges)⟩ <;>
    rw [found, toFields] <;> simp [lookup_field, rearranges.text]

end PageAttributes
