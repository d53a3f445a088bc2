/-
**What is written of a value is the pruned document that it was read from.**

* `Condition.canonical_toDocument`, `Script.canonical_toDocument`, `Attribute.canonical_toEntry`,
  `AttributeNode.canonical_toDocument`, `Solution.canonical_toDocument`,
  `Schema.canonical_toDocument` — a canonical document that spells a value is, without its unknown
  keys, the canonical form of what is written of the value.

Both sides have sorted keys, so that it is enough to look under each key of the grammar: what stands
there is determined by the value.
-/

import PageAttributes.Proofs.Grammar.Pruning
import PageAttributes.Proofs.Wire.Encode

namespace PageAttributes

open Wire Grammar

variable {fields : Fields}

namespace Wire

variable {α : Type} {pairs : Fields}

/-- A record is a pruned one if they agree under every known key and have no others. -/
theorem canonical_eq_prune {known : List String} {nested : List (String × (Document → Document))}
    (keys : (pairs.map Prod.fst).Sublist known) (unique : known.Nodup)
    (sorted : Keyed.Sorted fields)
    (agree : ∀ key ∈ known, (pairs.lookup key).map Document.canonical
      = (fields.lookup key).map ((nested.lookup key).getD id)) :
    (Document.record pairs).canonical = .record (pruneFields known nested fields) := by
  obtain ⟨written, same, sortedToo, found⟩ := Document.canonical_record (keys.nodup unique)
  rw [same]
  refine congrArg Document.record (sortedToo.ext (sorted_pruneFields sorted) fun key => ?_)
  rw [found, lookup_pruneFields]
  by_cases member : key ∈ known
  · rw [if_pos (List.contains_iff_mem.mpr member), agree key member]
  · have missing : pairs.lookup key = none :=
      lookup_eq_none_iff_not_mem.mpr fun inside => member (keys.subset inside)
    rw [if_neg (fun inside => member (List.contains_iff_mem.mp inside)), missing, Option.map_none]

/-- What is written of a value spells it key by key. -/
theorem exists_written {spells : Fields → α → Prop} {value : α}
    (unique : (pairs.map Prod.fst).Nodup)
    (spelled : SpellsRecord spells (Document.record pairs).canonical value) :
    ∃ written, spells written value
      ∧ ∀ key, (pairs.lookup key).map Document.canonical = written.lookup key := by
  obtain ⟨written, same, spelled⟩ := spelled
  obtain ⟨others, sameToo, _, found⟩ := Document.canonical_record unique
  cases same.symm.trans sameToo
  exact ⟨written, spelled, fun key => (found key).symm⟩

/-- What is not pruned in turn agrees if it is the same. -/
theorem agree_of_plain {written : Fields} {nested : List (String × (Document → Document))}
    {key : String} {value : Option Document}
    (found : ∀ key, (pairs.lookup key).map Document.canonical = written.lookup key)
    (there : written.lookup key = value) (thereToo : fields.lookup key = value)
    (plain : nested.lookup key = none) :
    (pairs.lookup key).map Document.canonical
      = (fields.lookup key).map ((nested.lookup key).getD id) := by
  rw [found, there, thereToo, plain]
  exact Option.map_id_apply.symm

/-- What is written of some values is the pruned list that spells them. -/
theorem canonical_list {spells : Document → α → Prop} {write : α → Document}
    {prune : Document → Document} {items : List Document} {values : List α}
    (canonical : (Document.list items).IsCanonical) (spelled : List.Forall₂ spells items values)
    (each : ∀ item value, item.IsCanonical → spells item value →
      (write value).canonical = prune item) :
    (Document.list (values.map write)).canonical = pruneItems prune (.list items) := by
  rw [pruneItems, Document.canonical, Document.canonicalItems_eq, List.map_map]
  refine congrArg Document.list ?_
  induction spelled with
  | nil => rfl
  | cons first _ ih =>
    obtain ⟨here, others⟩ := canonical
    rw [List.map_cons, List.map_cons, ih others, Function.comp_apply, each _ _ here first]

/-- The same for records in a list. -/
theorem canonical_record_of_spells {spells : Fields → α → Prop} {write : α → Document}
    {prune : Fields → Fields}
    (each : ∀ {fields value}, (Document.record fields).IsCanonical → spells fields value →
      (write value).canonical = .record (prune fields))
    (item : Document) (value : α) (canonical : item.IsCanonical)
    (spelled : SpellsRecord spells item value) : (write value).canonical = pruneRecord prune item := by
  obtain ⟨fields, rfl, spelled⟩ := spelled
  exact each canonical spelled

/-- The list under a key, where its items are pruned. -/
theorem canonical_of_spellsList {spells : Document → α → Prop} {write : α → Document}
    {prune : Document → Document} {key : String} {values : List α}
    (canonical : (Document.record fields).IsCanonical)
    (listed : SpellsList spells fields key values)
    (each : ∀ item value, item.IsCanonical → spells item value →
      (write value).canonical = prune item) :
    some (Document.list (values.map write)).canonical
      = (fields.lookup key).map (pruneItems prune) := by
  obtain ⟨items, there, spelled⟩ := listed
  rw [there, Option.map_some, canonical_list (canonical.ofLookup there) spelled each]

end Wire

/-! ### Conditions -/

namespace Condition

mutual

/-- What is written of a condition is the pruned document that spells it. -/
theorem canonical_toDocument : ∀ (condition : Condition) (document : Document),
    document.IsCanonical → Spells document condition →
      condition.toDocument.canonical = pruneCondition document
  | .leaf attributeId expected, .record fields, canonical, spelled => by
    rw [Spells] at spelled
    obtain ⟨type, named, valued⟩ := spelled
    rw [toDocument, pruneCondition_record, conditionKeys_leaf type]
    refine canonical_eq_prune (List.Sublist.refl _) (by decide) canonical.1 ?_
    simp [leafKeys, lookup_field, type, named, valued, Document.canonical,
      change_expected Rearranges.canonical]
  | .group operator members, .record fields, canonical, spelled => by
    rw [Spells] at spelled
    obtain ⟨type, named, items, listed, each⟩ := spelled
    have inside := canonical_toDocuments members items (canonical.ofLookup listed) each
    rw [toDocument, pruneCondition_record, conditionKeys_group type]
    refine canonical_eq_prune (List.Sublist.refl _) (by decide) canonical.1 ?_
    simp [conditionGroupKeys, lookup_field, type, named, listed, Document.canonical, inside,
      pruneItems]

theorem canonical_toDocuments : ∀ (members : List Condition) (items : List Document),
    (Document.list items).IsCanonical → SpellEach items members →
      Document.canonicalItems (toDocuments members) = items.map pruneCondition
  | [], [], _, _ => by rw [toDocuments, Document.canonicalItems, List.map_nil]
  | member :: members, item :: items, canonical, spelled => by
    rw [SpellEach] at spelled
    rw [toDocuments, Document.canonicalItems, List.map_cons,
      canonical_toDocument member item canonical.1 spelled.1,
      canonical_toDocuments members items canonical.2 spelled.2]

end

end Condition

/-- What is written of conditions agrees with the pruned conditions under their key. -/
theorem Wire.canonical_of_spellsRestrictions {nodeTypes : Option (List NodeType)}
    {conditions : Option (List Condition)} (canonical : (Document.record fields).IsCanonical)
    (spelled : SpellsRestrictions fields nodeTypes conditions) :
    ((restrictionFields nodeTypes conditions).lookup "conditions").map Document.canonical
      = (fields.lookup "conditions").map pruneConditions := by
  have spelled := spelled.conditions
  rw [restrictionFields, List.lookup_append, lookup_optionalField, lookup_optionalField]
  cases conditions with
  | none =>
    have missing : fields.lookup "conditions" = none := spelled
    rw [missing]
    rfl
  | some conditions =>
    rw [pruneConditions_eq, ← canonical_of_spellsList canonical spelled
      fun item condition => Condition.canonical_toDocument condition item,
      ← Condition.toDocuments_eq]
    rfl

/-! ### Scripts and choices -/

/-- What is written of a script is the pruned record that spells it. -/
theorem Script.canonical_toDocument {script : Script}
    (canonical : (Document.record fields).IsCanonical) (spelled : script.Spells fields) :
    script.toDocument.canonical = .record (pruneScript fields) := by
  have keys := script.keys_toFields
  obtain ⟨written, spelledToo, found⟩ :=
    exists_written (keys.nodup (by decide)) (script.spells_toDocument Rearranges.canonical)
  rw [toDocument_eq]
  refine canonical_eq_prune keys (by decide) canonical.1 ?_
  simp only [scriptKeys, List.forall_mem_cons]
  exact ⟨agree_of_plain found spelledToo.id spelled.id rfl,
    agree_of_plain found spelledToo.source spelled.source rfl,
    agree_of_plain found spelledToo.deferred spelled.deferred rfl,
    agree_of_plain found spelledToo.asynchronous spelled.asynchronous rfl,
    agree_of_plain found spelledToo.location spelled.location rfl, List.forall_mem_nil _⟩

/-- What is written of a choice is the pruned record that spells it. -/
theorem Choice.canonical_toDocument {choice : Choice}
    (canonical : (Document.record fields).IsCanonical) (spelled : choice.Spells fields) :
    choice.toDocument.canonical = .record (pruneChoice fields) := by
  have keys : (choice.toFields.map Prod.fst).Sublist choiceKeys := List.Sublist.refl _
  obtain ⟨written, spelledToo, found⟩ :=
    exists_written (keys.nodup (by decide)) (choice.spells_toDocument Rearranges.canonical)
  rw [toDocument_eq]
  refine canonical_eq_prune keys (by decide) canonical.1 ?_
  simp only [choiceKeys, List.forall_mem_cons]
  exact ⟨agree_of_plain found spelledToo.name spelled.name rfl,
    agree_of_plain found spelledToo.description spelled.description rfl,
    agree_of_plain found spelledToo.value spelled.value rfl, List.forall_mem_nil _⟩

/-! ### Attributes and groups -/

namespace Input

variable {others : Fields} {input : Input}

/-- Two records that spell an input start it with the same value. -/
theorem SpellsOwn.initial_eq (spelled : SpellsOwn fields input) (spelledToo : SpellsOwn others input) :
    fields.lookup "attributeValue" = others.lookup "attributeValue" := by
  cases input <;> exact spelled.1.trans spelledToo.1.symm

/-- What is written of choices agrees with the pruned choices under their key. -/
theorem canonical_options (canonical : (Document.record fields).IsCanonical)
    (spelled : SpellsOwn fields input) :
    (input.toFields.lookup "options").map Document.canonical
      = (fields.lookup "options").map (pruneItems (pruneRecord pruneChoice)) := by
  cases input with
  | dropdown initial choices =>
    have written : (dropdown initial choices).toFields.lookup "options"
        = some (.list (choices.map Choice.toDocument)) := by
      simp [toFields, lookup_field, List.lookup_append]
    rw [written, Option.map_some, ← canonical_of_spellsList canonical spelled.2
      (canonical_record_of_spells Choice.canonical_toDocument)]
  | checkbox =>
    have missing : fields.lookup "options" = none := spelled.2
    rw [missing]
    rfl
  | textInput initial =>
    have missing : fields.lookup "options" = none := spelled.2
    simp [missing, toFields, lookup_field]
  | integerInput initial =>
    have missing : fields.lookup "options" = none := spelled.2
    simp [missing, toFields, lookup_field]
  | floatInput initial =>
    have missing : fields.lookup "options" = none := spelled.2
    simp [missing, toFields, lookup_field]

end Input

/-- What is written of an attribute is the pruned record that spells it. -/
theorem Attribute.canonical_toEntry {declared : Attribute}
    (canonical : (Document.record fields).IsCanonical) (spelled : declared.SpellsEntry fields) :
    declared.toEntry.canonical = .record (pruneAttribute fields) := by
  have keys := declared.keys_toFields
  obtain ⟨written, ⟨type, its⟩, found⟩ :=
    exists_written (keys.nodup (by decide)) (declared.spells_toEntry Rearranges.canonical)
  obtain ⟨typeToo, spelled⟩ := spelled
  have conditions := canonical_of_spellsRestrictions canonical spelled.restrictions
  rw [← declared.lookup_restriction (by decide)] at conditions
  have options := Input.canonical_options canonical spelled.input.own
  rw [← declared.lookup_input (by decide)] at options
  refine canonical_eq_prune keys (by decide) canonical.1 ?_
  simp only [attributeKeys, List.forall_mem_cons]
  exact ⟨agree_of_plain found type typeToo rfl,
    agree_of_plain found its.id spelled.id rfl,
    agree_of_plain found its.name spelled.name rfl,
    agree_of_plain found its.description spelled.description rfl,
    agree_of_plain found its.attributeName spelled.attributeName rfl,
    agree_of_plain found its.required spelled.required rfl,
    agree_of_plain found its.restrictions.nodeTypes spelled.restrictions.nodeTypes rfl,
    conditions, agree_of_plain found its.input.kind spelled.input.kind rfl,
    agree_of_plain found (its.input.own.initial_eq spelled.input.own) rfl rfl, options,
    List.forall_mem_nil _⟩

/-- What is written of a group is the pruned record that spells it. -/
theorem AttributeNode.canonical_toDocument_group {group : AttributeGroup}
    (canonical : (Document.record fields).IsCanonical)
    (type : fields.lookup "type" = some (.text "group")) (spelled : group.Spells fields) :
    (AttributeNode.group group).toDocument.canonical = .record (pruneGroup fields) := by
  have keys := group.keys_toFields
  obtain ⟨written, ⟨typeToo, its⟩, found⟩ := exists_written (keys.nodup (by decide))
    ((AttributeNode.group group).spells_toDocument Rearranges.canonical)
  have members := canonical_of_spellsList canonical spelled.attributes
    (canonical_record_of_spells Attribute.canonical_toEntry)
  have conditions := canonical_of_spellsRestrictions canonical spelled.restrictions
  refine canonical_eq_prune keys (by decide) canonical.1 ?_
  simp only [groupKeys, List.forall_mem_cons]
  exact ⟨agree_of_plain found typeToo type rfl, agree_of_plain found its.name spelled.name rfl,
    members, agree_of_plain found its.restrictions.nodeTypes spelled.restrictions.nodeTypes rfl,
    conditions, List.forall_mem_nil _⟩

/-- What is written of an entry is the pruned record that spells it. -/
theorem AttributeNode.canonical_toDocument {node : AttributeNode}
    (canonical : (Document.record fields).IsCanonical) (spelled : node.Spells fields) :
    node.toDocument.canonical = .record (pruneNode fields) := by
  cases node with
  | single declared =>
    rw [pruneNode_attribute spelled.type]
    exact Attribute.canonical_toEntry canonical spelled
  | group gathered =>
    rw [pruneNode_group spelled.1]
    exact AttributeNode.canonical_toDocument_group canonical spelled.1 spelled.2

/-! ### Solutions and schemas -/

/-- What is written of a solution is the pruned record that spells it. -/
theorem Solution.canonical_toDocument {solution : Solution}
    (canonical : (Document.record fields).IsCanonical) (spelled : solution.Spells fields) :
    solution.toDocument.canonical = .record (pruneSolution fields) := by
  have keys : (solution.toFields.map Prod.fst).Sublist solutionKeys := List.Sublist.refl _
  obtain ⟨written, its, found⟩ :=
    exists_written (keys.nodup (by decide)) (solution.spells_toDocument Rearranges.canonical)
  rw [toDocument_eq]
  have scripts := canonical_of_spellsList canonical spelled.scripts
    (canonical_record_of_spells Script.canonical_toDocument)
  have nodes := canonical_of_spellsList canonical spelled.attributes
    (canonical_record_of_spells AttributeNode.canonical_toDocument)
  refine canonical_eq_prune keys (by decide) canonical.1 ?_
  simp only [solutionKeys, List.forall_mem_cons]
  exact ⟨agree_of_plain found its.id spelled.id rfl, agree_of_plain found its.name spelled.name rfl,
    scripts, nodes, List.forall_mem_nil _⟩

/-- **What is written of a schema is the pruned document that spells it.** -/
theorem Schema.canonical_toDocument {schema : Schema}
    (canonical : (Document.record fields).IsCanonical) (spelled : schema.Spells fields) :
    schema.toDocument.canonical = pruneSchema (.record fields) := by
  have keys : (schema.toFields.map Prod.fst).Sublist schemaKeys := List.Sublist.refl _
  obtain ⟨written, its, found⟩ :=
    exists_written (keys.nodup (by decide)) (schema.spells_toDocument Rearranges.canonical)
  rw [toDocument_eq]
  have solutions := canonical_of_spellsList canonical spelled.solutions
    (canonical_record_of_spells Solution.canonical_toDocument)
  refine canonical_eq_prune keys (by decide) canonical.1 ?_
  simp only [schemaKeys, List.forall_mem_cons]
  exact ⟨agree_of_plain found its.id spelled.id rfl, agree_of_plain found its.name spelled.name rfl,
    solutions, List.forall_mem_nil _⟩

end PageAttributes
