/-
**What the written form of a schema looks like.**

* `Script.forall_mem_toFields`, `Attribute.forall_mem_toFields`, `AttributeGroup.forall_mem_toFields`
  — what holds of the fields that are written, if it holds of those that have no conditions;
* `Schema.hasUniqueKeys_toDocument` — no record repeats a key;
* `Schema.covers_toDocument` — everything is asked for when a schema is read.
-/

import PageAttributes.Proofs.Json.Written
import PageAttributes.Proofs.Wire.Encode

namespace PageAttributes

open Wire Grammar Document

variable {fits : String × Document → Prop}

/-! ### Fields -/

namespace Wire

theorem forall_mem_optionalField {α : Type} {key : String} {write : α → Document}
    {value : Option α} :
    (∀ field ∈ optionalField key write value, fits field)
      ↔ ∀ held ∈ value, fits (key, write held) := by
  cases value <;> simp [optionalField]

/-- Fields fit that hold no conditions. -/
structure FitsPlain (fits : String × Document → Prop) : Prop where
  text : ∀ key value, fits (key, .text value)
  flag : ∀ key value, fits (key, .flag value)
  number : ∀ key value, fits (key, .number value)
  kinds : ∀ kinds, fits ("nodeTypes", NodeType.listed kinds)
  choices : ∀ choices : List Choice, fits ("options", .list (choices.map Choice.toDocument))

/-- Of restrictions only the conditions matter. -/
theorem forall_mem_restrictionFields (plain : FitsPlain fits) {nodeTypes : Option (List NodeType)}
    {conditions : Option (List Condition)} :
    (∀ field ∈ restrictionFields nodeTypes conditions, fits field)
      ↔ ∀ listed ∈ conditions, fits ("conditions", .list (Condition.toDocuments listed)) := by
  rw [restrictionFields, List.forall_mem_append, forall_mem_optionalField,
    forall_mem_optionalField]
  exact and_iff_right fun kinds _ => plain.kinds kinds

end Wire

theorem Script.forall_mem_toFields (plain : FitsPlain fits) (script : Script) :
    ∀ field ∈ script.toFields, fits field := by
  simp only [toFields, List.forall_mem_append, forall_mem_optionalField, List.forall_mem_cons]
  simp [plain.text, plain.flag]

theorem Choice.forall_mem_toFields (plain : FitsPlain fits) (choice : Choice) :
    ∀ field ∈ choice.toFields, fits field := by
  simp only [toFields, List.forall_mem_cons]
  simp [plain.text]

theorem Input.forall_mem_toFields (plain : FitsPlain fits) (input : Input) :
    ∀ field ∈ input.toFields, fits field := by
  unfold toFields
  rw [List.forall_mem_cons]
  refine ⟨plain.text _ _, ?_⟩
  cases input with
  | checkbox => exact List.forall_mem_nil _
  | dropdown initial choices =>
    rw [List.forall_mem_append, forall_mem_optionalField, List.forall_mem_singleton]
    exact ⟨fun value _ => plain.text _ value, plain.choices choices⟩
  | textInput initial => exact forall_mem_optionalField.mpr fun value _ => plain.text _ value
  | integerInput initial => exact forall_mem_optionalField.mpr fun value _ => plain.number _ value
  | floatInput initial => exact forall_mem_optionalField.mpr fun value _ => plain.number _ value

/-- Of an attribute only the conditions matter. -/
theorem Attribute.forall_mem_toFields (plain : FitsPlain fits) (declared : Attribute) :
    (∀ field ∈ declared.toFields, fits field) ↔ ∀ listed ∈ declared.conditions,
      fits ("conditions", .list (Condition.toDocuments listed)) := by
  have input := declared.input.forall_mem_toFields plain
  rw [toFields, List.forall_mem_append, List.forall_mem_append, List.forall_mem_append,
    forall_mem_optionalField, forall_mem_restrictionFields plain, iff_true_intro input, and_true]
  refine and_iff_right ⟨?_, fun value _ => plain.flag _ value⟩
  simp [plain.text]

/-- Of a group only the members and the conditions matter. -/
theorem AttributeGroup.forall_mem_toFields (plain : FitsPlain fits) (group : AttributeGroup) :
    (∀ field ∈ group.toFields, fits field)
      ↔ fits ("attributes", .list (group.attributes.map Attribute.toEntry))
        ∧ ∀ listed ∈ group.conditions,
          fits ("conditions", .list (Condition.toDocuments listed)) := by
  simp only [toFields, List.forall_mem_append, List.forall_mem_cons,
    forall_mem_restrictionFields plain]
  simp [plain.text]

/-! ### Keys -/

namespace Document

theorem hasUniqueKeys_list_map {α : Type} {write : α → Document} (values : List α)
    (each : ∀ value, (write value).HasUniqueKeys) : (list (values.map write)).HasUniqueKeys := by
  refine haveUniqueKeys_iff.mpr fun item member => ?_
  obtain ⟨value, _, rfl⟩ := List.mem_map.mp member
  exact each value

theorem hasUniqueKeys_record {fields : Fields} (unique : (fields.map Prod.fst).Nodup)
    (values : ∀ field ∈ fields, field.2.HasUniqueKeys) : (record fields).HasUniqueKeys :=
  ⟨unique, valuesHaveUniqueKeys_iff.mpr values⟩

end Document

namespace Condition

mutual

theorem hasUniqueKeys_toDocument :
    ∀ condition : Condition, condition.toDocument.HasUniqueKeys
  | .leaf attributeId expected => by
    have value : expected.toDocument.HasUniqueKeys := by cases expected <;> exact trivial
    rw [toDocument]
    exact ⟨by simp, trivial, trivial, value, trivial⟩
  | .group operator members => by
    have inside := haveUniqueKeys_toDocuments members
    rw [toDocument]
    exact ⟨by simp, trivial, trivial, inside, trivial⟩

theorem haveUniqueKeys_toDocuments :
    ∀ conditions : List Condition, HaveUniqueKeys (toDocuments conditions)
  | [] => trivial
  | member :: rest => ⟨hasUniqueKeys_toDocument member, haveUniqueKeys_toDocuments rest⟩

end

end Condition

theorem Choice.hasUniqueKeys_toDocument (choice : Choice) : choice.toDocument.HasUniqueKeys := by
  have unique : (choice.toFields.map Prod.fst).Nodup := by
    rw [keys_toFields]
    decide
  exact ⟨unique, trivial, trivial, trivial, trivial⟩

theorem Wire.fitsPlain_hasUniqueKeys : FitsPlain fun field => field.2.HasUniqueKeys where
  text _ _ := trivial
  flag _ _ := trivial
  number _ _ := trivial
  kinds kinds := hasUniqueKeys_list_map kinds fun _ => trivial
  choices choices := hasUniqueKeys_list_map choices Choice.hasUniqueKeys_toDocument

theorem Script.hasUniqueKeys_toDocument (script : Script) : script.toDocument.HasUniqueKeys :=
  hasUniqueKeys_record (script.keys_toFields.nodup (by decide))
    (script.forall_mem_toFields fitsPlain_hasUniqueKeys)

theorem Attribute.hasUniqueKeys_toEntry (declared : Attribute) :
    declared.toEntry.HasUniqueKeys := by
  refine hasUniqueKeys_record (declared.keys_toFields.nodup (by decide)) ?_
  rw [List.forall_mem_cons, declared.forall_mem_toFields fitsPlain_hasUniqueKeys]
  exact ⟨trivial, fun listed _ => Condition.haveUniqueKeys_toDocuments listed⟩

theorem AttributeNode.hasUniqueKeys_toDocument (node : AttributeNode) :
    node.toDocument.HasUniqueKeys := by
  cases node with
  | single declared => exact declared.hasUniqueKeys_toEntry
  | group gathered =>
    refine hasUniqueKeys_record (gathered.keys_toFields.nodup (by decide)) ?_
    rw [List.forall_mem_cons, gathered.forall_mem_toFields fitsPlain_hasUniqueKeys]
    have members := hasUniqueKeys_list_map gathered.attributes Attribute.hasUniqueKeys_toEntry
    exact ⟨trivial, members, fun listed _ => Condition.haveUniqueKeys_toDocuments listed⟩

theorem Solution.hasUniqueKeys_toDocument (solution : Solution) :
    solution.toDocument.HasUniqueKeys := by
  have scripts := hasUniqueKeys_list_map solution.scripts Script.hasUniqueKeys_toDocument
  have nodes := hasUniqueKeys_list_map solution.attributes AttributeNode.hasUniqueKeys_toDocument
  have unique : (solution.toFields.map Prod.fst).Nodup := by
    rw [keys_toFields]
    decide
  exact ⟨unique, trivial, trivial, scripts, nodes, trivial⟩

/-- No record of the written form of a schema repeats a key. -/
theorem Schema.hasUniqueKeys_toDocument (schema : Schema) : schema.toDocument.HasUniqueKeys := by
  have solutions := hasUniqueKeys_list_map schema.solutions Solution.hasUniqueKeys_toDocument
  have unique : (schema.toFields.map Prod.fst).Nodup := by
    rw [keys_toFields]
    decide
  exact ⟨unique, trivial, trivial, solutions, trivial⟩

/-! ### What is asked for -/

namespace Json.Attention

theorem coversItems_each_iff {inside : Attention} {items : List Document} (position : Nat) :
    CoversItems (.each inside) position items ↔ ∀ item ∈ items, inside.Covers item := by
  induction items generalizing position with
  | nil => simp [CoversItems]
  | cons item rest ih =>
    rw [CoversItems, ih, List.forall_mem_cons]
    rfl

theorem coversFields_iff {attention : Attention} {fields : Fields} :
    CoversFields attention fields ↔ ∀ field ∈ fields, (attention.ofField field.1).Covers field.2 := by
  induction fields with
  | nil => simp [CoversFields]
  | cons field rest ih => rw [CoversFields, ih, List.forall_mem_cons]

theorem covers_each_map {inside : Attention} {α : Type} {write : α → Document} (values : List α)
    (each : ∀ value, inside.Covers (write value)) :
    Covers (.each inside) (.list (values.map write)) := by
  refine ⟨rfl, (coversItems_each_iff 0).mpr fun item member => ?_⟩
  obtain ⟨value, _, rfl⟩ := List.mem_map.mp member
  exact each value

end Json.Attention

section Asked

open Json.Attention

theorem Script.covers_toDocument (script : Script) :
    Schema.scriptAttention.Covers script.toDocument := by
  refine ⟨rfl, coversFields_iff.mpr ?_⟩
  simp only [List.forall_mem_append, forall_mem_optionalField, List.forall_mem_cons]
  refine ⟨⟨⟨⟨rfl, rfl, List.forall_mem_nil _⟩, ?_⟩, ?_⟩, rfl, List.forall_mem_nil _⟩
  · exact fun _ _ => rfl
  · exact fun _ _ => rfl

theorem Solution.covers_toDocument (solution : Solution) :
    Schema.solutionAttention.Covers solution.toDocument := by
  have scripts := covers_each_map solution.scripts Script.covers_toDocument
  have nodes := covers_full (.list (solution.attributes.map AttributeNode.toDocument))
  exact ⟨rfl, rfl, rfl, scripts, nodes, trivial⟩

/-- Everything in the written form of a schema is asked for when a schema is read. -/
theorem Schema.covers_toDocument (schema : Schema) : attention.Covers schema.toDocument := by
  have solutions := covers_each_map schema.solutions Solution.covers_toDocument
  exact ⟨rfl, rfl, rfl, solutions, trivial⟩

end Asked

end PageAttributes
