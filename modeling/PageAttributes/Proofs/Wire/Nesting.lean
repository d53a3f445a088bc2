/-
**How deep the written form of a schema is nested.**

* `Condition.HasMembers` — no group of conditions is empty, as the grammar asks for;
* `Condition.nesting_toDocument` — a level of conditions takes a record and a list;
* `Schema.placedConditions` — every list of conditions in a schema, and how many groups of
  attributes it stands in;
* `Schema.nesting_toDocument_le_iff` — how deep the written form is nested, in terms of the levels
  of the conditions.
-/

import PageAttributes.Proofs.Document.Nesting
import PageAttributes.Proofs.Wire.Outline
import PageAttributes.Proofs.Wire.Written

namespace PageAttributes

open Wire Grammar Document

/-! ### Conditions -/

namespace Condition

mutual

/-- No group of conditions is empty. -/
def HasMembers : Condition → Prop
  | .leaf _ _ => True
  | .group _ members => members ≠ [] ∧ EachHasMembers members

/-- No group among some conditions or inside of them is empty. -/
def EachHasMembers : List Condition → Prop
  | [] => True
  | member :: rest => HasMembers member ∧ EachHasMembers rest

end

variable {strict : Bool}

mutual

/-- In what a well-shaped document spells no group of conditions is empty. -/
theorem hasMembers_of_spells : ∀ (condition : Condition) (document : Document) (levels : Nat),
    ValidCondition strict levels document → Spells document condition → condition.HasMembers
  | .leaf _ _, _, _, _, _ => trivial
  | .group operator members, .record fields, levels, valid, spelled => by
    rw [Spells] at spelled
    obtain ⟨type, _, items, listed, each⟩ := spelled
    cases valid with
    | leaf _ _ isLeaf =>
      rw [isLeaf] at type
      simp at type
    | group levels _ others _ _ _ othersListed nonempty valid =>
      cases listed.symm.trans othersListed
      have some : members ≠ [] := by
        rintro rfl
        cases items with
        | nil => exact nonempty rfl
        | cons item rest => cases each
      exact ⟨some, eachHasMembers_of_spellEach members items levels valid each⟩

theorem eachHasMembers_of_spellEach : ∀ (members : List Condition) (items : List Document)
    (levels : Nat), (∀ item ∈ items, ValidCondition strict levels item) →
      SpellEach items members → EachHasMembers members
  | [], _, _, _, _ => trivial
  | member :: members, item :: items, levels, valid, spelled => by
    rw [SpellEach] at spelled
    obtain ⟨first, others⟩ := List.forall_mem_cons.mp valid
    exact ⟨hasMembers_of_spells member item levels first spelled.1,
      eachHasMembers_of_spellEach members items levels others spelled.2⟩

end

mutual

/-- A level of conditions takes a record and a list, but for the innermost. -/
theorem nesting_toDocument : ∀ condition : Condition, condition.HasMembers →
    condition.toDocument.nesting + 1 = 2 * condition.levels
  | .leaf attributeId expected, _ => by
    have value : expected.toDocument.nesting = 0 := by cases expected <;> rfl
    rw [toDocument, nesting, levels]
    simp [nestingOfFields, value]
  | .group operator members, ⟨nonempty, full⟩ => by
    have inside := nesting_toDocuments members full nonempty
    rw [toDocument, nesting, levels]
    simp only [nestingOfFields, nesting]
    omega

theorem nesting_toDocuments : ∀ conditions : List Condition, EachHasMembers conditions →
    conditions ≠ [] → nestingOfItems (toDocuments conditions) + 1 = 2 * allLevels conditions
  | [], _, nonempty => (nonempty rfl).elim
  | member :: rest, ⟨full, others⟩, _ => by
    have here := nesting_toDocument member full
    have behind := nesting_toDocuments rest others
    rw [toDocuments, nestingOfItems, allLevels]
    cases rest with
    | nil =>
      rw [toDocuments, nestingOfItems, allLevels, Nat.max_zero, Nat.max_zero, here]
    | cons next rest =>
      have there := behind (List.cons_ne_nil _ _)
      omega

end

/-- A list of conditions is nested as deep as its conditions, and one deeper. -/
theorem nesting_list_toDocuments_le_iff {conditions : List Condition}
    (full : EachHasMembers conditions) {bound : Nat} :
    (Document.list (toDocuments conditions)).nesting ≤ 2 * bound + 2
      ↔ allLevels conditions ≤ bound + 1 := by
  rw [nesting]
  cases conditions with
  | nil =>
    rw [toDocuments, nestingOfItems, allLevels]
    omega
  | cons first rest =>
    have same := nesting_toDocuments (first :: rest) full (List.cons_ne_nil _ _)
    omega

/-- The same for conditions that may be left out. -/
theorem forall_mem_nesting_le_iff {conditions : Option (List Condition)}
    (full : EachHasMembers (conditions.getD [])) {bound : Nat} :
    (∀ listed ∈ conditions, (Document.list (toDocuments listed)).nesting ≤ 2 * bound + 2)
      ↔ allLevels (conditions.getD []) ≤ bound + 1 := by
  cases conditions with
  | none => simp [allLevels]
  | some listed =>
    rw [Option.getD_some] at full ⊢
    rw [← nesting_list_toDocuments_le_iff full]
    simp

end Condition

theorem Document.nesting_list_map_le_iff {α : Type} {write : α → Document} {values : List α}
    {bound : Nat} :
    (list (values.map write)).nesting ≤ bound + 1
      ↔ ∀ value ∈ values, (write value).nesting ≤ bound := by
  rw [nesting_list_le_iff, List.forall_mem_map]

/-! ### Entries -/

/-- The lists of conditions of an entry, each with the number of groups around it. -/
def AttributeNode.placedConditions : AttributeNode → List (Nat × List Condition)
  | .single declared => [(0, declared.conditions.getD [])]
  | .group gathered => (0, gathered.conditions.getD []) ::
      gathered.attributes.map fun member => (1, member.conditions.getD [])

/-- The lists of conditions of a schema, each with the number of groups around it. -/
def Schema.placedConditions (schema : Schema) : List (Nat × List Condition) :=
  schema.solutions.flatMap fun solution =>
    solution.attributes.flatMap AttributeNode.placedConditions

theorem Wire.SpellsRestrictions.eachHasMembers {strict : Bool} {fields : Fields}
    {nodeTypes : Option (List NodeType)} {conditions : Option (List Condition)}
    (valid : ValidRestrictions strict fields)
    (spelled : SpellsRestrictions fields nodeTypes conditions) :
    Condition.EachHasMembers (conditions.getD []) := by
  have spelled := spelled.conditions
  cases conditions with
  | none => exact trivial
  | some conditions =>
    obtain ⟨items, listed, each⟩ := spelled
    obtain ⟨others, same, valid⟩ := valid.conditions _ listed
    cases same
    exact Condition.eachHasMembers_of_spellEach conditions items _ valid
      (Condition.spellEach_iff.mpr each)

theorem AttributeNode.eachHasMembers_of_spells {strict : Bool} {fields : Fields}
    {node : AttributeNode} (valid : ValidNode strict fields) (spelled : node.Spells fields) :
    ∀ placed ∈ node.placedConditions, Condition.EachHasMembers placed.2 := by
  cases node with
  | single declared =>
    rw [placedConditions, List.forall_mem_singleton]
    cases valid with
    | single _ valid => exact spelled.declared.restrictions.eachHasMembers valid.restrictions
    | group isGroup =>
      have isAttribute := spelled.type
      rw [isGroup] at isAttribute
      simp at isAttribute
  | group gathered =>
    obtain ⟨type, spelled⟩ := spelled
    cases valid with
    | single isAttribute =>
      rw [isAttribute] at type
      simp at type
    | group _ valid =>
      rw [placedConditions, List.forall_mem_cons, List.forall_mem_map]
      refine ⟨spelled.restrictions.eachHasMembers valid.restrictions, fun member among => ?_⟩
      obtain ⟨items, listed, each⟩ := spelled.attributes
      obtain ⟨others, same, _, shapes⟩ := valid.members
      cases listed.symm.trans same
      obtain ⟨_, inside, its, rfl, spelled⟩ := exists_mem_of_forall₂ each among
      obtain ⟨_, same, valid⟩ := shapes _ inside
      cases same
      exact spelled.declared.restrictions.eachHasMembers valid.declared.restrictions

/-- In what a well-shaped document spells no group of conditions is empty. -/
theorem Schema.eachHasMembers_of_spells {strict : Bool} {fields : Fields} {schema : Schema}
    (valid : ValidSchema strict fields) (spelled : schema.Spells fields) :
    ∀ placed ∈ schema.placedConditions, Condition.EachHasMembers placed.2 := by
  intro placed member
  obtain ⟨solution, among, member⟩ := List.mem_flatMap.mp member
  obtain ⟨node, inside, member⟩ := List.mem_flatMap.mp member
  obtain ⟨own, valid, spelled⟩ := Schema.exists_validNode valid spelled among inside
  exact AttributeNode.eachHasMembers_of_spells valid spelled placed member

theorem Wire.fitsPlain_nesting (bound : Nat) : FitsPlain fun field => field.2.nesting ≤ bound + 2 where
  text _ _ := by simp
  flag _ _ := by simp
  number _ _ := by simp
  kinds kinds := by
    refine nesting_list_map_le_iff.mpr fun kind _ => ?_
    simp
  choices choices := by
    refine nesting_list_map_le_iff.mpr fun choice _ => nesting_record_le_iff.mpr ?_
    simp

theorem Attribute.nesting_toEntry_le_iff {declared : Attribute}
    (full : Condition.EachHasMembers (declared.conditions.getD [])) {bound : Nat} :
    declared.toEntry.nesting ≤ 2 * bound + 3
      ↔ Condition.allLevels (declared.conditions.getD []) ≤ bound + 1 := by
  rw [toEntry, nesting_record_le_iff, List.forall_mem_cons,
    declared.forall_mem_toFields (fitsPlain_nesting (2 * bound)),
    Condition.forall_mem_nesting_le_iff full]
  exact and_iff_right ((fitsPlain_nesting (2 * bound)).text _ _)

theorem AttributeNode.nesting_toDocument_le_iff {node : AttributeNode}
    (full : ∀ placed ∈ node.placedConditions, Condition.EachHasMembers placed.2) {bound : Nat} :
    node.toDocument.nesting ≤ 2 * bound + 5
      ↔ ∀ placed ∈ node.placedConditions, Condition.allLevels placed.2 + placed.1 ≤ bound + 2 := by
  cases node with
  | single declared =>
    rw [placedConditions, List.forall_mem_singleton] at full ⊢
    exact @Attribute.nesting_toEntry_le_iff declared full (bound + 1)
  | group gathered =>
    rw [placedConditions, List.forall_mem_cons, List.forall_mem_map] at full ⊢
    obtain ⟨own, members⟩ := full
    have plain := fitsPlain_nesting (2 * bound + 2)
    have conditions := @Condition.forall_mem_nesting_le_iff _ own (bound + 1)
    have entries : (Document.list (gathered.attributes.map Attribute.toEntry)).nesting
        ≤ 2 * bound + 4 ↔ ∀ member ∈ gathered.attributes,
          Condition.allLevels (member.conditions.getD []) + 1 ≤ bound + 2 := by
      rw [nesting_list_map_le_iff]
      refine forall₂_congr fun member among => ?_
      rw [Attribute.nesting_toEntry_le_iff (members member among), Nat.add_le_add_iff_right]
    rw [toDocument, nesting_record_le_iff, List.forall_mem_cons,
      gathered.forall_mem_toFields plain, and_iff_right (plain.text _ _), and_comm]
    exact and_congr conditions entries

theorem Script.nesting_toDocument_le (script : Script) (bound : Nat) :
    script.toDocument.nesting ≤ bound + 3 :=
  nesting_record_le_iff.mpr (script.forall_mem_toFields (fitsPlain_nesting bound))

theorem Solution.nesting_toDocument_le_iff {solution : Solution}
    (full : ∀ node ∈ solution.attributes, ∀ placed ∈ node.placedConditions,
      Condition.EachHasMembers placed.2) {bound : Nat} :
    solution.toDocument.nesting ≤ 2 * bound + 7
      ↔ ∀ node ∈ solution.attributes, ∀ placed ∈ node.placedConditions,
        Condition.allLevels placed.2 + placed.1 ≤ bound + 2 := by
  have nodes : (Document.list (solution.attributes.map AttributeNode.toDocument)).nesting
      ≤ 2 * bound + 6 ↔ ∀ node ∈ solution.attributes, ∀ placed ∈ node.placedConditions,
        Condition.allLevels placed.2 + placed.1 ≤ bound + 2 := by
    rw [nesting_list_map_le_iff]
    exact forall₂_congr fun node among => AttributeNode.nesting_toDocument_le_iff (full node among)
  have scripts : (Document.list (solution.scripts.map Script.toDocument)).nesting
      ≤ 2 * bound + 6 := by
    refine nesting_list_map_le_iff.mpr fun script _ => ?_
    exact script.nesting_toDocument_le (2 * bound + 2)
  rw [toDocument, nesting_record_le_iff, ← nodes]
  simp [scripts]

/-- **How deep the written form of a schema is nested**: two for every level of conditions, two for
every group around them, and seven around all. -/
theorem Schema.nesting_toDocument_le_iff {schema : Schema}
    (full : ∀ placed ∈ schema.placedConditions, Condition.EachHasMembers placed.2) {bound : Nat} :
    schema.toDocument.nesting ≤ 2 * bound + 9
      ↔ ∀ placed ∈ schema.placedConditions,
        Condition.allLevels placed.2 + placed.1 ≤ bound + 2 := by
  simp only [placedConditions, List.forall_mem_flatMap] at full ⊢
  have solutions : (Document.list (schema.solutions.map Solution.toDocument)).nesting
      ≤ 2 * bound + 8 ↔ ∀ solution ∈ schema.solutions, ∀ node ∈ solution.attributes,
        ∀ placed ∈ node.placedConditions,
          Condition.allLevels placed.2 + placed.1 ≤ bound + 2 := by
    rw [nesting_list_map_le_iff]
    exact forall₂_congr fun solution among =>
      Solution.nesting_toDocument_le_iff (full solution among)
  rw [toDocument, nesting_record_le_iff, ← solutions]
  simp

end PageAttributes
