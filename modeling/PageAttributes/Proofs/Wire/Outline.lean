/-
**What a document spells has its outline.**

* `Solution.outline_of_spells` — a typed solution and a record that spells it have one outline;
* `Solution.isShallow_of_spells` — where the record is well-shaped, no condition of the solution is
  nested deeper than conditions may be;
* `Schema.Keeps` — both, for every solution of a schema;
* `Schema.wellNamed_iff` — the names of a document are those of the schema that it spells.
-/

import PageAttributes.Proofs.Grammar.Shape
import PageAttributes.Proofs.Wire.Spelling

namespace PageAttributes

open Wire Grammar

variable {strict : Bool} {fields : Fields}

/-- What is spelled among some items is spelled by one of them. -/
theorem Wire.exists_mem_of_forall₂ {α : Type} {spells : Document → α → Prop}
    {items : List Document} {values : List α} (spelled : List.Forall₂ spells items values)
    {value : α} (member : value ∈ values) : ∃ item ∈ items, spells item value := by
  induction spelled with
  | nil => cases member
  | cons first _ ih =>
    rcases List.mem_cons.mp member with rfl | later
    · exact ⟨_, .head _, first⟩
    · obtain ⟨item, inside, spells⟩ := ih later
      exact ⟨item, .tail _ inside, spells⟩

/-! ### Conditions -/

namespace Condition

mutual

/-- A condition names the ids that the leaves of its document name. -/
theorem leafIds_of_spells : ∀ (condition : Condition) (document : Document),
    Spells document condition → Grammar.leafIds document = condition.leafIds
  | .leaf id expected, .record fields, spelled => by
    rw [Spells] at spelled
    obtain ⟨type, named, _⟩ := spelled
    simp [Condition.leafIds, Grammar.leafIds, textOf?, type, named]
  | .group operator members, .record fields, spelled => by
    rw [Spells] at spelled
    obtain ⟨type, _, items, listed, each⟩ := spelled
    have inside := leafIdsOfEach_of_spellEach members items each
    simp [Condition.leafIds, Grammar.leafIds, textOf?, type, leafIdsUnder_eq, listed, leafIdsOf,
      inside]

theorem leafIdsOfEach_of_spellEach : ∀ (members : List Condition) (items : List Document),
    SpellEach items members → leafIdsOfEach items = allLeafIds members
  | [], [], _ => by rw [leafIdsOfEach, allLeafIds]
  | member :: members, item :: items, spelled => by
    rw [SpellEach] at spelled
    rw [leafIdsOfEach, allLeafIds, leafIds_of_spells member item spelled.1,
      leafIdsOfEach_of_spellEach members items spelled.2]

end

mutual

/-- A condition has no more levels than its document. -/
theorem levels_le_of_spells : ∀ (condition : Condition) (document : Document) (levels : Nat),
    ValidCondition strict levels document → Spells document condition →
      condition.levels ≤ levels
  | .leaf id expected, .record fields, levels, valid, _ => by
    rw [Condition.levels]
    cases valid <;> omega
  | .group operator members, .record fields, levels, valid, spelled => by
    rw [Spells] at spelled
    obtain ⟨type, _, items, listed, each⟩ := spelled
    cases valid with
    | leaf _ _ isLeaf =>
      rw [isLeaf] at type
      simp at type
    | group levels _ others _ _ _ othersListed _ valid =>
      cases listed.symm.trans othersListed
      rw [Condition.levels]
      exact Nat.succ_le_succ (allLevels_le_of_spellEach members items levels valid each)

theorem allLevels_le_of_spellEach : ∀ (members : List Condition) (items : List Document)
    (levels : Nat), (∀ item ∈ items, ValidCondition strict levels item) →
      SpellEach items members → allLevels members ≤ levels
  | [], [], _, _, _ => by
    rw [allLevels]
    exact Nat.zero_le _
  | member :: members, item :: items, levels, valid, spelled => by
    rw [SpellEach] at spelled
    obtain ⟨first, others⟩ := List.forall_mem_cons.mp valid
    rw [allLevels]
    exact Nat.max_le.mpr ⟨levels_le_of_spells member item levels first spelled.1,
      allLevels_le_of_spellEach members items levels others spelled.2⟩

end

end Condition

/-- The conditions of a restriction read what those of its record read. -/
theorem Wire.SpellsRestrictions.reads {nodeTypes : Option (List NodeType)}
    {conditions : Option (List Condition)}
    (spelled : SpellsRestrictions fields nodeTypes conditions) :
    readsOf fields = Condition.allLeafIds (conditions.getD []) := by
  have spelled := spelled.conditions
  cases conditions with
  | none =>
    have missing : fields.lookup "conditions" = none := spelled
    rw [readsOf, listOf, missing, leafIdsOfEach, Option.getD_none, Condition.allLeafIds]
  | some conditions =>
    obtain ⟨items, listed, each⟩ := spelled
    rw [readsOf, listOf_of_lookup listed]
    exact Condition.leafIdsOfEach_of_spellEach conditions items (Condition.spellEach_iff.mpr each)

/-- The conditions of a restriction are not nested deeper than those of its record may be. -/
theorem Wire.SpellsRestrictions.shallow {nodeTypes : Option (List NodeType)}
    {conditions : Option (List Condition)} (valid : ValidRestrictions strict fields)
    (spelled : SpellsRestrictions fields nodeTypes conditions) :
    Condition.allLevels (conditions.getD []) ≤ Condition.depthLimit := by
  have spelled := spelled.conditions
  cases conditions with
  | none =>
    rw [Option.getD_none, Condition.allLevels]
    exact Nat.zero_le _
  | some conditions =>
    obtain ⟨items, listed, each⟩ := spelled
    obtain ⟨others, same, valid⟩ := valid.conditions _ listed
    cases same
    exact Condition.allLevels_le_of_spellEach conditions items _ valid
      (Condition.spellEach_iff.mpr each)

/-! ### Attributes and groups -/

theorem Attribute.Spells.declaration {declared : Attribute} (spelled : declared.Spells fields)
    (group : Option Nat) : declarationOf group fields = [declared.declaration group] := by
  simp [declarationOf, textOf?, spelled.id, Attribute.declaration, spelled.restrictions.reads]

/-- The members of a group keep their ids and what they read. -/
theorem Attribute.declaration_of_forall₂ {items : List Document} {members : List Attribute}
    (spelled : List.Forall₂ (SpellsRecord Attribute.SpellsEntry) items members) (number : Nat) :
    items.flatMap (memberDeclaration number)
      = members.map (Attribute.declaration (some number)) := by
  induction spelled with
  | nil => rfl
  | cons first _ ih =>
    obtain ⟨fields, rfl, type, spelled⟩ := first
    have isAttribute : textOf? fields "type" = some "attribute" := by rw [textOf?, type]
    rw [List.flatMap_cons, ih, memberDeclaration, if_pos isAttribute, spelled.declaration]
    rfl

namespace AttributeNode

/-- The attributes of a list of entries keep their ids, their groups and what they read. -/
theorem declarations_of_forall₂ {items : List Document} {nodes : List AttributeNode}
    (spelled : List.Forall₂ (SpellsRecord Spells) items nodes) (number : Nat) :
    declarations number items
      = (Catalog.numbered number nodes).map fun entry => entry.2.declaration entry.1 := by
  induction spelled generalizing number with
  | nil => rfl
  | @cons item node _ _ first _ ih =>
    obtain ⟨fields, rfl, spelled⟩ := first
    cases node with
    | single declared =>
      obtain ⟨type, spelled⟩ := spelled
      simp [declarations, Catalog.numbered, textOf?, type, spelled.declaration, ih]
    | group gathered =>
      obtain ⟨type, spelled⟩ := spelled
      obtain ⟨members, listed, each⟩ := spelled.attributes
      simp [declarations, Catalog.numbered, textOf?, type, ih, listOf_of_lookup listed,
        Attribute.declaration_of_forall₂ each, Function.comp_def]

/-- The groups of a list of entries keep what they read. -/
theorem gatheredReads_of_forall₂ {items : List Document} {nodes : List AttributeNode}
    (spelled : List.Forall₂ (SpellsRecord Spells) items nodes) :
    gatheredReads items
      = (nodes.filterMap AttributeNode.group?).map fun group =>
          Condition.allLeafIds (group.conditions.getD []) := by
  induction spelled with
  | nil => rfl
  | @cons item node _ _ first _ ih =>
    obtain ⟨fields, rfl, spelled⟩ := first
    cases node with
    | single declared =>
      have isAttribute : textOf? fields "type" = some "attribute" := by
        rw [textOf?, spelled.type]
      rw [gatheredReads, if_neg (by rw [isAttribute]; decide), ih, AttributeNode.filterMap_single]
    | group gathered =>
      have isGroup : textOf? fields "type" = some "group" := by rw [textOf?, spelled.1]
      rw [gatheredReads, if_pos isGroup, ih, spelled.2.restrictions.reads,
        AttributeNode.filterMap_group, List.map_cons]

end AttributeNode

/-- Every attribute of a catalog is an entry of its own or a member of a group. -/
theorem Catalog.mem_numbered {number : Nat} {nodes : List AttributeNode}
    {entry : Option Nat × Attribute} (member : entry ∈ Catalog.numbered number nodes) :
    AttributeNode.single entry.2 ∈ nodes
      ∨ ∃ group, AttributeNode.group group ∈ nodes ∧ entry.2 ∈ group.attributes := by
  induction nodes generalizing number with
  | nil => cases member
  | cons node rest ih =>
    cases node with
    | single declared =>
      rcases List.mem_cons.mp member with rfl | later
      · exact Or.inl (.head _)
      · exact (ih later).imp (.tail _) fun ⟨group, listed, inside⟩ => ⟨group, .tail _ listed, inside⟩
    | group gathered =>
      rcases List.mem_append.mp member with inside | later
      · obtain ⟨declared, listed, rfl⟩ := List.mem_map.mp inside
        exact Or.inr ⟨gathered, .head _, listed⟩
      · exact (ih later).imp (.tail _) fun ⟨group, listed, inside⟩ => ⟨group, .tail _ listed, inside⟩

/-! ### Solutions and schemas -/

/-- **A typed solution and a record that spells it have one outline.** -/
theorem Solution.outline_of_spells {solution : Solution} (spelled : solution.Spells fields) :
    (Catalog.ofSolution solution).outline = Outline.ofFields fields := by
  obtain ⟨items, listed, each⟩ := spelled.attributes
  rw [Outline.ofFields, listOf_of_lookup listed, AttributeNode.declarations_of_forall₂ each,
    AttributeNode.gatheredReads_of_forall₂ each, Catalog.outline, Catalog.ofSolution,
    Solution.groups_eq]

/-- The conditions of a well-shaped attribute are not nested deeper than they may be. -/
theorem Attribute.isShallow_of_spells {declared : Attribute} (valid : ValidAttribute strict fields)
    (spelled : declared.Spells fields) : declared.IsShallow :=
  spelled.restrictions.shallow valid.restrictions

/-- The same for a group and its members. -/
theorem AttributeGroup.isShallow_of_spells {group : AttributeGroup}
    (valid : ValidGroup strict fields) (spelled : group.Spells fields) :
    group.IsShallow ∧ ∀ declared ∈ group.attributes, declared.IsShallow := by
  refine ⟨spelled.restrictions.shallow valid.restrictions, fun declared member => ?_⟩
  obtain ⟨items, listed, each⟩ := spelled.attributes
  obtain ⟨others, same, _, valid⟩ := valid.members
  cases listed.symm.trans same
  obtain ⟨item, inside, its, rfl, spelled⟩ := exists_mem_of_forall₂ each member
  obtain ⟨_, same, valid⟩ := valid _ inside
  cases same
  exact Attribute.isShallow_of_spells valid.declared spelled.declared

/-- An entry of a well-shaped solution is spelled by a well-shaped record. -/
theorem Solution.exists_validNode {solution : Solution} (valid : ValidSolution strict fields)
    (spelled : solution.Spells fields) {node : AttributeNode}
    (member : node ∈ solution.attributes) : ∃ its, ValidNode strict its ∧ node.Spells its := by
  obtain ⟨items, listed, each⟩ := spelled.attributes
  obtain ⟨others, same, valid⟩ := valid.attributes
  cases listed.symm.trans same
  obtain ⟨item, inside, its, rfl, spelled⟩ := exists_mem_of_forall₂ each member
  obtain ⟨_, same, valid⟩ := valid _ inside
  cases same
  exact ⟨its, valid, spelled⟩

/-- An entry of a solution of a well-shaped schema is spelled by a well-shaped record. -/
theorem Schema.exists_validNode {schema : Schema} (valid : ValidSchema strict fields)
    (spelled : schema.Spells fields) {solution : Solution} (among : solution ∈ schema.solutions)
    {node : AttributeNode} (member : node ∈ solution.attributes) :
    ∃ its, ValidNode strict its ∧ node.Spells its := by
  obtain ⟨items, listed, each⟩ := spelled.solutions
  obtain ⟨others, same, shapes⟩ := valid.solutions
  cases listed.symm.trans same
  obtain ⟨_, there, its, rfl, spelled⟩ := exists_mem_of_forall₂ each among
  obtain ⟨_, same, valid⟩ := shapes _ there
  cases same
  exact Solution.exists_validNode valid spelled member

/-- No condition of a well-shaped solution is nested deeper than conditions may be. -/
theorem Solution.isShallow_of_spells {solution : Solution} (valid : ValidSolution strict fields)
    (spelled : solution.Spells fields) : (Catalog.ofSolution solution).IsShallow := by
  have single : ∀ declared, AttributeNode.single declared ∈ solution.attributes →
      declared.IsShallow := by
    intro declared member
    obtain ⟨its, valid, type, spelled⟩ := Solution.exists_validNode valid spelled member
    cases valid with
    | single _ valid => exact Attribute.isShallow_of_spells valid spelled
    | group isGroup =>
      rw [isGroup] at type
      simp at type
  have gathered : ∀ group, AttributeNode.group group ∈ solution.attributes →
      group.IsShallow ∧ ∀ declared ∈ group.attributes, declared.IsShallow := by
    intro group member
    obtain ⟨its, valid, type, spelled⟩ := Solution.exists_validNode valid spelled member
    cases valid with
    | single isAttribute =>
      rw [isAttribute] at type
      simp at type
    | group _ valid => exact AttributeGroup.isShallow_of_spells valid spelled
  constructor
  · intro entry member
    rcases Catalog.mem_numbered member with alone | ⟨group, listed, inside⟩
    · exact single _ alone
    · exact (gathered group listed).2 _ inside
  · intro group member
    rw [Catalog.ofSolution, Solution.groups_eq] at member
    obtain ⟨node, listed, same⟩ := List.mem_filterMap.mp member
    cases node with
    | single _ => cases same
    | group _ =>
      cases same
      exact (gathered group listed).1

/-- A solution that was read keeps its outline. -/
structure Solution.Keeps (fields : Fields) (solution : Solution) : Prop where
  outline : (Catalog.ofSolution solution).outline = Outline.ofFields fields
  shallow : (Catalog.ofSolution solution).IsShallow

/-- What is kept of a solution in a list. -/
def Solution.KeepsItem (document : Document) (solution : Solution) : Prop :=
  ∃ fields, document = .record fields ∧ solution.Keeps fields

/-- A schema that was read keeps the outlines of its solutions. -/
def Schema.Keeps (fields : Fields) (schema : Schema) : Prop :=
  List.Forall₂ Solution.KeepsItem (listOf fields "solutions") schema.solutions

/-- Every solution that was read keeps the outline of an item of the document. -/
theorem Schema.Keeps.of_mem {schema : Schema} (kept : schema.Keeps fields) {solution : Solution}
    (member : solution ∈ schema.solutions) :
    ∃ its, Document.record its ∈ listOf fields "solutions" ∧ solution.Keeps its := by
  obtain ⟨_, inside, its, rfl, keeps⟩ := exists_mem_of_forall₂ kept member
  exact ⟨its, inside, keeps⟩

/-- Well-shaped solutions keep their outlines one by one. -/
theorem Solution.keepsItem_of_forall₂ {items : List Document} {solutions : List Solution}
    (spelled : List.Forall₂ (SpellsRecord Solution.Spells) items solutions)
    (valid : ∀ item ∈ items, IsRecord (ValidSolution strict) item) :
    List.Forall₂ Solution.KeepsItem items solutions := by
  induction spelled with
  | nil => exact .nil
  | cons first _ ih =>
    obtain ⟨shape, shapes⟩ := List.forall_mem_cons.mp valid
    obtain ⟨its, rfl, spelled⟩ := first
    obtain ⟨_, same, valid⟩ := shape
    cases same
    have kept : Solution.Keeps its _ :=
      ⟨Solution.outline_of_spells spelled, Solution.isShallow_of_spells valid spelled⟩
    exact .cons ⟨its, rfl, kept⟩ (ih shapes)

/-- What a well-shaped document spells keeps the outlines of its solutions. -/
theorem Schema.keeps_of_spells {schema : Schema} (valid : ValidSchema strict fields)
    (spelled : schema.Spells fields) : schema.Keeps fields := by
  obtain ⟨items, listed, each⟩ := spelled.solutions
  obtain ⟨others, same, valid⟩ := valid.solutions
  cases listed.symm.trans same
  rw [Schema.Keeps, listOf_of_lookup listed]
  exact Solution.keepsItem_of_forall₂ each valid

/-! ### Names -/

/-- The names in a solution that was read. -/
structure Solution.IsWellNamed (detectCycles : Bool) (solution : Solution) : Prop where
  scripts : (solution.scripts.map Script.id).Nodup
  sound : (Catalog.ofSolution solution).outline.Sound
  acyclic : detectCycles = true → (Catalog.ofSolution solution).outline.Acyclic

/-- The names in a schema that was read. -/
structure Schema.IsWellNamed (detectCycles : Bool) (schema : Schema) : Prop where
  solutions : (schema.solutions.map Solution.id).Nodup
  each : ∀ solution ∈ schema.solutions, solution.IsWellNamed detectCycles

/-- Records that spell values have the texts of the values under their key. -/
theorem Wire.textsUnder_of_forall₂ {α : Type} {spells : Fields → α → Prop} {key : String}
    {items : List Document} {values : List α}
    (spelled : List.Forall₂ (SpellsRecord spells) items values) (textOf : α → String)
    (written : ∀ fields value, spells fields value →
      fields.lookup key = some (.text (textOf value))) :
    textsUnder key items = values.map textOf := by
  induction spelled with
  | nil => rfl
  | cons first _ ih =>
    obtain ⟨fields, rfl, spelled⟩ := first
    rw [textsUnder_cons (textOf?_eq_some_iff.mpr (written _ _ spelled)), ih, List.map_cons]

/-- The names of a record are those of the solution that it spells. -/
theorem Solution.validNames_iff {detectCycles : Bool} {solution : Solution}
    (spelled : solution.Spells fields) :
    ValidNames detectCycles fields ↔ solution.IsWellNamed detectCycles := by
  have outline := Solution.outline_of_spells spelled
  obtain ⟨scripts, listed, each⟩ := spelled.scripts
  have ids : textsUnder "id" (listOf fields "scripts") = solution.scripts.map Script.id := by
    rw [listOf_of_lookup listed, textsUnder_of_forall₂ each Script.id fun _ _ => Script.Spells.id]
  constructor
  · rintro ⟨unique, sound, acyclic⟩
    rw [ids] at unique
    rw [← outline] at sound acyclic
    exact ⟨unique, sound, acyclic⟩
  · rintro ⟨unique, sound, acyclic⟩
    rw [← ids] at unique
    rw [outline] at sound acyclic
    exact ⟨unique, sound, acyclic⟩

/-- The same for solutions one by one. -/
theorem Solution.validNames_iff_of_forall₂ {detectCycles : Bool} {items : List Document}
    {solutions : List Solution}
    (spelled : List.Forall₂ (SpellsRecord Solution.Spells) items solutions) :
    (∀ item ∈ items, IsRecord (ValidNames detectCycles) item)
      ↔ ∀ solution ∈ solutions, solution.IsWellNamed detectCycles := by
  induction spelled with
  | nil => simp
  | cons first _ ih =>
    obtain ⟨its, rfl, spelled⟩ := first
    rw [List.forall_mem_cons, List.forall_mem_cons, ih, ← Solution.validNames_iff spelled]
    simp [IsRecord]

/-- The names of a document are those of the schema that it spells. -/
theorem Schema.wellNamed_iff {detectCycles : Bool} {schema : Schema}
    (spelled : schema.Spells fields) :
    WellNamed detectCycles (.record fields) ↔ schema.IsWellNamed detectCycles := by
  obtain ⟨items, listed, each⟩ := spelled.solutions
  have ids := textsUnder_of_forall₂ each Solution.id fun _ _ => Solution.Spells.id
  have inside := @Solution.validNames_iff_of_forall₂ detectCycles _ _ each
  constructor
  · rintro ⟨_, ⟨⟩, unique, valid⟩
    rw [listOf_of_lookup listed] at unique valid
    exact ⟨ids ▸ unique, inside.mp valid⟩
  · rintro ⟨unique, valid⟩
    refine ⟨fields, rfl, ?_, ?_⟩ <;> rw [listOf_of_lookup listed]
    · exact ids ▸ unique
    · exact inside.mpr valid

end PageAttributes
