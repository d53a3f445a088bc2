/-
**The leaves of the conditions in a solution.**

* `LeafIn`, `LeafUnder` — a leaf in a condition of so many levels, and in the conditions of an
  attribute or a group;
* `mem_referencesOf_iff` — exactly these are found by the walk over conditions;
* `Leaf`, `Site.HasLeaf` — a leaf with what its condition belongs to, and the leaves of a solution;
* `Site.leaves`, `Site.mem_leaves_iff` — all leaves of a solution in their order;
* `Site.nodup_leaves` — no two of them stand at the same place.
-/

import PageAttributes.Proofs.Grammar.Sites
import PageAttributes.Proofs.Grammar.Within

namespace PageAttributes.Grammar

variable {path place : Path} {fields : Fields} {id : String}

/-! ### Leaves in a condition -/

/-- A condition of at most so many levels has a leaf, which names an id at a place. -/
inductive LeafIn : Nat → Path → Document → String → Path → Prop
  | leaf {levels : Nat} {path : Path} {fields : Fields} {id : String}
      (type : textOf? fields "type" = some "condition")
      (named : textOf? fields "attributeId" = some id) :
    LeafIn (levels + 1) path (.record fields) id (path.field "attributeId")
  | member {levels position : Nat} {path place : Path} {fields : Fields} {item : Document}
      {id : String} (type : textOf? fields "type" = some "group")
      (there : (listOf fields "conditions")[position]? = some item)
      (inner : LeafIn levels ((path.field "conditions").index position) item id place) :
    LeafIn (levels + 1) path (.record fields) id place

/-- The conditions of an attribute or a group have a leaf. They have at most `Condition.depthLimit`
levels. -/
def LeafUnder (site : Site) (id : String) (place : Path) : Prop :=
  ∃ position item, (listOf site.fields "conditions")[position]? = some item
    ∧ LeafIn Condition.depthLimit ((site.place.field "conditions").index position) item id place

/-- The walk over a condition finds its leaves. -/
theorem mem_referencesIn_iff (levels : Nat) :
    ∀ depth, Condition.depthLimit + 1 - depth = levels → ∀ path item,
      (id, place) ∈ referencesIn depth path item ↔ LeafIn levels path item id place := by
  -- The walk counts its depth upwards, so the levels that are left are what decreases.
  induction levels with
  | zero =>
    intro depth left path item
    rw [referencesIn_deep (by omega)]
    constructor <;> intro impossible <;> cases impossible
  | succ levels ih =>
    intro depth left path item
    have notDeep : ¬ Condition.depthLimit < depth := by omega
    have inner := ih (depth + 1) (by omega)
    cases item with
    | record fields =>
      rw [referencesIn, if_neg notDeep]
      constructor
      · intro member
        split at member
        · rename_i type
          unfold leafReference at member
          split at member
          · rename_i named
            cases List.mem_singleton.mp member
            exact .leaf type named
          · cases member
        · rename_i type
          rw [referencesInField_eq_eachItem, mem_eachItem_iff] at member
          obtain ⟨position, item, there, deeper⟩ := member
          rw [Nat.zero_add] at deeper
          exact .member type there ((inner _ _).mp deeper)
        · cases member
      · intro leaf
        cases leaf with
        | leaf type named =>
          rw [type, leafReference, named]
          exact List.mem_singleton.mpr rfl
        | @member _ position _ _ _ item _ type there deeper =>
          rw [type]
          show (id, place) ∈ referencesInField _ _ _
          rw [referencesInField_eq_eachItem, mem_eachItem_iff]
          refine ⟨position, item, there, ?_⟩
          rw [Nat.zero_add]
          exact (inner _ _).mpr deeper
    | _ => constructor <;> intro impossible <;> cases impossible

/-- **The walk over the conditions of an attribute or a group finds their leaves.** -/
theorem mem_referencesOf_iff (site : Site) :
    (id, place) ∈ referencesOf site.fields site.place ↔ LeafUnder site id place := by
  rw [referencesOf, referencesInEach_eq, mem_eachItem_iff, LeafUnder]
  simp only [Nat.zero_add, mem_referencesIn_iff Condition.depthLimit 1 (by omega)]

/-- No two references in a condition stand at the same place. -/
theorem nodup_referencesIn (levels : Nat) :
    ∀ depth, Condition.depthLimit + 1 - depth = levels → ∀ path item,
      ((referencesIn depth path item).map Prod.snd).Nodup := by
  induction levels with
  | zero =>
    intro depth left path item
    rw [referencesIn_deep (by omega)]
    exact List.nodup_nil
  | succ levels ih =>
    intro depth left path item
    have notDeep : ¬ Condition.depthLimit < depth := by omega
    cases item with
    | record fields =>
      rw [referencesIn, if_neg notDeep]
      split
      · unfold leafReference
        split
        · exact List.nodup_singleton _
        · exact List.nodup_nil
      · rw [referencesInField_eq_eachItem]
        exact nodup_map_eachItem (inside_referencesIn _ (depth + 1) rfl)
          (ih (depth + 1) (by omega)) _ 0
      · exact List.nodup_nil
    | _ => exact List.nodup_nil

theorem nodup_referencesOf (fields : Fields) (path : Path) :
    ((referencesOf fields path).map Prod.snd).Nodup := by
  rw [referencesOf, referencesInEach_eq]
  exact nodup_map_eachItem (inside_referencesIn Condition.depthLimit 1 (by omega))
    (nodup_referencesIn Condition.depthLimit 1 (by omega)) _ 0

/-! ### Leaves -/

/-- What a condition belongs to: an attribute with an id, or the group at a place. -/
inductive Holder where
  | attribute (id : String)
  | group (place : Path)

/-- A leaf of a condition: what the condition belongs to, and the id that is named, with its
place. -/
structure Leaf where
  holder : Holder
  id : String
  place : Path

/-- The leaves in the conditions of an attribute or a group. -/
def leavesOf (holder : Holder) (site : Site) : List Leaf :=
  (referencesOf site.fields site.place).map fun reference => ⟨holder, reference.1, reference.2⟩

/-- The leaves in the conditions of an attribute, if it has an id. -/
def Declared.leaves (declared : Declared) : List Leaf :=
  declared.id?.toList.flatMap fun id => leavesOf (.attribute id) declared.site

/-- The place of an entry of an attribute list, if it is a group. -/
def groupIn (node : Site) : List Path := if node.isOfType "group" then [node.place] else []

/-- The leaves in an entry of an attribute list: those of its attributes, then those of a group. -/
def leavesIn (node : Site) : List Leaf :=
  (declaredIn node).flatMap Declared.leaves
    ++ (groupIn node).flatMap fun place => leavesOf (.group place) node

theorem leavesIn_of_attribute {node : Site}
    (isAttribute : textOf? node.fields "type" = some "attribute") :
    leavesIn node = Declared.leaves ⟨node, none⟩ := by
  simp [leavesIn, declaredIn_of_attribute isAttribute, groupIn, Site.isOfType, isAttribute]

theorem leavesIn_of_group {node : Site} (isGroup : textOf? node.fields "type" = some "group") :
    leavesIn node
      = (node.members.map fun member => ⟨member, some node.place⟩).flatMap Declared.leaves
        ++ leavesOf (.group node.place) node := by
  simp [leavesIn, declaredIn_of_group isGroup, groupIn, Site.isOfType, isGroup]

theorem leavesIn_of_neither {node : Site}
    (notAttribute : textOf? node.fields "type" ≠ some "attribute")
    (notGroup : textOf? node.fields "type" ≠ some "group") : leavesIn node = [] := by
  simp [leavesIn, declaredIn, groupIn, Site.isOfType, notAttribute, notGroup]

/-- The groups of a solution. -/
def Site.groups (solution : Site) : List Path := (solution.under "attributes").flatMap groupIn

/-- The leaves of a solution. -/
def Site.leaves (solution : Site) : List Leaf := (solution.under "attributes").flatMap leavesIn

/-! ### Leaves of a solution -/

/-- A solution has a leaf: in the conditions of an attribute with an id, or of a group. -/
inductive Site.HasLeaf (solution : Site) : Leaf → Prop
  | inAttribute {declared : Declared} {own id : String} {place : Path}
      (among : declared ∈ solution.attributes) (named : declared.id? = some own)
      (under : LeafUnder declared.site id place) :
    solution.HasLeaf ⟨.attribute own, id, place⟩
  | inGroup {node : Site} {id : String} {place : Path} (among : node ∈ solution.under "attributes")
      (isGroup : node.isOfType "group" = true) (under : LeafUnder node id place) :
    solution.HasLeaf ⟨.group node.place, id, place⟩

theorem mem_leavesOf_iff {holder : Holder} {site : Site} {leaf : Leaf} :
    leaf ∈ leavesOf holder site ↔ leaf.holder = holder ∧ LeafUnder site leaf.id leaf.place := by
  rw [leavesOf, List.mem_map, ← mem_referencesOf_iff]
  constructor
  · rintro ⟨reference, member, rfl⟩
    exact ⟨rfl, member⟩
  · obtain ⟨_, id, place⟩ := leaf
    rintro ⟨rfl, member⟩
    exact ⟨(id, place), member, rfl⟩

/-- The leaves of a solution, one after another. -/
theorem Site.mem_leaves_iff (solution : Site) (leaf : Leaf) :
    leaf ∈ solution.leaves ↔ solution.HasLeaf leaf := by
  simp only [Site.leaves, leavesIn, List.mem_flatMap, List.mem_append, Declared.leaves,
    mem_leavesOf_iff, Option.mem_toList]
  constructor
  · rintro ⟨node, among,
      ⟨declared, here, own, named, holder, under⟩ | ⟨place, isGroup, holder, under⟩⟩
    · obtain ⟨_, id, place⟩ := leaf
      cases holder
      exact .inAttribute (List.mem_flatMap.mpr ⟨node, among, here⟩) named under
    · obtain ⟨_, id, place⟩ := leaf
      cases holder
      unfold groupIn at isGroup
      split at isGroup
      · rename_i isGroup'
        cases List.mem_singleton.mp isGroup
        exact .inGroup among isGroup' under
      · cases isGroup
  · intro has
    cases has with
    | inAttribute among named under =>
      obtain ⟨node, inside, here⟩ := List.mem_flatMap.mp among
      exact ⟨node, inside, Or.inl ⟨_, here, _, named, rfl, under⟩⟩
    | inGroup among isGroup under =>
      refine ⟨_, among, Or.inr ⟨_, ?_, rfl, under⟩⟩
      rw [groupIn, if_pos isGroup]
      exact List.mem_singleton.mpr rfl

/-! ### Places of leaves -/

theorem inside_leavesOf (holder : Holder) (site : Site) :
    ∀ leaf ∈ leavesOf holder site, site.place.field "conditions" <+: leaf.place :=
  List.forall_mem_map.mpr (inside_referencesOf site.fields site.place)

theorem nodup_leavesOf (holder : Holder) (site : Site) :
    ((leavesOf holder site).map Leaf.place).Nodup := by
  rw [leavesOf, List.map_map]
  exact nodup_referencesOf site.fields site.place

theorem inside_leaves (declared : Declared) :
    ∀ leaf ∈ declared.leaves, declared.site.place <+: leaf.place := by
  unfold Declared.leaves
  cases declared.id? with
  | none => exact List.forall_mem_nil _
  | some id =>
    rw [Option.toList_some, List.flatMap_singleton]
    exact fun leaf among => (List.prefix_append _ _).trans (inside_leavesOf _ _ leaf among)

theorem nodup_leaves (declared : Declared) : (declared.leaves.map Leaf.place).Nodup := by
  unfold Declared.leaves
  cases declared.id? with
  | none => exact List.nodup_nil
  | some id =>
    rw [Option.toList_some, List.flatMap_singleton]
    exact nodup_leavesOf _ declared.site

theorem inside_leavesIn (node : Site) : ∀ leaf ∈ leavesIn node, node.place <+: leaf.place := by
  refine List.forall_mem_append.mpr ⟨inside_declaredIn inside_leaves node, ?_⟩
  unfold groupIn
  split
  · rw [List.flatMap_singleton]
    exact fun leaf among => (List.prefix_append _ _).trans (inside_leavesOf _ node leaf among)
  · exact List.forall_mem_nil _

/-- The conditions of a group stand apart from its members. -/
theorem nodup_leavesIn (node : Site) : ((leavesIn node).map Leaf.place).Nodup := by
  by_cases isGroup : node.isOfType "group" = true
  · rw [leavesIn_of_group (beq_iff_eq.mp isGroup), List.map_append, List.nodup_append']
    refine ⟨nodup_map_members inside_leaves nodup_leaves node, nodup_leavesOf _ node,
      fun place inMembers own => ?_⟩
    obtain ⟨first, among, rfl⟩ := List.mem_map.mp inMembers
    obtain ⟨second, amongToo, same⟩ := List.mem_map.mp own
    have inConditions := inside_leavesOf _ node second amongToo
    rw [same] at inConditions
    have inAttributes := inside_members inside_leaves node first among
    have sameField := field_inj_of_prefix inAttributes inConditions
    exact absurd sameField (by decide)
  · rw [leavesIn, groupIn, if_neg isGroup, List.flatMap_nil, List.append_nil]
    exact nodup_map_declaredIn inside_leaves nodup_leaves node

/-- **No two leaves of a solution stand at the same place.** -/
theorem Site.nodup_leaves (solution : Site) : (solution.leaves.map Leaf.place).Nodup :=
  nodup_map_under inside_leavesIn nodup_leavesIn solution "attributes"

end PageAttributes.Grammar
