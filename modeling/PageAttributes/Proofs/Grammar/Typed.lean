/-
**The outline of a typed solution.**

* `Condition.leafIds`, `Condition.levels` — the ids that the leaves of a condition name, and how
  deep it is nested;
* `Catalog.map_ofSolution` — the catalog of a solution lists its attributes in their groups;
* `Catalog.outline` — what the conditions of a solution read;
* `Catalog.IsShallow` — no condition is nested deeper than conditions may be.
-/

import PageAttributes.Proofs.Grammar.Outline
import PageAttributes.Visibility.Catalog

namespace PageAttributes

/-! ### Conditions -/

namespace Condition

mutual

/-- The ids that the leaves of a condition name, in their order. -/
def leafIds : Condition → List String
  | .leaf attributeId _ => [attributeId]
  | .group _ members => allLeafIds members

/-- The ids that the leaves of some conditions name, one condition after another. -/
def allLeafIds : List Condition → List String
  | [] => []
  | member :: rest => leafIds member ++ allLeafIds rest

end

mutual

/-- How deep a condition is nested. -/
def levels : Condition → Nat
  | .leaf _ _ => 1
  | .group _ members => allLevels members + 1

/-- How deep the deepest of some conditions is nested. -/
def allLevels : List Condition → Nat
  | [] => 0
  | member :: rest => max (levels member) (allLevels rest)

end

end Condition

/-! ### Attributes and groups -/

/-- An attribute, as the conditions of its solution see it. -/
def Attribute.declaration (group : Option Nat) (declared : Attribute) : Grammar.Declaration :=
  ⟨declared.id, group, Condition.allLeafIds (declared.conditions.getD [])⟩

/-- No condition of an attribute is nested deeper than conditions may be. -/
def Attribute.IsShallow (declared : Attribute) : Prop :=
  Condition.allLevels (declared.conditions.getD []) ≤ Condition.depthLimit

/-- No condition of a group is nested deeper than conditions may be. -/
def AttributeGroup.IsShallow (group : AttributeGroup) : Prop :=
  Condition.allLevels (group.conditions.getD []) ≤ Condition.depthLimit

/-- An entry that is a group. -/
def AttributeNode.group? : AttributeNode → Option AttributeGroup
  | .single _ => none
  | .group gathered => some gathered

@[simp] theorem AttributeNode.filterMap_single (declared : Attribute) (rest : List AttributeNode) :
    (single declared :: rest).filterMap group? = rest.filterMap group? := rfl

@[simp] theorem AttributeNode.filterMap_group (gathered : AttributeGroup)
    (rest : List AttributeNode) :
    (group gathered :: rest).filterMap group? = gathered :: rest.filterMap group? := rfl

theorem Solution.groups_eq (solution : Solution) :
    solution.groups = solution.attributes.filterMap AttributeNode.group? := by
  unfold Solution.groups
  congr 1
  funext node
  cases node <;> rfl

/-! ### Catalogs -/

namespace Catalog

/-- What the conditions of a catalog read. -/
def outline (catalog : Catalog) : Grammar.Outline :=
  ⟨catalog.attributes.map fun entry => entry.2.declaration entry.1,
    catalog.groups.map fun group => Condition.allLeafIds (group.conditions.getD [])⟩

/-- No condition is nested deeper than conditions may be. -/
structure IsShallow (catalog : Catalog) : Prop where
  attributes : ∀ entry ∈ catalog.attributes, entry.2.IsShallow
  groups : ∀ group ∈ catalog.groups, group.IsShallow

/-- The number of an attribute's group is the number of a group that is still to come. -/
theorem lt_of_mem_numbered {nodes : List AttributeNode} {first : Nat}
    {entry : Option Nat × Attribute} (member : entry ∈ numbered first nodes) {number : Nat}
    (inGroup : entry.1 = some number) :
    number < first + (nodes.filterMap AttributeNode.group?).length := by
  induction nodes generalizing first with
  | nil => cases member
  | cons node rest ih =>
    cases node with
    | single declared =>
      rcases List.mem_cons.mp member with rfl | member
      · cases inGroup
      · exact ih member
    | group gathered =>
      rw [AttributeNode.filterMap_group, List.length_cons]
      rcases List.mem_append.mp member with inside | member
      · obtain ⟨declared, _, rfl⟩ := List.mem_map.mp inside
        cases inGroup
        omega
      · have later := ih member
        omega

/-- Looked up by its number, every group is the one that its attributes stand in. -/
theorem map_numbered (before : List AttributeGroup) (nodes : List AttributeNode) :
    (numbered before.length nodes).map (fun entry => (entry.1.bind fun number =>
        (before ++ nodes.filterMap AttributeNode.group?)[number]?, entry.2))
      = nodes.flatMap AttributeNode.flat := by
  induction nodes generalizing before with
  | nil => rfl
  | cons node rest ih =>
    cases node with
    | single declared =>
      rw [numbered, List.map_cons, AttributeNode.filterMap_single, ih before]
      rfl
    | group gathered =>
      have later := ih (before ++ [gathered])
      rw [List.length_append, List.length_singleton, List.append_assoc, List.singleton_append]
        at later
      rw [numbered, List.map_append, AttributeNode.filterMap_group, later,
        List.flatMap_cons, AttributeNode.flat, List.map_map]
      simp [Function.comp_def]

/-- The catalog of a solution lists its attributes in their groups, in declaration order. -/
theorem map_ofSolution (solution : Solution) :
    (ofSolution solution).attributes.map (fun entry =>
        (entry.1.bind fun number => (ofSolution solution).groups[number]?, entry.2))
      = solution.flat := by
  have whole := map_numbered [] solution.attributes
  rw [List.nil_append, ← Solution.groups_eq] at whole
  exact whole

theorem length_attributes_ofSolution (solution : Solution) :
    (ofSolution solution).attributes.length = solution.flat.length := by
  rw [← map_ofSolution, List.length_map]

theorem ids_ofSolution (solution : Solution) :
    (ofSolution solution).attributes.map (fun entry => entry.2.id)
      = solution.flat.map fun entry => entry.2.id := by
  rw [← map_ofSolution, List.map_map]
  rfl

end Catalog

end PageAttributes
