/-
**What an attribute or a group waits for.**

* `Catalog.Has`, `Catalog.IsNumbered` — a node of a catalog; every group that is named by an
  attribute is one;
* `Catalog.Depends` — a node waits for the attributes that its conditions read, and an attribute for
  its group;
* `Catalog.not_cyclic_of_acyclic` — if no attribute reads itself over others, no node waits for
  itself;
* `Catalog.length_le_of_nodup` — there are only so many nodes.

A cycle may lead through groups, which read but are not read. Seen from an attribute on it, a group
is nothing but the way from one of its members to what they all read.
-/

import Mathlib.Data.Finset.Card
import PageAttributes.Proofs.Document.Lookup
import PageAttributes.Proofs.Grammar.Typed

namespace PageAttributes.Catalog

variable {catalog : Catalog}

/-! ### Nodes -/

/-- A catalog has a node. -/
def Has (catalog : Catalog) : Node → Prop
  | .attribute position => position < catalog.attributes.length
  | .group number => number < catalog.groups.length

/-- The groups of the attributes are groups of the catalog. -/
def IsNumbered (catalog : Catalog) : Prop :=
  ∀ entry ∈ catalog.attributes, ∀ number, entry.1 = some number → number < catalog.groups.length

/-- The conditions of a node. -/
def conditionsOf (catalog : Catalog) : Node → List Condition
  | .attribute position =>
    ((catalog.attributes[position]?).bind fun entry => entry.2.conditions).getD []
  | .group number => ((catalog.groups[number]?).bind AttributeGroup.conditions).getD []

/-- The ids that the conditions of a node read. -/
def readsOf (catalog : Catalog) (node : Node) : List String :=
  Condition.allLeafIds (catalog.conditionsOf node)

/-- A node waits for another one. -/
inductive Depends (catalog : Catalog) : Node → Node → Prop
  | reads (node : Node) (id : String) (position : Nat) (read : id ∈ catalog.readsOf node)
      (found : catalog.position? id = some position) : Depends catalog node (.attribute position)
  | inside (position number : Nat) (declared : Attribute)
      (there : catalog.attributes[position]? = some (some number, declared)) :
    Depends catalog (.attribute position) (.group number)

/-- The attribute under the number of an id has that id. -/
theorem getElem?_of_position? {id : String} {position : Nat}
    (found : catalog.position? id = some position) :
    ∃ entry, catalog.attributes[position]? = some entry ∧ entry.2.id = id := by
  obtain ⟨inside, same, _⟩ := List.findIdx?_eq_some_iff_getElem.mp found
  exact ⟨_, List.getElem?_eq_getElem inside, beq_iff_eq.mp same⟩

/-- Whatever a node waits for is a node. -/
theorem Depends.has (numbered : catalog.IsNumbered) {node next : Node}
    (depends : catalog.Depends node next) : catalog.Has next := by
  cases depends with
  | reads _ id position _ found =>
    obtain ⟨_, there, _⟩ := getElem?_of_position? found
    exact (List.getElem?_eq_some_iff.mp there).1
  | inside position number declared there =>
    exact numbered _ (List.mem_of_getElem? there) number rfl

theorem isNumbered_ofSolution (solution : Solution) : (ofSolution solution).IsNumbered := by
  intro entry member number inGroup
  have bound := lt_of_mem_numbered member inGroup
  rwa [Nat.zero_add, ← Solution.groups_eq] at bound

/-! ### How many nodes there are -/

/-- The nodes one after another, the groups behind the attributes. -/
def rank (catalog : Catalog) : Node → Nat
  | .attribute position => position
  | .group number => catalog.attributes.length + number

/-- Different nodes do not outnumber the attributes and groups. -/
theorem length_le_of_nodup {nodes : List Node} (distinct : nodes.Nodup)
    (known : ∀ node ∈ nodes, catalog.Has node) :
    nodes.length ≤ catalog.attributes.length + catalog.groups.length := by
  have different : (nodes.map catalog.rank).Nodup := by
    refine distinct.map_on fun first member second member' same => ?_
    have isThere := known first member
    have isThere' := known second member'
    obtain position | number := first <;> obtain position' | number' := second <;>
      simp only [rank, Has, Node.attribute.injEq, Node.group.injEq, reduceCtorEq]
        at same isThere isThere' ⊢ <;>
      omega
  have bounded : (nodes.map catalog.rank).toFinset
      ⊆ Finset.range (catalog.attributes.length + catalog.groups.length) := by
    intro number member
    obtain ⟨node, listed, rfl⟩ := List.mem_map.mp (List.mem_toFinset.mp member)
    have isThere := known node listed
    rw [Finset.mem_range]
    obtain position | number := node <;> simp only [rank, Has] at isThere ⊢ <;> omega
  have count := Finset.card_le_card bounded
  rwa [List.toFinset_card_of_nodup different, List.length_map, Finset.card_range] at count

/-! ### Cycles -/

/-- What an attribute reads over others, and the groups that stand around it. -/
def Reaches (catalog : Catalog) (start : String) : Node → Prop
  | .attribute position => ∃ entry : Option Nat × Attribute,
      catalog.attributes[position]? = some entry ∧
        Relation.TransGen catalog.outline.Reads start entry.2.id
  | .group number => ∃ declared : Attribute, (some number, declared) ∈ catalog.attributes ∧
        Relation.ReflTransGen catalog.outline.Reads start declared.id

/-- What the conditions of an attribute name is read by it. -/
theorem reads_of_own {position : Nat} {entry : Option Nat × Attribute}
    (there : catalog.attributes[position]? = some entry) {id : String}
    (read : id ∈ catalog.readsOf (.attribute position)) : catalog.outline.Reads entry.2.id id := by
  simp only [readsOf, conditionsOf, there, Option.bind_some] at read
  exact ⟨entry.2.declaration entry.1, List.mem_map_of_mem (List.mem_of_getElem? there), rfl,
    Or.inl read⟩

theorem groupReads_outline (catalog : Catalog) (number : Nat) :
    catalog.outline.groupReads (some number) = catalog.readsOf (.group number) := by
  simp only [Grammar.Outline.groupReads, outline, readsOf, conditionsOf, List.getElem?_map]
  cases catalog.groups[number]? <;> rfl

/-- What the conditions of a group name is read by its members. -/
theorem reads_of_group {number : Nat} {declared : Attribute}
    (member : (some number, declared) ∈ catalog.attributes) {id : String}
    (read : id ∈ catalog.readsOf (.group number)) : catalog.outline.Reads declared.id id := by
  refine ⟨declared.declaration (some number), List.mem_map_of_mem member, rfl, Or.inr ?_⟩
  rwa [Attribute.declaration, groupReads_outline]

/-- Whoever gets to a node gets to what the node waits for. -/
theorem Reaches.step {start : String} {node next : Node} (reaches : catalog.Reaches start node)
    (depends : catalog.Depends node next) : catalog.Reaches start next := by
  cases depends with
  | reads _ id target read found =>
    obtain ⟨entry, there, rfl⟩ := getElem?_of_position? found
    refine ⟨entry, there, ?_⟩
    match node with
    | .attribute position =>
      obtain ⟨before, here, path⟩ := reaches
      exact path.tail (reads_of_own here read)
    | .group number =>
      obtain ⟨declared, member, path⟩ := reaches
      exact Relation.TransGen.tail' path (reads_of_group member read)
  | inside position number declared there =>
    obtain ⟨before, here, path⟩ := reaches
    cases here.symm.trans there
    exact ⟨declared, List.mem_of_getElem? there, path.to_reflTransGen⟩

/-- An attribute gets to all that it waits for, however far away. -/
theorem reaches_of_transGen {position : Nat} {entry : Option Nat × Attribute}
    (there : catalog.attributes[position]? = some entry) {node : Node}
    (path : Relation.TransGen catalog.Depends (.attribute position) node) :
    catalog.Reaches entry.2.id node := by
  induction path with
  | single depends =>
    cases depends with
    | reads _ id target read found =>
      obtain ⟨next, there', rfl⟩ := getElem?_of_position? found
      exact ⟨next, there', .single (reads_of_own there read)⟩
    | inside _ number declared here =>
      cases there.symm.trans here
      exact ⟨declared, List.mem_of_getElem? here, .refl⟩
  | tail _ depends ih => exact ih.step depends

/-- **If no attribute reads itself over others, nothing waits for itself.** A way that leads from a
group back to it leads over an attribute, and from there back to that attribute. -/
theorem not_cyclic_of_acyclic (acyclic : catalog.outline.Acyclic) (node : Node) :
    ¬ Relation.TransGen catalog.Depends node node := by
  have atAttribute : ∀ position, ¬ Relation.TransGen catalog.Depends (.attribute position)
      (.attribute position) := by
    intro position cycle
    obtain ⟨last, _, depends⟩ := Relation.TransGen.tail'_iff.mp cycle
    have isThere : ∃ entry, catalog.attributes[position]? = some entry := by
      cases depends with
      | reads _ id _ _ found =>
        obtain ⟨entry, there, _⟩ := getElem?_of_position? found
        exact ⟨entry, there⟩
    obtain ⟨entry, there⟩ := isThere
    obtain ⟨again, there', path⟩ := reaches_of_transGen there cycle
    cases there.symm.trans there'
    exact acyclic _ path
  intro cycle
  match node with
  | .attribute position => exact atAttribute position cycle
  | .group number =>
    obtain ⟨next, depends, path⟩ := Relation.TransGen.head'_iff.mp cycle
    obtain ⟨position, rfl⟩ : ∃ position, next = .attribute position := by
      cases depends with
      | reads _ _ position => exact ⟨position, rfl⟩
    exact atAttribute position (Relation.TransGen.tail' path depends)

end PageAttributes.Catalog
