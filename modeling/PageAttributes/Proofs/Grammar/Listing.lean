/-
**The index of a solution lists its attributes, its groups and the leaves of their conditions.**

An index refers to attributes and groups by number; the records themselves have places. Whatever the
shape of a solution is, both say the same.

* `forall_mem_of_forall₂` — a property carried from one list to another beside it;
* `SolutionIndex.Lists` — an index lists these attributes, these groups and these leaves;
* `SolutionIndex.Lists.addAttribute`, `SolutionIndex.Lists.addGroup`,
  `SolutionIndex.Lists.addNode` — an index goes on to list them while it grows. What was listed
  before keeps its number, since an index grows at its end;
* `SolutionIndex.lists_index` — the index of a solution lists what is in the solution.
-/

import PageAttributes.Proofs.Grammar.IndexPlaces
import PageAttributes.Proofs.Grammar.Leaves

namespace PageAttributes.Grammar

/-- What holds of all items on the right, and is carried over one by one, holds of all items on the
left. -/
theorem forall_mem_of_forall₂ {α β : Type} {depicts : α → β → Prop} {fits : α → Prop}
    {fitsToo : β → Prop} {items : List α} {others : List β}
    (related : List.Forall₂ depicts items others)
    (carried : ∀ item other, depicts item other → fitsToo other → fits item)
    (all : ∀ other ∈ others, fitsToo other) : ∀ item ∈ items, fits item := by
  induction related with
  | nil => exact List.forall_mem_nil _
  | cons here _ ih =>
    obtain ⟨first, rest⟩ := List.forall_mem_cons.mp all
    exact List.forall_mem_cons.mpr ⟨carried _ _ here first, ih rest⟩

/-- The index of a solution. -/
def Site.index (solution : Site) : SolutionIndex :=
  SolutionIndex.ofFields solution.place solution.fields

namespace SolutionIndex

/-! ### Records that are added -/

/-- The members of a group are added one after another, if they are attributes. -/
theorem addMembers_eq_foldl (group : Nat) (path : Path) (items : List Document) :
    ∀ (index : SolutionIndex) (position : Nat), index.addMembers group path position items
      = ((eachItem Site.ofDocument path position items).filter fun member =>
          member.isOfType "attribute").foldl
        (fun index member => index.addAttribute (some group) member.place member.fields) index := by
  induction items with
  | nil => exact fun _ _ => rfl
  | cons item rest ih =>
    intro index position
    rw [addMembers, ih, eachItem, List.filter_append, List.foldl_append]
    cases item with
    | record fields =>
      unfold addMember Site.ofDocument Site.isOfType
      by_cases isAttribute : textOf? fields "type" = some "attribute" <;> simp [isAttribute]
    | _ => rfl

/-- The entries of an attribute list are added one after another, if they are records. -/
theorem addNodes_eq_foldl (path : Path) (items : List Document) :
    ∀ (index : SolutionIndex) (position : Nat), index.addNodes path position items
      = (eachItem Site.ofDocument path position items).foldl
        (fun index node => index.addNode node.place (.record node.fields)) index := by
  induction items with
  | nil => exact fun _ _ => rfl
  | cons item rest ih =>
    intro index position
    rw [addNodes, ih, eachItem, List.foldl_append]
    cases item <;> rfl

/-! ### What is listed -/

/-- An attribute is listed with its id, its place and its group. -/
structure DepictsAttribute (groups : List Path) (entry : AttributeEntry) (declared : Declared) :
    Prop where
  id : declared.id? = some entry.id
  place : entry.path = declared.site.place
  group : (entry.group.map fun number => groups[number]?) = declared.group.map some

/-- What a number stands for. -/
def DepictsHolder (index : SolutionIndex) : Owner → Holder → Prop
  | .attribute position, .attribute id =>
    (index.attributes[position]?).map AttributeEntry.id = some id
  | .group number, .group place => index.groups[number]? = some place
  | _, _ => False

/-- A leaf is listed with the id that it names, its place and its holder. -/
structure DepictsLeaf (index : SolutionIndex) (reference : Reference) (leaf : Leaf) : Prop where
  id : reference.attributeId = leaf.id
  place : reference.path = leaf.place
  holder : DepictsHolder index reference.owner leaf.holder

/-- An index lists attributes, as far as they have an id, groups and leaves, in their order. -/
structure Lists (index : SolutionIndex) (declared : List Declared) (groups : List Path)
    (leaves : List Leaf) : Prop where
  attributes : List.Forall₂ (DepictsAttribute index.groups) index.attributes
    (declared.filter fun one => one.id?.isSome)
  groups : index.groups = groups
  leaves : List.Forall₂ (DepictsLeaf index) index.references leaves

variable {index after : SolutionIndex} {declared : List Declared} {places : List Path}
  {listed : List Leaf}

/-! ### What stays listed -/

theorem DepictsAttribute.extend {entry : AttributeEntry} {one : Declared} {more : List Path}
    (extends_ : places <+: more) (depicts : DepictsAttribute places entry one) :
    DepictsAttribute more entry one := by
  refine ⟨depicts.id, depicts.place, ?_⟩
  have inGroup := depicts.group
  cases number : entry.group with
  | none =>
    rw [number] at inGroup
    exact inGroup
  | some number' =>
    rw [number, Option.map_some] at inGroup
    obtain ⟨place, same, found⟩ := Option.map_eq_some_iff.mp inGroup.symm
    rw [Option.map_some, getElem?_of_prefix extends_ found.symm, same, Option.map_some]

theorem DepictsHolder.extend {owner : Owner} {holder : Holder} (extends_ : Extends index after)
    (depicts : DepictsHolder index owner holder) : DepictsHolder after owner holder := by
  match owner, holder, depicts with
  | .attribute position, .attribute id, found =>
    obtain ⟨entry, found, same⟩ := Option.map_eq_some_iff.mp found
    exact Option.map_eq_some_iff.mpr ⟨entry, getElem?_of_prefix extends_.attributes found, same⟩
  | .group number, .group place, found => exact getElem?_of_prefix extends_.groups found

theorem DepictsLeaf.extend {reference : Reference} {leaf : Leaf} (extends_ : Extends index after)
    (depicts : DepictsLeaf index reference leaf) : DepictsLeaf after reference leaf :=
  ⟨depicts.id, depicts.place, depicts.holder.extend extends_⟩

/-- The references in the conditions of a holder are its leaves. -/
theorem forall₂_ownedBy {owner : Owner} {holder : Holder}
    (depicts : DepictsHolder index owner holder) (site : Site) :
    List.Forall₂ (DepictsLeaf index) (ownedBy owner (referencesOf site.fields site.place))
      (leavesOf holder site) := by
  rw [ownedBy, leavesOf, List.forall₂_map_left_iff, List.forall₂_map_right_iff, List.forall₂_same]
  exact fun _ _ => ⟨rfl, rfl, depicts⟩

/-! ### Growing -/

/-- An attribute is listed next, if it has an id. -/
theorem Lists.addAttribute (lists : Lists index declared places listed) {group : Option Nat}
    (one : Declared) (inGroup : (group.map fun number => places[number]?) = one.group.map some) :
    Lists (index.addAttribute group one.site.place one.site.fields) (declared ++ [one]) places
      (listed ++ one.leaves) := by
  unfold SolutionIndex.addAttribute Declared.leaves
  rw [← Declared.id?]
  -- Without an id an attribute is left out, and so are its leaves.
  cases named : one.id? with
  | none =>
    have leftOut : (declared ++ [one]).filter (fun one => one.id?.isSome)
        = declared.filter fun one => one.id?.isSome := by simp [named]
    refine ⟨?_, lists.groups, ?_⟩
    · rw [leftOut]
      exact lists.attributes
    · rw [Option.toList_none, List.flatMap_nil, List.append_nil]
      exact lists.leaves
  | some id =>
    have kept : (declared ++ [one]).filter (fun one => one.id?.isSome)
        = (declared.filter fun one => one.id?.isSome) ++ [one] := by simp [named]
    refine ⟨?_, lists.groups, ?_⟩
    · rw [kept]
      have next : DepictsAttribute index.groups ⟨id, one.site.place, group⟩ one := by
        refine ⟨named, rfl, ?_⟩
        rw [lists.groups]
        exact inGroup
      exact List.rel_append lists.attributes (.cons next .nil)
    · rw [Option.toList_some, List.flatMap_singleton]
      refine List.rel_append (lists.leaves.imp fun _ _ depicts => depicts.extend ?_) ?_
      · refine forall₂_ownedBy ?_ one.site
        show Option.map _ (index.attributes ++ [_])[index.attributes.length]? = _
        rw [List.getElem?_concat_length, Option.map_some]
      · exact ⟨List.prefix_append _ _, List.prefix_refl _⟩

/-- The members of a group are listed next. -/
theorem Lists.addMembers {number : Nat} {group : Path} (found : places[number]? = some group)
    (members : List Site) :
    ∀ {index : SolutionIndex} {declared : List Declared} {listed : List Leaf},
      Lists index declared places listed →
        Lists (members.foldl (fun index member =>
            index.addAttribute (some number) member.place member.fields) index)
          (declared ++ members.map fun member => ⟨member, some group⟩) places
          (listed ++ (members.map fun member => ⟨member, some group⟩).flatMap Declared.leaves) := by
  induction members with
  | nil =>
    intro index declared listed lists
    simpa using lists
  | cons member rest ih =>
    intro index declared listed lists
    have inGroup : ((some number).map fun number => places[number]?) = (some group).map some := by
      rw [Option.map_some, Option.map_some, found]
    have next := ih (lists.addAttribute ⟨member, some group⟩ inGroup)
    rw [List.append_assoc, List.append_assoc] at next
    exact next

/-- A group is listed with its members, and then what its own conditions read. -/
theorem Lists.addGroup (lists : Lists index declared places listed) {node : Site}
    (isGroup : textOf? node.fields "type" = some "group") :
    Lists (index.addGroup node.place node.fields) (declared ++ declaredIn node)
      (places ++ groupIn node) (listed ++ leavesIn node) := by
  -- The group is listed before its members, so that its number stands for its place already.
  have opened : Lists { index with groups := index.groups ++ [node.place] } declared
      (places ++ [node.place]) listed := by
    refine ⟨?_, by rw [lists.groups], ?_⟩
    · exact lists.attributes.imp fun _ _ depicts => depicts.extend (List.prefix_append _ _)
    · refine lists.leaves.imp fun _ _ depicts => depicts.extend ?_
      exact ⟨List.prefix_refl _, List.prefix_append _ _⟩
  have found : (places ++ [node.place])[index.groups.length]? = some node.place := by
    rw [lists.groups, List.getElem?_concat_length]
  have gathered : Lists ({ index with groups := index.groups ++ [node.place] }.addMembers
      index.groups.length (node.place.field "attributes") 0 (listOf node.fields "attributes"))
      (declared ++ node.members.map fun member => ⟨member, some node.place⟩)
      (places ++ [node.place]) (listed ++
        (node.members.map fun member => ⟨member, some node.place⟩).flatMap Declared.leaves) := by
    rw [addMembers_eq_foldl]
    exact opened.addMembers found node.members
  have group : groupIn node = [node.place] := by simp [groupIn, Site.isOfType, isGroup]
  rw [leavesIn_of_group isGroup, declaredIn_of_group isGroup, group, ← List.append_assoc]
  refine ⟨gathered.attributes, gathered.groups, List.rel_append ?_ ?_⟩
  · refine gathered.leaves.imp fun _ _ depicts => depicts.extend ?_
    exact ⟨List.prefix_refl _, List.prefix_refl _⟩
  · refine forall₂_ownedBy ?_ node
    unfold SolutionIndex.addGroup DepictsHolder
    dsimp only
    rw [gathered.groups]
    exact found

/-- An entry of an attribute list is listed next. -/
theorem Lists.addNode (lists : Lists index declared places listed) (node : Site) :
    Lists (index.addNode node.place (.record node.fields)) (declared ++ declaredIn node)
      (places ++ groupIn node) (listed ++ leavesIn node) := by
  unfold SolutionIndex.addNode
  dsimp only
  split
  · rename_i isAttribute
    have alone := @Lists.addAttribute index declared places listed lists none ⟨node, none⟩ rfl
    have noGroup : groupIn node = [] := by simp [groupIn, Site.isOfType, isAttribute]
    rw [leavesIn_of_attribute isAttribute, declaredIn_of_attribute isAttribute, noGroup,
      List.append_nil]
    exact alone
  · rename_i isGroup
    exact lists.addGroup isGroup
  · rename_i differs differsToo
    have notAttribute : textOf? node.fields "type" ≠ some "attribute" := differs
    have notGroup : textOf? node.fields "type" ≠ some "group" := differsToo
    have nothing : declaredIn node = [] ∧ groupIn node = [] := by
      simp [declaredIn, groupIn, Site.isOfType, notAttribute, notGroup]
    rw [leavesIn_of_neither notAttribute notGroup, nothing.1, nothing.2, List.append_nil,
      List.append_nil, List.append_nil]
    exact lists

/-- The entries of an attribute list are listed one after another. -/
theorem Lists.addNodes (nodes : List Site) :
    ∀ {index : SolutionIndex} {declared : List Declared} {places : List Path} {listed : List Leaf},
      Lists index declared places listed →
        Lists (nodes.foldl (fun index node => index.addNode node.place (.record node.fields)) index)
          (declared ++ nodes.flatMap declaredIn) (places ++ nodes.flatMap groupIn)
          (listed ++ nodes.flatMap leavesIn) := by
  induction nodes with
  | nil =>
    intro index declared places listed lists
    simpa using lists
  | cons node rest ih =>
    intro index declared places listed lists
    have next := ih (lists.addNode node)
    rw [List.append_assoc, List.append_assoc, List.append_assoc] at next
    exact next

/-- **The index of a solution lists its attributes, its groups and the leaves of its
conditions.** -/
theorem lists_index (solution : Site) :
    Lists solution.index solution.attributes solution.groups solution.leaves := by
  have empty : Lists
      { path := solution.place
        id := textOf? solution.fields "id"
        scripts := eachItem scriptId (solution.place.field "scripts") 0
          (listOf solution.fields "scripts")
        attributes := []
        groups := []
        references := [] } [] [] [] := ⟨.nil, rfl, .nil⟩
  rw [Site.index, ofFields, addNodes_eq_foldl]
  exact empty.addNodes (solution.under "attributes")

end SolutionIndex

end PageAttributes.Grammar
