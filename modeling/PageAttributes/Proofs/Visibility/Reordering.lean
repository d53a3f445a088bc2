/-
**The order of a solution does not matter.**

* `Catalog.Reorders` — two catalogs have the same attributes and groups, up to order;
* `Catalog.Reorders.look_eq` — where ids are distinct, an id stands for the same in both of them;
* `Catalog.Reorders.resolve` — what can be resolved of one can be resolved of the other, and the
  same is reported up to order;
* `Solution.Reorders` — two solutions differ only in the order of their entries and of the
  attributes in their groups;
* `Solution.resolve_reordered` — both can be resolved or neither, with the same report up to order.

The resolver visits the nodes of a reordered solution in another order, and may find another cycle
first. But it reports what settles, and what settles is the same.
-/

import PageAttributes.Proofs.Visibility.Tracking

namespace PageAttributes

/-! ### Catalogs -/

namespace Catalog

variable {first second : Catalog} {assignment : Assignment} {kind : Option NodeType}

/-- Two catalogs have the same attributes and groups, up to order. -/
structure Reorders (first second : Catalog) : Prop where
  attributes : first.attributeStandings.Perm second.attributeStandings
  groups : first.groupStandings.Perm second.groupStandings

theorem Reorders.symm (reorders : first.Reorders second) : second.Reorders first :=
  ⟨reorders.attributes.symm, reorders.groups.symm⟩

theorem map_attributeStandings (catalog : Catalog) :
    catalog.attributeStandings.map Prod.fst = catalog.attributes.map fun entry => entry.2.id := by
  rw [attributeStandings, List.map_map]
  rfl

/-- Where ids are distinct, an id stands for whatever is declared with it. -/
theorem look_eq_some_iff {catalog : Catalog}
    (distinct : (catalog.attributes.map fun entry => entry.2.id).Nodup) {id : String}
    {standing : Standing} :
    catalog.look id = some standing ↔ (id, standing) ∈ catalog.attributeStandings := by
  simp only [look, Option.bind_eq_some_iff, position?_eq_some_iff distinct,
    ← map_attributeStandings, standing?, List.getElem?_map, Option.map_eq_some_iff,
    List.mem_iff_getElem?]
  constructor
  · rintro ⟨position, ⟨entry, there, rfl⟩, _, there', rfl⟩
    cases there.symm.trans there'
    exact ⟨position, there⟩
  · rintro ⟨position, there⟩
    exact ⟨position, ⟨_, there, rfl⟩, _, there, rfl⟩

/-- Ids stay distinct. -/
theorem Reorders.distinct (reorders : first.Reorders second)
    (distinct : (first.attributes.map fun entry => entry.2.id).Nodup) :
    (second.attributes.map fun entry => entry.2.id).Nodup := by
  rw [← map_attributeStandings] at distinct ⊢
  exact (reorders.attributes.map Prod.fst).nodup_iff.mp distinct

/-- **Where ids are distinct, an id stands for the same**, wherever it is declared. -/
theorem Reorders.look_eq (reorders : first.Reorders second)
    (distinct : (first.attributes.map fun entry => entry.2.id).Nodup) :
    first.look = second.look := by
  funext id
  ext standing
  rw [look_eq_some_iff distinct, look_eq_some_iff (reorders.distinct distinct),
    reorders.attributes.mem_iff]

/-- There are as many attributes and groups. -/
theorem Reorders.length_eq (reorders : first.Reorders second) :
    first.attributes.length + first.groups.length
      = second.attributes.length + second.groups.length := by
  have attributes := reorders.attributes.length_eq
  have groups := reorders.groups.length_eq
  rw [attributeStandings, attributeStandings, List.length_map, List.length_map] at attributes
  rw [groupStandings, groupStandings, List.length_map, List.length_map] at groups
  rw [attributes, groups]

end Catalog

/-- The names of what applies are the same up to order, and known if they are known in another
order. -/
theorem exists_settledNames_of_perm {decided : Standing → Option Bool}
    {first second : List (String × Standing)} (perm : first.Perm second) {names : List String}
    (settled : settledNames decided first = some names) :
    ∃ others, settledNames decided second = some others ∧ names.Perm others := by
  obtain ⟨all, rfl⟩ := settledNames_eq_some_iff.mp settled
  refine ⟨_, settledNames_eq_some_iff.mpr ⟨fun entry member => ?_, rfl⟩, ?_⟩
  · exact all entry (perm.mem_iff.mpr member)
  · exact (perm.filter _).map Prod.fst

namespace Catalog

variable {first second : Catalog} {assignment : Assignment} {kind : Option NodeType}
  {report : VisibilityReport}

/-- What settles in one order settles in the other one. -/
theorem Reorders.exists_reportWithin (reorders : first.Reorders second)
    (distinct : (first.attributes.map fun entry => entry.2.id).Nodup) {steps : Nat}
    (settled : first.reportWithin assignment kind steps = some report) :
    ∃ other, second.reportWithin assignment kind steps = some other
      ∧ report.attributes.Perm other.attributes ∧ report.groups.Perm other.groups := by
  obtain ⟨names, settledGroups, settled⟩ := Option.bind_eq_some_iff.mp settled
  obtain ⟨ids, settledAttributes, same⟩ := Option.bind_eq_some_iff.mp settled
  cases same
  obtain ⟨names', settledGroups', permGroups⟩ :=
    exists_settledNames_of_perm reorders.groups settledGroups
  obtain ⟨ids', settledAttributes', permAttributes⟩ :=
    exists_settledNames_of_perm reorders.attributes settledAttributes
  refine ⟨⟨names', ids'⟩, ?_, permAttributes, permGroups⟩
  rw [reportWithin, ← reorders.look_eq distinct, settledGroups', Option.bind_some,
    settledAttributes', Option.bind_some]

/-- **What can be resolved in one order can be resolved in the other one**, and the same is reported
up to order. -/
theorem Reorders.resolve (reorders : first.Reorders second) (numbered : first.IsNumbered)
    (numberedToo : second.IsNumbered)
    (distinct : (first.attributes.map fun entry => entry.2.id).Nodup)
    (few : first.attributes.length + first.groups.length ≤ chainLimit)
    (resolved : first.resolve assignment kind = .ok report) :
    ∃ other, second.resolve assignment kind = .ok other
      ∧ report.attributes.Perm other.attributes ∧ report.groups.Perm other.groups := by
  obtain ⟨steps, settled⟩ := (resolve_eq_ok_iff numbered few).mp resolved
  obtain ⟨other, settledToo, attributes, groups⟩ := reorders.exists_reportWithin distinct settled
  rw [reorders.length_eq] at few
  exact ⟨other, (resolve_eq_ok_iff numberedToo few).mpr ⟨steps, settledToo⟩, attributes, groups⟩

end Catalog

/-! ### Entries -/

namespace AttributeNode

/-- Two entries are the same, up to the order of the attributes in a group. -/
inductive Reorders : AttributeNode → AttributeNode → Prop
  | single (declared : Attribute) : Reorders (.single declared) (.single declared)
  | group (name : String) (first second : List Attribute) (nodeTypes : Option (List NodeType))
      (conditions : Option (List Condition)) (members : first.Perm second) :
    Reorders (.group ⟨name, first, nodeTypes, conditions⟩)
      (.group ⟨name, second, nodeTypes, conditions⟩)

/-- The attributes of an entry by id, with all that it depends on whether they apply. -/
def attributeStandings : AttributeNode → List (String × Standing)
  | .single declared => [(declared.id, ⟨none, declared.restrictions⟩)]
  | .group gathered => gathered.attributes.map fun declared =>
      (declared.id, ⟨some gathered.restrictions, declared.restrictions⟩)

/-- The group that an entry is, if it is one. -/
def groupStandings : AttributeNode → List (String × Standing)
  | .single _ => []
  | .group gathered => [Catalog.groupStanding gathered]

theorem Reorders.attributeStandings_perm {first second : AttributeNode}
    (reorders : first.Reorders second) :
    first.attributeStandings.Perm second.attributeStandings := by
  cases reorders with
  | single declared => exact .refl _
  | group name first second nodeTypes conditions members => exact members.map _

theorem Reorders.groupStandings_perm {first second : AttributeNode}
    (reorders : first.Reorders second) : first.groupStandings.Perm second.groupStandings := by
  cases reorders with
  | single declared => exact .refl _
  | group name first second nodeTypes conditions members => exact .refl _

end AttributeNode

/-! ### Solutions -/

namespace Solution

/-- Two solutions differ only in the order of their entries and of the attributes in their
groups. -/
structure Reorders (first second : Solution) : Prop where
  id : first.id = second.id
  name : first.name = second.name
  scripts : first.scripts = second.scripts
  attributes : ∃ between, first.attributes.Perm between
    ∧ List.Forall₂ AttributeNode.Reorders between second.attributes

/-- Whatever is the same of reordered entries is the same of reordered solutions. -/
theorem Reorders.flatMap_perm {first second : Solution} (reorders : first.Reorders second)
    {α : Type} {parts : AttributeNode → List α}
    (same : ∀ {node other : AttributeNode}, node.Reorders other → (parts node).Perm (parts other)) :
    (first.attributes.flatMap parts).Perm (second.attributes.flatMap parts) := by
  have each {nodes others : List AttributeNode}
      (reordered : List.Forall₂ AttributeNode.Reorders nodes others) :
      (nodes.flatMap parts).Perm (others.flatMap parts) := by
    induction reordered with
    | nil => exact .refl _
    | cons one _ ih =>
      rw [List.flatMap_cons, List.flatMap_cons]
      exact (same one).append ih
  obtain ⟨between, perm, reordered⟩ := reorders.attributes
  exact (perm.flatMap_right parts).trans (each reordered)

theorem attributeStandings_ofSolution (solution : Solution) :
    (Catalog.ofSolution solution).attributeStandings
      = solution.attributes.flatMap AttributeNode.attributeStandings := by
  have inGroups : (Catalog.ofSolution solution).attributeStandings
      = solution.flat.map fun entry =>
        (entry.2.id, ⟨entry.1.map AttributeGroup.restrictions, entry.2.restrictions⟩) := by
    rw [← Catalog.map_ofSolution, List.map_map]
    rfl
  rw [inGroups, flat, List.map_flatMap]
  congr 1
  funext node
  cases node with
  | single declared => rfl
  | group gathered =>
    rw [AttributeNode.flat, List.map_map]
    rfl

theorem groupStandings_ofSolution (solution : Solution) :
    (Catalog.ofSolution solution).groupStandings
      = solution.attributes.flatMap AttributeNode.groupStandings := by
  show solution.groups.map Catalog.groupStanding = _
  rw [groups, List.filterMap_eq_flatMap_toList, List.map_flatMap]
  congr 1
  funext node
  cases node <;> rfl

theorem Reorders.catalog {first second : Solution} (reorders : first.Reorders second) :
    (Catalog.ofSolution first).Reorders (Catalog.ofSolution second) where
  attributes := by
    rw [attributeStandings_ofSolution, attributeStandings_ofSolution]
    exact reorders.flatMap_perm AttributeNode.Reorders.attributeStandings_perm
  groups := by
    rw [groupStandings_ofSolution, groupStandings_ofSolution]
    exact reorders.flatMap_perm AttributeNode.Reorders.groupStandings_perm

/-- **The order of a solution does not matter.** If two solutions with distinct ids and at most 256
attributes and groups differ only in the order of their entries and of the attributes in their
groups, then both can be resolved or neither, and the same ids and names are reported up to
order. -/
theorem resolve_reordered {first second : Solution} (reorders : first.Reorders second)
    (distinct : (first.flat.map fun entry => entry.2.id).Nodup)
    (few : first.flat.length + first.groups.length ≤ 256) (assignment : Assignment)
    (kind : Option NodeType) :
    ((∃ report, first.resolve assignment kind = .ok report)
        ↔ ∃ other, second.resolve assignment kind = .ok other)
      ∧ ∀ report other, first.resolve assignment kind = .ok report →
        second.resolve assignment kind = .ok other →
          report.attributes.Perm other.attributes ∧ report.groups.Perm other.groups := by
  have numbered := Catalog.isNumbered_ofSolution first
  have numberedToo := Catalog.isNumbered_ofSolution second
  rw [← Catalog.ids_ofSolution] at distinct
  rw [← Catalog.length_attributes_ofSolution] at few
  have distinctToo := reorders.catalog.distinct distinct
  have fewToo := few.trans_eq' reorders.catalog.length_eq
  refine ⟨⟨?_, ?_⟩, ?_⟩
  · rintro ⟨report, resolved⟩
    obtain ⟨other, resolvedToo, _⟩ :=
      reorders.catalog.resolve numbered numberedToo distinct few resolved
    exact ⟨other, resolvedToo⟩
  · rintro ⟨other, resolvedToo⟩
    obtain ⟨report, resolved, _⟩ :=
      reorders.catalog.symm.resolve numberedToo numbered distinctToo fewToo resolvedToo
    exact ⟨report, resolved⟩
  · intro report other resolved resolvedToo
    obtain ⟨again, resolvedAgain, same⟩ :=
      reorders.catalog.resolve numbered numberedToo distinct few resolved
    cases resolvedAgain.symm.trans resolvedToo
    exact same

/-- Whether a page is wide depends on its mode or its width, and its width on whether it is wide. -/
def widthAfterMode : Solution where
  id := "layout"
  name := "Layout"
  scripts := []
  attributes := [
    .single ⟨"mode", "Mode", "Mode", "data-mode", none, none, none, .textInput none⟩,
    .single ⟨"wide", "Wide", "Wide", "data-wide", none, none,
      some [.group .any [.leaf "mode" (.text "on"), .leaf "width" (.text "1")]], .textInput none⟩,
    .group ⟨"Sizes", [
      ⟨"width", "Width", "Width", "data-width", none, none, some [.leaf "wide" (.text "yes")],
        .textInput none⟩,
      ⟨"height", "Height", "Height", "data-height", none, none, none, .textInput none⟩], none,
      none⟩]

/-- The same, declared the other way round. -/
def modeAfterWidth : Solution where
  id := "layout"
  name := "Layout"
  scripts := []
  attributes := [
    .group ⟨"Sizes", [
      ⟨"height", "Height", "Height", "data-height", none, none, none, .textInput none⟩,
      ⟨"width", "Width", "Width", "data-width", none, none, some [.leaf "wide" (.text "yes")],
        .textInput none⟩], none, none⟩,
    .single ⟨"wide", "Wide", "Wide", "data-wide", none, none,
      some [.group .any [.leaf "mode" (.text "on"), .leaf "width" (.text "1")]], .textInput none⟩,
    .single ⟨"mode", "Mode", "Mode", "data-mode", none, none, none, .textInput none⟩]

theorem reorders_modeAfterWidth : widthAfterMode.Reorders modeAfterWidth where
  id := rfl
  name := rfl
  scripts := rfl
  attributes :=
    ⟨_, (List.reverse_perm _).symm,
      .cons (.group _ _ _ _ _ (.swap _ _ _)) (.cons (.single _) (.cons (.single _) .nil))⟩

/-- Where the mode is on, the cycle is run into in neither order, and the width is reported. -/
theorem resolve_reordered_modeAfterWidth :
    widthAfterMode.resolve ⟨[("mode", .text "on"), ("wide", .text "yes")]⟩ none
        = .ok ⟨["Sizes"], ["mode", "wide", "width", "height"]⟩
      ∧ modeAfterWidth.resolve ⟨[("mode", .text "on"), ("wide", .text "yes")]⟩ none
        = .ok ⟨["Sizes"], ["height", "width", "wide", "mode"]⟩
      ∧ ["mode", "wide", "width", "height"].Perm ["height", "width", "wide", "mode"] := by
  have resolved : widthAfterMode.resolve ⟨[("mode", .text "on"), ("wide", .text "yes")]⟩ none
      = .ok ⟨["Sizes"], ["mode", "wide", "width", "height"]⟩ := by
    decide +kernel
  have resolvedToo : modeAfterWidth.resolve ⟨[("mode", .text "on"), ("wide", .text "yes")]⟩ none
      = .ok ⟨["Sizes"], ["height", "width", "wide", "mode"]⟩ := by
    decide +kernel
  have same := (resolve_reordered reorders_modeAfterWidth (by decide) (by decide)
    ⟨[("mode", .text "on"), ("wide", .text "yes")]⟩ none).2
  exact ⟨resolved, resolvedToo, (same _ _ resolved resolvedToo).1⟩

end Solution

end PageAttributes
