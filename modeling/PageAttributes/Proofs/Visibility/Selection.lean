/-
**The report lists the one selection that is stable.**

A selection is a set of attributes and a set of groups. It is stable if exactly those belong to it
whose kinds of nodes admit the node, whose conditions hold of the values of the attributes that
belong to it, and whose group, if there is one, belongs to it.

* `Selection.IsStable` — the selection is stable;
* `Catalog.seen_eq_restrictTo` — where ids are distinct, what conditions see are the values of the
  selected ids;
* `Selection.isStable_iff` — a selection is stable exactly if all nodes apply that should;
* `Solution.stable_selection_of_resolve` — the report lists a selection that is stable, and no other
  selection is.

A solution may have a cycle that the resolver does not run into, because another condition has
failed or held before. Even then no second selection is stable: what has been decided is forced.
-/

import PageAttributes.Proofs.Visibility.Resolution

namespace PageAttributes

variable {catalog : Catalog} {assignment : Assignment} {kind : Option NodeType}

/-- The values of some ids. -/
def Assignment.restrictTo (assignment : Assignment) (ids : List String) : Assignment :=
  ⟨assignment.values.filter fun entry => ids.contains entry.1⟩

/-- Some attributes and some groups, by number. -/
@[ext] structure Selection where
  attributes : Finset Nat
  groups : Finset Nat
deriving DecidableEq

namespace Selection

/-- The names of the selected groups, in declaration order. -/
def groupNames (selection : Selection) (catalog : Catalog) : List String :=
  (catalog.groups.zipIdx.filter fun entry => entry.2 ∈ selection.groups).map
    fun entry => entry.1.name

/-- The ids of the selected attributes, in declaration order. -/
def attributeIds (selection : Selection) (catalog : Catalog) : List String :=
  (catalog.attributes.zipIdx.filter fun entry => entry.2 ∈ selection.attributes).map
    fun entry => entry.1.2.id

/-- A selection is what it should be, given that just its attributes have values. -/
structure IsStable (selection : Selection) (catalog : Catalog) (assignment : Assignment)
    (kind : Option NodeType) : Prop where
  groups : ∀ number, number ∈ selection.groups ↔ ∃ gathered,
    catalog.groups[number]? = some gathered ∧ admits gathered.nodeTypes kind = true ∧
      Condition.listHolds (assignment.restrictTo (selection.attributeIds catalog))
        gathered.conditions = true
  attributes : ∀ position, position ∈ selection.attributes ↔ ∃ group declared,
    catalog.attributes[position]? = some (group, declared) ∧
      (∀ number, group = some number → number ∈ selection.groups) ∧
      admits declared.nodeTypes kind = true ∧
      Condition.listHolds (assignment.restrictTo (selection.attributeIds catalog))
        declared.conditions = true

/-! ### Selections and valuations -/

/-- The nodes that are selected. -/
def valuation (selection : Selection) : Valuation
  | .attribute position => decide (position ∈ selection.attributes)
  | .group number => decide (number ∈ selection.groups)

theorem valuation_injective {first second : Selection}
    (same : first.valuation = second.valuation) : first = second := by
  ext number
  · have at_ := congrFun same (.attribute number)
    simpa [valuation] using at_
  · have at_ := congrFun same (.group number)
    simpa [valuation] using at_

/-- What a selection lists is what its valuation lists. -/
theorem report_valuation (selection : Selection) (catalog : Catalog) :
    catalog.report selection.valuation
      = ⟨selection.groupNames catalog, selection.attributeIds catalog⟩ := rfl

/-- The selection of the nodes that have been decided to apply. -/
def ofSession (catalog : Catalog) (session : Session) : Selection :=
  ⟨(Finset.range catalog.attributes.length).filter fun position =>
      session.valuation (.attribute position) = true,
    (Finset.range catalog.groups.length).filter fun number =>
      session.valuation (.group number) = true⟩

end Selection

namespace Catalog

/-- Only nodes of a catalog are noted to apply. -/
theorem has_of_valuation {session : Session} (fits : session.Fits catalog) (node : Node)
    (decided : session.valuation node = true) : catalog.Has node := by
  unfold Session.valuation at decided
  have resolved := of_decide_eq_true decided
  by_contra unknown
  match node with
  | .attribute position =>
    have outside : session.attributes.length ≤ position := by
      rw [fits.attributes]
      exact Nat.le_of_not_lt unknown
    simp [Session.progress, List.getElem?_eq_none outside] at resolved
  | .group number =>
    have outside : session.groups.length ≤ number := by
      rw [fits.groups]
      exact Nat.le_of_not_lt unknown
    simp [Session.progress, List.getElem?_eq_none outside] at resolved

theorem valuation_ofSession {session : Session} (fits : session.Fits catalog) :
    (Selection.ofSession catalog session).valuation = session.valuation := by
  funext node
  have known := has_of_valuation fits node
  match node with
  | .attribute position =>
    cases decided : session.valuation (.attribute position) with
    | false => simp [Selection.valuation, Selection.ofSession, decided]
    | true =>
      have inside : position < catalog.attributes.length := known decided
      simp [Selection.valuation, Selection.ofSession, decided, inside]
  | .group number =>
    cases decided : session.valuation (.group number) with
    | false => simp [Selection.valuation, Selection.ofSession, decided]
    | true =>
      have inside : number < catalog.groups.length := known decided
      simp [Selection.valuation, Selection.ofSession, decided, inside]

/-- Where ids are distinct, the number of an id is the only place where it is declared. -/
theorem position?_eq_some_iff (distinct : (catalog.attributes.map fun entry => entry.2.id).Nodup)
    {id : String} {position : Nat} :
    catalog.position? id = some position
      ↔ (catalog.attributes.map fun entry => entry.2.id)[position]? = some id := by
  rw [← findIdx?_eq_some_iff_of_nodup distinct, List.findIdx?_map]
  rfl

/-- Where ids are distinct, an id is seen exactly if it is selected. -/
theorem isSeen_iff_mem_attributeIds
    (distinct : (catalog.attributes.map fun entry => entry.2.id).Nodup) (selection : Selection)
    (id : String) :
    catalog.isSeen selection.valuation id = true ↔ id ∈ selection.attributeIds catalog := by
  simp only [isSeen, Option.any_eq_true, position?_eq_some_iff distinct, Selection.attributeIds,
    List.mem_map, List.mem_filter, List.mem_zipIdx_iff_getElem?, List.getElem?_map,
    Option.map_eq_some_iff, Selection.valuation, decide_eq_true_eq]
  constructor
  · rintro ⟨position, ⟨entry, there, rfl⟩, selected⟩
    exact ⟨(entry, position), ⟨there, selected⟩, rfl⟩
  · rintro ⟨⟨entry, position⟩, ⟨there, selected⟩, rfl⟩
    exact ⟨position, ⟨entry, there, rfl⟩, selected⟩

/-- Where ids are distinct, what conditions see are the values of the selected ids. -/
theorem seen_eq_restrictTo
    (distinct : (catalog.attributes.map fun entry => entry.2.id).Nodup) (assignment : Assignment)
    (selection : Selection) :
    catalog.seen assignment selection.valuation
      = assignment.restrictTo (selection.attributeIds catalog) := by
  unfold seen Assignment.restrictTo
  congr 1
  refine List.filter_congr fun entry _ => ?_
  rw [Bool.eq_iff_iff, isSeen_iff_mem_attributeIds distinct, List.contains_iff_mem]

end Catalog

namespace Selection

/-- A selection is stable exactly if all nodes apply that should, and no others. -/
theorem isStable_iff (distinct : (catalog.attributes.map fun entry => entry.2.id).Nodup)
    (selection : Selection) :
    selection.IsStable catalog assignment kind
      ↔ ∀ node, catalog.applies assignment kind selection.valuation node
          = selection.valuation node := by
  have seen := Catalog.seen_eq_restrictTo distinct assignment selection
  constructor
  · rintro ⟨groups, attributes⟩ node
    rw [Bool.eq_iff_iff]
    match node with
    | .attribute position =>
      simpa only [Catalog.applies_attribute_iff, seen, valuation, decide_eq_true_eq]
        using (attributes position).symm
    | .group number =>
      simpa only [Catalog.applies_group_iff, seen, valuation, decide_eq_true_eq]
        using (groups number).symm
  · intro fixed
    refine ⟨fun number => ?_, fun position => ?_⟩
    · have rule := Bool.eq_iff_iff.mp (fixed (.group number))
      simpa only [Catalog.applies_group_iff, seen, valuation, decide_eq_true_eq] using rule.symm
    · have rule := Bool.eq_iff_iff.mp (fixed (.attribute position))
      simpa only [Catalog.applies_attribute_iff, seen, valuation, decide_eq_true_eq]
        using rule.symm

end Selection

/-! ### What has been decided -/

namespace Catalog

/-- Where every node has been decided, the decisions are stable. -/
theorem applies_valuation {session : Session}
    (invariant : Invariant catalog assignment kind session) (complete : catalog.IsComplete session)
    (node : Node) :
    catalog.applies assignment kind session.valuation node = session.valuation node := by
  by_cases known : catalog.Has node
  · obtain ⟨outcome, resolved⟩ := complete node known
    have agrees := session.agrees_valuation
    rw [agrees node outcome resolved]
    exact invariant.settled _ agrees node outcome resolved
  · rw [applies_of_not_has known, eq_comm, Bool.eq_false_iff]
    exact fun decided => known (has_of_valuation invariant.fits node decided)

/-- Where every node has been decided, only the decisions are stable. -/
theorem eq_valuation {session : Session}
    (invariant : Invariant catalog assignment kind session) (complete : catalog.IsComplete session)
    {valuation : Valuation}
    (fixed : ∀ node, catalog.applies assignment kind valuation node = valuation node) :
    valuation = session.valuation := by
  funext node
  by_cases known : catalog.Has node
  · obtain ⟨outcome, resolved⟩ := complete node known
    rw [invariant.forced valuation (fun node _ => fixed node) node outcome resolved,
      session.agrees_valuation node outcome resolved]
  · rw [← fixed node, ← applies_valuation invariant complete node, applies_of_not_has known,
      applies_of_not_has known]

end Catalog

/-- **The report lists the one selection that is stable.** -/
theorem Solution.stable_selection_of_resolve (solution : Solution)
    (distinct : (solution.flat.map fun entry => entry.2.id).Nodup) {report : VisibilityReport}
    (resolved : solution.resolve assignment kind = .ok report) :
    ∃ selection : Selection,
      selection.IsStable (Catalog.ofSolution solution) assignment kind
        ∧ report = ⟨selection.groupNames (Catalog.ofSolution solution),
            selection.attributeIds (Catalog.ofSolution solution)⟩
        ∧ ∀ other : Selection, other.IsStable (Catalog.ofSolution solution) assignment kind →
            other = selection := by
  rw [← Catalog.ids_ofSolution] at distinct
  obtain ⟨after, invariant, complete, listed⟩ :=
    Catalog.decided_of_resolve (Catalog.isNumbered_ofSolution solution) resolved
  have same := Catalog.valuation_ofSession invariant.fits
  refine ⟨Selection.ofSession (Catalog.ofSolution solution) after, ?_, ?_, fun other stable => ?_⟩
  · rw [Selection.isStable_iff distinct, same]
    exact Catalog.applies_valuation invariant complete
  · rw [← Selection.report_valuation, same, listed _ after.agrees_valuation]
  · rw [Selection.isStable_iff distinct] at stable
    refine Selection.valuation_injective ?_
    rw [same]
    exact Catalog.eq_valuation invariant complete stable

/-- A solution with a cycle, for blocks: whether a page is wide may depend on its width, which depends
on whether it is wide. One attribute is for other kinds of nodes. -/
def Solution.circular : Solution where
  id := "layout"
  name := "Layout"
  scripts := []
  attributes := [
    .single ⟨"mode", "Mode", "Mode", "data-mode", none, some [.link, .block], none,
      .textInput none⟩,
    .single ⟨"print", "Print", "Print", "data-print", none, some [.body], none, .textInput none⟩,
    .single ⟨"wide", "Wide", "Wide", "data-wide", none, none,
      some [.group .any [.leaf "mode" (.text "on"), .leaf "width" (.text "1")]], .textInput none⟩,
    .group ⟨"Sizes", [⟨"width", "Width", "Width", "data-width", none, none,
      some [.leaf "wide" (.text "yes")], .textInput none⟩], some [.block], none⟩]

/-- The cycle is not run into where the first alternative holds. -/
theorem Solution.resolve_circular :
    Solution.circular.resolve ⟨[("mode", .text "on"), ("wide", .text "yes")]⟩ (some .block)
      = .ok ⟨["Sizes"], ["mode", "wide", "width"]⟩ := by
  decide +kernel

/-- Even so only one selection is stable. -/
theorem Solution.stable_selection_of_circular :
    ∃ selection : Selection,
      selection.IsStable (Catalog.ofSolution .circular)
          ⟨[("mode", .text "on"), ("wide", .text "yes")]⟩ (some .block)
        ∧ ⟨["Sizes"], ["mode", "wide", "width"]⟩
          = (⟨selection.groupNames (Catalog.ofSolution .circular),
              selection.attributeIds (Catalog.ofSolution .circular)⟩ : VisibilityReport)
        ∧ ∀ other : Selection, other.IsStable (Catalog.ofSolution .circular)
            ⟨[("mode", .text "on"), ("wide", .text "yes")]⟩ (some .block) → other = selection :=
  Solution.stable_selection_of_resolve .circular (by decide) Solution.resolve_circular

end PageAttributes
