/-
**What is shown is also explained as holding.**

An explanation looks at the conditions of one attribute or group only, and at all values of the
assignment, while the resolver sees no values of attributes that do not apply.

* `Catalog.listHolds_of_shown_group`, `Catalog.listHolds_of_shown_attribute` — the conditions of a
  node that is shown hold of all values;
* `Condition.exists_explain_of_listHolds` — the explanation of conditions that hold says so;
* `Solution.explained_of_resolve` — the conditions of whatever is reported hold, those of its group
  included, and the explanation under its id or name says so.
-/

import PageAttributes.Proofs.Trace.Formula
import PageAttributes.Proofs.Visibility.Support
import PageAttributes.Visibility.Explain

namespace PageAttributes

/-- The explanation of conditions that hold says so. -/
theorem Condition.exists_explain_of_listHolds {assignment : Assignment}
    {conditions : Option (List Condition)} (hold : listHolds assignment conditions = true) :
    ∃ line, explain assignment conditions = line ++ " => true" := by
  match conditions with
  | none => exact ⟨"unconditional", rfl⟩
  | some [] => exact ⟨"unconditional", rfl⟩
  | some (first :: rest) =>
    have outcome : (traceAll assignment (first :: rest)).2 = true := by
      rw [traceAll, outcome_traceSequence]
      exact hold
    refine ⟨Trace.formatAll (traceAll assignment (first :: rest)).1, ?_⟩
    rw [explain]
    simp only [outcome, if_true, String.append_assoc]
    rfl

namespace Catalog

variable {catalog : Catalog} {assignment : Assignment} {kind : Option NodeType}
  {report : VisibilityReport}

/-- The conditions of what should apply hold of all values, if they hold of those that are seen. -/
theorem listHolds_of_seen {valuation : Valuation} {conditions : Option (List Condition)}
    (hold : Condition.listHolds (catalog.seen assignment valuation) conditions = true) :
    Condition.listHolds assignment conditions = true := by
  refine Condition.allHold_of_keeps _ (fun id _ value found => ?_) hold
  rw [get?_seen] at found
  split at found
  · exact found
  · cases found

/-- The conditions of a group that is shown hold. -/
theorem listHolds_of_shown_group (numbered : catalog.IsNumbered)
    (resolved : catalog.resolve assignment kind = .ok report) {number : Nat}
    (isShown : catalog.shown assignment kind (.group number) = true) {gathered : AttributeGroup}
    (there : catalog.groups[number]? = some gathered) :
    Condition.listHolds assignment gathered.conditions = true := by
  rw [← applies_shown numbered resolved, applies_group_iff] at isShown
  obtain ⟨_, here, _, hold⟩ := isShown
  cases there.symm.trans here
  exact listHolds_of_seen hold

/-- The conditions of an attribute that is shown hold, and its group is shown. -/
theorem listHolds_of_shown_attribute (numbered : catalog.IsNumbered)
    (resolved : catalog.resolve assignment kind = .ok report) {position : Nat}
    (isShown : catalog.shown assignment kind (.attribute position) = true) {group : Option Nat}
    {declared : Attribute} (there : catalog.attributes[position]? = some (group, declared)) :
    Condition.listHolds assignment declared.conditions = true
      ∧ ∀ number, group = some number → catalog.shown assignment kind (.group number) = true := by
  rw [← applies_shown numbered resolved, applies_attribute_iff] at isShown
  obtain ⟨_, _, here, around, _, hold⟩ := isShown
  cases there.symm.trans here
  exact ⟨listHolds_of_seen hold, around⟩

/-- Where ids are distinct, an attribute is found under its id. -/
theorem attribute?_of_getElem? (distinct : (catalog.attributes.map fun entry => entry.2.id).Nodup)
    {position : Nat} {entry : Option Nat × Attribute}
    (there : catalog.attributes[position]? = some entry) :
    catalog.attribute? entry.2.id = some entry.2 := by
  have found : catalog.position? entry.2.id = some position := by
    rw [position?_eq_some_iff distinct, List.getElem?_map, there, Option.map_some]
  rw [attribute?, found, Option.bind_some, there, Option.map_some]

/-- Where names are distinct, a group is found under its name. -/
theorem group?_of_getElem? (distinct : (catalog.groups.map AttributeGroup.name).Nodup)
    {number : Nat} {gathered : AttributeGroup} (there : catalog.groups[number]? = some gathered) :
    catalog.group? gathered.name = some gathered :=
  (find?_eq_some_iff_of_nodup distinct).mpr ⟨List.mem_of_getElem? there, rfl⟩

end Catalog

namespace Solution

/-- An attribute of a solution, and its group, as the catalog numbers them. -/
theorem exists_numbered {solution : Solution} {position : Nat} {group : Option AttributeGroup}
    {declared : Attribute} (there : solution.flat[position]? = some (group, declared)) :
    ∃ number, (Catalog.ofSolution solution).attributes[position]? = some (number, declared)
      ∧ group = number.bind fun number => (Catalog.ofSolution solution).groups[number]? := by
  rw [← Catalog.map_ofSolution, List.getElem?_map, Option.map_eq_some_iff] at there
  obtain ⟨⟨number, _⟩, here, same⟩ := there
  cases same
  exact ⟨number, here, rfl⟩

/-- **What is shown holds, also where all values are seen.** The conditions of an attribute that is
shown hold of the assignment, and so do those of its group; the conditions of a group that is shown
do. So where ids and names are distinct, no explanation of what is reported ends with `false`. -/
theorem explained_of_resolve (solution : Solution) {assignment : Assignment}
    {kind : Option NodeType} {report : VisibilityReport}
    (resolved : solution.resolve assignment kind = .ok report) :
    report = (Catalog.ofSolution solution).report
        ((Catalog.ofSolution solution).shown assignment kind)
      ∧ (∀ position group declared, solution.flat[position]? = some (group, declared) →
        (Catalog.ofSolution solution).shown assignment kind (.attribute position) = true →
          Condition.listHolds assignment declared.conditions = true
            ∧ ∀ gathered, group = some gathered →
                Condition.listHolds assignment gathered.conditions = true)
      ∧ (∀ number gathered, solution.groups[number]? = some gathered →
        (Catalog.ofSolution solution).shown assignment kind (.group number) = true →
          Condition.listHolds assignment gathered.conditions = true)
      ∧ ((solution.flat.map fun entry => entry.2.id).Nodup → ∀ id ∈ report.attributes,
        ∃ line, (Catalog.ofSolution solution).explainAttribute id assignment
          = some (line ++ " => true"))
      ∧ ((solution.groups.map AttributeGroup.name).Nodup → ∀ name ∈ report.groups,
        ∃ line, (Catalog.ofSolution solution).explainGroup name assignment
          = some (line ++ " => true")) := by
  have numbered := Catalog.isNumbered_ofSolution solution
  have listed := Catalog.report_shown numbered resolved
  refine ⟨listed, ?_, ?_, ?_, ?_⟩
  · intro position group declared there isShown
    obtain ⟨number, here, rfl⟩ := exists_numbered there
    obtain ⟨own, around⟩ := Catalog.listHolds_of_shown_attribute numbered resolved isShown here
    refine ⟨own, fun gathered same => ?_⟩
    obtain ⟨number, rfl, inside⟩ := Option.bind_eq_some_iff.mp same
    exact Catalog.listHolds_of_shown_group numbered resolved (around number rfl) inside
  · intro number gathered there isShown
    exact Catalog.listHolds_of_shown_group numbered resolved isShown there
  · intro distinct id reported
    rw [← Catalog.ids_ofSolution] at distinct
    rw [listed, Catalog.mem_attributes_report] at reported
    obtain ⟨position, ⟨number, declared⟩, there, rfl, isShown⟩ := reported
    obtain ⟨own, _⟩ := Catalog.listHolds_of_shown_attribute numbered resolved isShown there
    obtain ⟨line, explained⟩ := Condition.exists_explain_of_listHolds own
    refine ⟨line, ?_⟩
    rw [Catalog.explainAttribute, Catalog.attribute?_of_getElem? distinct there, Option.map_some,
      explained]
  · intro distinct name reported
    rw [listed, Catalog.mem_groups_report] at reported
    obtain ⟨number, gathered, there, rfl, isShown⟩ := reported
    have hold := Catalog.listHolds_of_shown_group numbered resolved isShown there
    obtain ⟨line, explained⟩ := Condition.exists_explain_of_listHolds hold
    refine ⟨line, ?_⟩
    rw [Catalog.explainGroup, Catalog.group?_of_getElem? distinct there, Option.map_some,
      explained]

/-- In the solution with a cycle the width is reported, and its explanation says that it applies. -/
theorem explained_circular :
    circular.resolve ⟨[("mode", .text "on"), ("wide", .text "yes")]⟩ (some .block)
        = .ok ⟨["Sizes"], ["mode", "wide", "width"]⟩
      ∧ ∃ line, (Catalog.ofSolution circular).explainAttribute "width"
          ⟨[("mode", .text "on"), ("wide", .text "yes")]⟩ = some (line ++ " => true") := by
  have explained := (explained_of_resolve circular resolve_circular).2.2.2.1
  exact ⟨resolve_circular, explained (by decide) "width" (by decide)⟩

end Solution

end PageAttributes
