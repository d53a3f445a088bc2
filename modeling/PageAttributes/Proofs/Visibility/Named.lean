/-
**What an id and a name stand for.**

The report lists ids and names. Who looks one up in the solution, in the catalog or for an
explanation finds its first declaration.

* `Catalog.attribute?_ofSolution`, `Catalog.group?_ofSolution` — all of them find the same one, which
  has the number `Catalog.position?` or `Catalog.groupNumber?`;
* `Catalog.explainAttribute_ofSolution`, `Catalog.explainGroup_ofSolution` — that one is explained;
* `Catalog.isVisible_report` — where ids are distinct, an id is reported exactly if what it stands
  for is shown;
* `Catalog.isGroupVisible_report_iff`, `Catalog.isGroupVisible_report` — a name is reported exactly
  if some group with it is shown, so for a name that is given once exactly if what it stands for is;
* `Validator.named_of_validate` — an accepted solution has distinct ids. Names of groups may be given
  twice, and then the report of one need not be about the group that it stands for
  (`Validator.exists_misnamed_doublePage`).
-/

import Mathlib.Data.List.NodupEquivFin
import PageAttributes.Proofs.Visibility.Accepted
import PageAttributes.Proofs.Visibility.Support
import PageAttributes.Visibility.Explain

namespace PageAttributes

open Grammar

namespace Catalog

variable {catalog : Catalog} {valuation : Valuation}

/-! ### First declarations -/

/-- The number of the first group with a name. -/
def groupNumber? (catalog : Catalog) (name : String) : Option Nat :=
  catalog.groups.findIdx? fun gathered => gathered.name == name

/-- A catalog numbers the attributes in the order of the solution. -/
theorem map_snd_ofSolution (solution : Solution) :
    (ofSolution solution).attributes.map Prod.snd = solution.flat.map Prod.snd := by
  rw [← map_ofSolution, List.map_map]
  rfl

/-- The attribute that is found in the solution has the number of its id. -/
theorem findAttribute?_eq_bind (solution : Solution) (id : String) :
    solution.findAttribute? id = ((ofSolution solution).position? id).bind fun position =>
      (solution.flat[position]?).map Prod.snd := by
  rw [Solution.findAttribute?, ← map_snd_ofSolution, List.find?_eq_bind_findIdx?_getElem?,
    List.findIdx?_map, map_snd_ofSolution]
  simp only [List.getElem?_map]
  rfl

/-- The attribute that an id stands for is the one that is found in the solution. -/
theorem attribute?_ofSolution (solution : Solution) (id : String) :
    (ofSolution solution).attribute? id = solution.findAttribute? id := by
  rw [findAttribute?_eq_bind, attribute?]
  simp only [← List.getElem?_map, map_snd_ofSolution]

/-- The group that a name stands for is the one that is found in the solution. -/
theorem group?_ofSolution (solution : Solution) (name : String) :
    (ofSolution solution).group? name = solution.findGroup? name := rfl

/-- The attribute that is found in the solution is the one that is explained. -/
theorem explainAttribute_ofSolution (solution : Solution) (id : String) (assignment : Assignment) :
    (ofSolution solution).explainAttribute id assignment = (solution.findAttribute? id).map
      fun declared => Condition.explain assignment declared.conditions := by
  rw [explainAttribute, attribute?_ofSolution]

/-- The group that is found in the solution is the one that is explained. -/
theorem explainGroup_ofSolution (solution : Solution) (name : String) (assignment : Assignment) :
    (ofSolution solution).explainGroup name assignment = (solution.findGroup? name).map
      fun gathered => Condition.explain assignment gathered.conditions := by
  rw [explainGroup, group?_ofSolution]

/-- The group that a name stands for has the number of the name. -/
theorem group?_eq_bind (catalog : Catalog) (name : String) :
    catalog.group? name = (catalog.groupNumber? name).bind fun number => catalog.groups[number]? :=
  List.find?_eq_bind_findIdx?_getElem?

/-- The group under the number of a name has that name. -/
theorem getElem?_of_groupNumber? {name : String} {number : Nat}
    (found : catalog.groupNumber? name = some number) :
    ∃ gathered, catalog.groups[number]? = some gathered ∧ gathered.name = name := by
  obtain ⟨inside, same, _⟩ := List.findIdx?_eq_some_iff_getElem.mp found
  exact ⟨_, List.getElem?_eq_getElem inside, beq_iff_eq.mp same⟩

/-- A value that is listed once is listed at one place. -/
theorem eq_of_count_le_one {names : List String} {name : String} (once : names.count name ≤ 1)
    {first second : Nat} (here : names[first]? = some name) (there : names[second]? = some name) :
    first = second := by
  obtain ⟨inside, same⟩ := List.getElem?_eq_some_iff.mp here
  obtain ⟨inside', same'⟩ := List.getElem?_eq_some_iff.mp there
  have single : ¬ List.Duplicate name names := by
    rw [List.duplicate_iff_two_le_count]
    omega
  rw [List.duplicate_iff_exists_distinct_get] at single
  by_contra different
  rcases Nat.lt_or_gt_of_ne different with before | behind
  · exact single ⟨⟨first, inside⟩, ⟨second, inside'⟩, before, same.symm, same'.symm⟩
  · exact single ⟨⟨second, inside'⟩, ⟨first, inside⟩, behind, same'.symm, same.symm⟩

/-- A name that is given once is given at its number. -/
theorem groupNumber?_eq_some_of_count {name : String} {number : Nat} {gathered : AttributeGroup}
    (once : (catalog.groups.map AttributeGroup.name).count name ≤ 1)
    (there : catalog.groups[number]? = some gathered) (named : gathered.name = name) :
    catalog.groupNumber? name = some number := by
  cases found : catalog.groupNumber? name with
  | none =>
    rw [groupNumber?, List.findIdx?_eq_none_iff] at found
    exact absurd named (beq_eq_false_iff_ne.mp (found gathered (List.mem_of_getElem? there)))
  | some first =>
    obtain ⟨other, here, same⟩ := getElem?_of_groupNumber? found
    refine congrArg some (eq_of_count_le_one once ?_ ?_)
    · rw [List.getElem?_map, here, Option.map_some, same]
    · rw [List.getElem?_map, there, Option.map_some, named]

/-! ### Reports -/

/-- Where ids are distinct, an id is reported exactly if the attribute that it stands for applies. -/
theorem isVisible_report (distinct : (catalog.attributes.map fun entry => entry.2.id).Nodup)
    (id : String) : (catalog.report valuation).isVisible id
      = (catalog.position? id).any fun position => valuation (.attribute position) := by
  rw [Bool.eq_iff_iff, VisibilityReport.isVisible, List.contains_iff_mem, mem_attributes_report,
    Option.any_eq_true]
  simp only [position?_eq_some_iff distinct, List.getElem?_map, Option.map_eq_some_iff]
  constructor
  · rintro ⟨position, entry, there, same, applies⟩
    exact ⟨position, ⟨entry, there, same⟩, applies⟩
  · rintro ⟨position, ⟨entry, there, same⟩, applies⟩
    exact ⟨position, entry, there, same, applies⟩

/-- A name is reported exactly if some group with that name applies. -/
theorem isGroupVisible_report_iff {name : String} :
    (catalog.report valuation).isGroupVisible name = true
      ↔ ∃ number gathered, catalog.groups[number]? = some gathered ∧ gathered.name = name
          ∧ valuation (.group number) = true := by
  rw [VisibilityReport.isGroupVisible, List.contains_iff_mem, mem_groups_report]

/-- A name that is given once is reported exactly if the group that it stands for applies. -/
theorem isGroupVisible_report {name : String}
    (once : (catalog.groups.map AttributeGroup.name).count name ≤ 1) :
    (catalog.report valuation).isGroupVisible name
      = (catalog.groupNumber? name).any fun number => valuation (.group number) := by
  rw [Bool.eq_iff_iff, isGroupVisible_report_iff, Option.any_eq_true]
  constructor
  · rintro ⟨number, gathered, there, named, applies⟩
    exact ⟨number, groupNumber?_eq_some_of_count once there named, applies⟩
  · rintro ⟨number, found, applies⟩
    obtain ⟨gathered, there, named⟩ := getElem?_of_groupNumber? found
    exact ⟨number, gathered, there, named, applies⟩

end Catalog

namespace Validator

variable {validator : Validator} {document : Document} {schema : Schema} {solution : Solution}

/-- The ids in an accepted solution are distinct. -/
theorem nodup_ids_of_validate (canonical : document.IsCanonical)
    (accepted : validator.validate document = .ok schema) (member : solution ∈ schema.solutions) :
    ((Catalog.ofSolution solution).attributes.map fun entry => entry.2.id).Nodup := by
  obtain ⟨fields, kept, valid⟩ := exists_validNames_of_validate canonical accepted member
  have unique := valid.sound.unique
  rwa [← kept.outline, Outline.ids, Catalog.outline, List.map_map] at unique

/-- **An id of an accepted solution stands for one attribute everywhere**, and it is reported exactly
if that attribute is shown. So is a name that one group of the solution has at most. A name of
several groups is reported exactly if any of them is shown, which need not be the one that is found
under it. -/
theorem named_of_validate (canonical : document.IsCanonical)
    (accepted : validator.validate document = .ok schema) (member : solution ∈ schema.solutions)
    {assignment : Assignment} {kind : Option NodeType} {report : VisibilityReport}
    (resolved : solution.resolve assignment kind = .ok report) :
    (∀ id, solution.findAttribute? id = (Catalog.ofSolution solution).attribute? id
        ∧ (Catalog.ofSolution solution).explainAttribute id assignment
          = (solution.findAttribute? id).map
              (fun declared => Condition.explain assignment declared.conditions)
        ∧ solution.findAttribute? id = ((Catalog.ofSolution solution).position? id).bind
            (fun position => (solution.flat[position]?).map Prod.snd)
        ∧ report.isVisible id = ((Catalog.ofSolution solution).position? id).any fun position =>
            (Catalog.ofSolution solution).shown assignment kind (.attribute position))
      ∧ ∀ name, solution.findGroup? name = (Catalog.ofSolution solution).group? name
        ∧ (Catalog.ofSolution solution).explainGroup name assignment
          = (solution.findGroup? name).map
              (fun gathered => Condition.explain assignment gathered.conditions)
        ∧ solution.findGroup? name = ((Catalog.ofSolution solution).groupNumber? name).bind
            (fun number => solution.groups[number]?)
        ∧ (report.isGroupVisible name = true ↔ ∃ number gathered,
            solution.groups[number]? = some gathered ∧ gathered.name = name
              ∧ (Catalog.ofSolution solution).shown assignment kind (.group number) = true)
        ∧ ((solution.groups.map AttributeGroup.name).count name ≤ 1 →
            report.isGroupVisible name = ((Catalog.ofSolution solution).groupNumber? name).any
              fun number => (Catalog.ofSolution solution).shown assignment kind (.group number)) := by
  have distinct := nodup_ids_of_validate canonical accepted member
  have listed := Catalog.report_shown (Catalog.isNumbered_ofSolution solution) resolved
  refine ⟨fun id => ⟨(Catalog.attribute?_ofSolution solution id).symm,
    Catalog.explainAttribute_ofSolution solution id assignment,
    Catalog.findAttribute?_eq_bind solution id, ?_⟩, fun name =>
    ⟨(Catalog.group?_ofSolution solution name).symm,
      Catalog.explainGroup_ofSolution solution name assignment, ?_, ?_, fun once => ?_⟩⟩
  · rw [listed, Catalog.isVisible_report distinct]
  · rw [← Catalog.group?_ofSolution]
    exact (Catalog.ofSolution solution).group?_eq_bind name
  · rw [listed]
    exact Catalog.isGroupVisible_report_iff
  · rw [listed]
    exact Catalog.isGroupVisible_report once

/-! ### Two groups with one name -/

/-- A group of one attribute. -/
def gatheringGroup (name id : String) (conditions : List Document) : Document :=
  .record [
    ("attributes", .list [.record [("attributeName", .text id), ("description", .text id),
      ("id", .text id), ("name", .text id), ("optionsType", .text "text-input"),
      ("type", .text "attribute")]]),
    ("conditions", .list conditions), ("name", .text name), ("type", .text "group")]

/-- A page with two groups of sizes, of which the first applies in one mode only. -/
def doublePage : Document :=
  .record [("id", .text "page"), ("name", .text "Page"), ("solutions", .list [.record [
    ("attributes", .list [
      .record [("attributeName", .text "mode"), ("description", .text "mode"), ("id", .text "mode"),
        ("name", .text "mode"), ("optionsType", .text "text-input"), ("type", .text "attribute")],
      gatheringGroup "Sizes" "width" [.record [("attributeId", .text "mode"),
        ("attributeValue", .text "free"), ("type", .text "condition")]],
      gatheringGroup "Sizes" "height" [],
      gatheringGroup "Shades" "shade" []]),
    ("id", .text "layout"), ("name", .text "Layout"), ("scripts", .list [])]])]

/-- The solution of that page. -/
def doubleSolution : Solution where
  id := "layout"
  name := "Layout"
  scripts := []
  attributes := [
    .single ⟨"mode", "mode", "mode", "mode", none, none, none, .textInput none⟩,
    .group ⟨"Sizes", [⟨"width", "width", "width", "width", none, none, none, .textInput none⟩], none,
      some [.leaf "mode" (.text "free")]⟩,
    .group ⟨"Sizes", [⟨"height", "height", "height", "height", none, none, none, .textInput none⟩],
      none, some []⟩,
    .group ⟨"Shades", [⟨"shade", "shade", "shade", "shade", none, none, none, .textInput none⟩],
      none, some []⟩]

theorem isCanonical_doublePage : doublePage.IsCanonical := by
  simp +decide [doublePage, gatheringGroup, Document.IsCanonical, Document.AreCanonical,
    Document.HaveCanonical, Keyed.Sorted]

theorem violations_doublePage : violations {} doublePage = [] := by
  refine violations_eq_nil_of_lt rfl fun index member source target edge => ?_
  obtain rfl := List.mem_singleton.mp (show index ∈ [SolutionIndex.ofFields _ _] from member)
  replace edge : Edge [[], [0], [], []] source target := edge
  match source with
  | 0 => cases edge
  | 1 => exact List.mem_singleton.mp edge ▸ Nat.zero_lt_one
  | 2 => cases edge
  | 3 => cases edge
  | _ + 4 => cases edge

theorem validate_doublePage : validate {} doublePage = .ok ⟨"page", "Page", [doubleSolution]⟩ := by
  rw [validate, violations_doublePage]
  rfl

/-- Without a mode the second group of sizes applies and the first does not. -/
theorem resolve_doubleSolution :
    doubleSolution.resolve ⟨[]⟩ none = .ok ⟨["Sizes", "Shades"], ["mode", "height", "shade"]⟩ := by
  decide +kernel

/-- The height is reported since it is shown, and so are the shades, whose name is given once. -/
theorem named_of_validate_doublePage :
    (⟨["Sizes", "Shades"], ["mode", "height", "shade"]⟩ : VisibilityReport).isVisible "height"
        = ((Catalog.ofSolution doubleSolution).position? "height").any (fun position =>
            (Catalog.ofSolution doubleSolution).shown ⟨[]⟩ none (.attribute position))
      ∧ (⟨["Sizes", "Shades"], ["mode", "height", "shade"]⟩ : VisibilityReport).isGroupVisible
          "Shades" = ((Catalog.ofSolution doubleSolution).groupNumber? "Shades").any fun number =>
            (Catalog.ofSolution doubleSolution).shown ⟨[]⟩ none (.group number) := by
  obtain ⟨ids, names⟩ := named_of_validate isCanonical_doublePage validate_doublePage (.head _)
    resolve_doubleSolution
  exact ⟨(ids "height").2.2.2, (names "Shades").2.2.2.2 (by decide)⟩

/-- **The report of a name need not be about the group that it stands for**: of two groups with one
name the first is found and explained, but only the second is shown. -/
theorem exists_misnamed_doublePage : ∃ solution report gathered, doublePage.IsCanonical
    ∧ validate {} doublePage = .ok ⟨"page", "Page", [solution]⟩
    ∧ solution.resolve ⟨[]⟩ none = .ok report ∧ report.isGroupVisible "Sizes" = true
    ∧ solution.findGroup? "Sizes" = some gathered ∧ solution.groups[0]? = some gathered
    ∧ (Catalog.ofSolution solution).group? "Sizes" = some gathered
    ∧ (Catalog.ofSolution solution).groupNumber? "Sizes" = some 0
    ∧ (Catalog.ofSolution solution).shown ⟨[]⟩ none (.group 0) = false := by
  have hidden : (Catalog.ofSolution doubleSolution).shown ⟨[]⟩ none (.group 0) = false := by
    decide +kernel
  exact ⟨doubleSolution, _, _, isCanonical_doublePage, validate_doublePage, resolve_doubleSolution,
    by decide, rfl, rfl, rfl, by decide, hidden⟩

end Validator

end PageAttributes
