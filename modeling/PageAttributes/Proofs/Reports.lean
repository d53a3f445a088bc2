/-
**Every violation that is reported points at something in the document.**

* `located_repeatedIds`, `SolutionIndex.located_references`, `SolutionIndex.located_cycles` — the
  violations of names;
* `Validator.allLocated_of_validate` — all violations: a missing field is missing from a record that
  is there, a cycle is reported at the conditions of an attribute that takes part in it, and in every
  other case there is a value. The attribute of a cycle need not have conditions of its own: then it
  stands in a group that has some;
* `Validator.exists_unplaced_mutualPage` — so the violation of a cycle may point at nothing.
-/

import PageAttributes.Proofs.Grammar.Cycles
import PageAttributes.Proofs.Grammar.IndexPlaces
import PageAttributes.Proofs.Grammar.Walk
import PageAttributes.Proofs.Validation

namespace PageAttributes

namespace Grammar

variable {document : Document}

/-! ### Unique ids -/

/-- An id that was used before is there. -/
theorem located_repeatedAfter {scope : IdScope} {entries : List (String × Path)}
    (there : ∀ entry ∈ entries, IsThere document entry.2) (seen : List (String × Path)) :
    AllLocated document (repeatedAfter scope seen entries) := by
  induction entries generalizing seen with
  | nil => exact allLocated_nil
  | cons entry rest ih =>
    obtain ⟨here, others⟩ := List.forall_mem_cons.mp there
    obtain ⟨id, path⟩ := entry
    rw [repeatedAfter]
    split
    · exact List.forall_mem_cons.mpr ⟨here, ih others seen⟩
    · exact ih others _

theorem located_repeatedIds {scope : IdScope} {entries : List (String × Path)}
    (there : ∀ entry ∈ entries, IsThere document entry.2) :
    AllLocated document (repeatedIds scope entries) :=
  located_repeatedAfter there []

/-- The ids of solutions are there. -/
theorem isThere_solutionIds : ∀ entry ∈ solutionIds document, IsThere document entry.2 := by
  intro entry member
  obtain ⟨index, listed, named⟩ := List.mem_filterMap.mp member
  obtain ⟨path, fields, here, rfl⟩ := exists_of_mem_solutionIndexes index listed
  rw [SolutionIndex.id_ofFields, SolutionIndex.path_ofFields] at named
  obtain ⟨id, text, rfl⟩ := Option.map_eq_some_iff.mp named
  exact isThere_text here text

namespace SolutionIndex

variable {index : SolutionIndex}

/-! ### References -/

/-- What is wrong with a reference is located at it. -/
theorem located_references (placed : Placed document index) :
    AllLocated document (index.references.filterMap index.referenceViolation?) := by
  intro violation member
  obtain ⟨reference, listed, wrong⟩ := List.mem_filterMap.mp member
  obtain ⟨there, _⟩ := placed.references reference listed
  obtain ⟨reason, problem, rfl⟩ := Option.map_eq_some_iff.mp wrong
  unfold referenceProblem? at problem
  split at problem
  · cases problem
    exact there
  · split at problem
    · split at problem
      · cases problem
        exact there
      · cases problem
    · split at problem
      · cases problem
        exact there
      · cases problem

/-! ### Cycles -/

/-- A cycle is reported at the conditions of its first attribute, which reads another one. -/
theorem exists_cycleViolation {cycle : List Nat} (closed : IsCycle index.dependencies cycle) :
    ∃ position entry next ids, index.attributes[position]? = some entry
      ∧ next ∈ index.dependenciesOf position entry
      ∧ index.cycleViolation cycle = .because (entry.path.field "conditions") (.cycle ids) := by
  have leads := @closed.exists_edge
  obtain ⟨first, rest, rfl, _⟩ := closed
  obtain ⟨next, edge⟩ := leads (.head _)
  unfold Edge dependencies at edge
  rw [List.getElem?_mapIdx] at edge
  cases listed : index.attributes[first]? with
  | none =>
    rw [listed] at edge
    cases edge
  | some entry =>
    rw [listed, Option.map_some, Option.getD_some] at edge
    have reported : ∃ ids, index.cycleViolation (first :: rest)
        = .because (entry.path.field "conditions") (.cycle ids) := by
      unfold cycleViolation
      rw [List.take_succ_cons, List.take_zero, List.cons_append, List.filterMap_cons_some listed]
      exact ⟨_, rfl⟩
    obtain ⟨ids, same⟩ := reported
    exact ⟨first, entry, next, ids, listed, edge, same⟩

/-- An owner that reads something has conditions. -/
theorem Placed.placesOwner_of_mem_targetsOf (placed : Placed document index) {owner : Owner}
    {next : Nat} (reads : next ∈ index.targetsOf owner) : PlacesOwner document index owner := by
  obtain ⟨reference, owned, _⟩ := List.mem_filterMap.mp reads
  obtain ⟨listed, same⟩ := List.mem_filter.mp owned
  have placed := (placed.references reference listed).2
  rwa [beq_iff_eq.mp same] at placed

/-- The attribute that a cycle is reported at has conditions, or its group has. -/
theorem located_cycles (placed : Placed document index) :
    AllLocated document ((findCycles index.dependencies).map index.cycleViolation) := by
  intro violation member
  obtain ⟨cycle, found, rfl⟩ := List.mem_map.mp member
  obtain ⟨position, entry, next, ids, listed, reads, same⟩ :=
    exists_cycleViolation (isCycle_of_mem_findCycles found)
  have places := placed.attributes entry (List.mem_of_getElem? listed)
  obtain ⟨fields, here, _⟩ := places.id
  rw [same]
  refine ⟨entry.path, fields, rfl, here, ?_⟩
  rw [dependenciesOf, List.mem_eraseDups, List.mem_append] at reads
  -- The attribute reads the next one in its own conditions or in those of its group.
  rcases reads with own | inherited
  · obtain ⟨other, listedToo, conditioned⟩ := placed.placesOwner_of_mem_targetsOf own
    cases listed.symm.trans listedToo
    exact Or.inl conditioned
  · cases inGroup : entry.group with
    | none =>
      rw [inGroup] at inherited
      cases inherited
    | some number =>
      rw [inGroup] at inherited
      obtain ⟨group, listedToo, conditioned⟩ := placed.placesOwner_of_mem_targetsOf inherited
      obtain ⟨_, place, listedGroup, standsIn⟩ := places.inside number inGroup
      cases listedGroup.symm.trans listedToo
      exact Or.inr ⟨group, place, standsIn, conditioned⟩

/-- What is wrong with the names in a solution is located. -/
theorem located_violations {path : Path} {fields : Fields}
    (here : document.at? path = some (.record fields)) (detectCycles : Bool) :
    AllLocated document ((ofFields path fields).violations detectCycles) := by
  have placed := placed_ofFields here
  have ids : ∀ entry ∈ (ofFields path fields).attributeIds, IsThere document entry.2 := by
    refine List.forall_mem_map.mpr fun entry member => ?_
    obtain ⟨its, there, named⟩ := (placed.attributes entry member).id
    obtain ⟨value, found⟩ := Option.isSome_iff_exists.mp named
    exact isThere_field there found
  have cycles : AllLocated document (if detectCycles then
      (findCycles (ofFields path fields).dependencies).map (ofFields path fields).cycleViolation
      else []) := by
    split
    · exact located_cycles placed
    · exact allLocated_nil
  simp only [violations, allLocated_append, located_repeatedIds (isThere_scripts here),
    located_repeatedIds ids, located_references placed, cycles, and_self]

end SolutionIndex

/-- **What is wrong with the names in a document is located.** -/
theorem located_crossViolations (detectCycles : Bool) (document : Document) :
    AllLocated document (crossViolations detectCycles document) := by
  refine (located_repeatedIds isThere_solutionIds).append fun violation member => ?_
  obtain ⟨index, listed, inside⟩ := List.mem_flatMap.mp member
  obtain ⟨path, fields, here, rfl⟩ := exists_of_mem_solutionIndexes index listed
  exact SolutionIndex.located_violations here detectCycles violation inside

end Grammar

namespace Validator

open Grammar

/-- **Every violation that is reported points at something in the document.** A missing field is
missing from a record that is there. A cycle is reported at the conditions of an attribute that is
there, and if it has none of its own then the group around it has. In every other case there is a
value. -/
theorem allLocated_of_validate {validator : Validator} {document : Document}
    {reported : List Violation} (refused : validator.validate document = .error reported) :
    AllLocated document reported := by
  have all : AllLocated document (validator.violations document) :=
    (located_checkSchema validator.strict document).append
      (located_crossViolations validator.detectCycles document)
  unfold validate at refused
  split at refused
  · split at refused
    · cases refused
    · cases refused
      exact allLocated_singleton (isThere_of_at? rfl)
  · rename_i found
    cases refused
    rwa [found] at all

/-- A page with an id that is no text, and without solutions. -/
theorem allLocated_of_validate_untitledPage :
    AllLocated (.record [("id", .null), ("name", .text "Page")])
      [.because [.field "id"] (.wrongKind "string" "null"),
        .because [.field "solutions"] .missingField] :=
  @allLocated_of_validate ⟨true, true⟩ _ _ rfl

/-! ### A cycle through the conditions of groups -/

/-- A group of one attribute, whose conditions read another one. -/
def readingGroup (id read : String) : Document :=
  .record [
    ("attributes", .list [.record [("attributeName", .text id), ("description", .text id),
      ("id", .text id), ("name", .text id), ("optionsType", .text "text-input"),
      ("type", .text "attribute")]]),
    ("conditions", .list [.record [("attributeId", .text read), ("attributeValue", .text "on"),
      ("type", .text "condition")]]),
    ("name", .text id), ("type", .text "group")]

/-- The fields of a solution with two groups that read each other's attribute. -/
def mutualFields : Fields :=
  [("attributes", .list [readingGroup "first" "second", readingGroup "second" "first"]),
    ("id", .text "layout"), ("name", .text "Layout"), ("scripts", .list [])]

/-- The page of that solution. -/
def mutualPage : Document :=
  .record [("id", .text "page"), ("name", .text "Page"), ("solutions", .list [.record mutualFields])]

/-- The index of that solution. -/
def mutualIndex : SolutionIndex :=
  .ofFields (((Path.root).field "solutions").index 0) mutualFields

/-- The search finds a cycle, since each of both attributes reads the other one. -/
theorem exists_mem_findCycles_mutual : ∃ cycle, cycle ∈ findCycles mutualIndex.dependencies := by
  have edges : mutualIndex.dependencies = [[1], [0]] := rfl
  have there : Edge [[1], [0]] 0 1 := List.mem_singleton_self 1
  have back : Edge [[1], [0]] 1 0 := List.mem_singleton_self 0
  rw [edges]
  refine List.exists_mem_of_ne_nil _ fun nothing => ?_
  exact (findCycles_eq_nil_iff _).mp nothing 0 (.head there (.single back))

/-- Neither attribute has conditions of its own. -/
theorem at?_conditions_mutual {position : Nat} {entry : AttributeEntry}
    (listed : mutualIndex.attributes[position]? = some entry) :
    mutualPage.at? (entry.path.field "conditions") = none := by
  match position with
  | 0 =>
    cases listed
    rfl
  | 1 =>
    cases listed
    rfl
  | _ + 2 => cases listed

/-- **The violation of a cycle need not point at a value**: two groups read each other's attribute,
and neither attribute has conditions of its own. -/
theorem exists_unplaced_mutualPage : ∃ reported, validate {} mutualPage = .error reported
    ∧ ∃ violation ∈ reported, violation.reason ≠ .missingField
      ∧ mutualPage.at? violation.path = none := by
  obtain ⟨cycle, found⟩ := exists_mem_findCycles_mutual
  obtain ⟨position, entry, _, ids, listed, _, same⟩ :=
    SolutionIndex.exists_cycleViolation (isCycle_of_mem_findCycles found)
  have inside : mutualIndex.cycleViolation cycle ∈ violations {} mutualPage := by
    have indexed : mutualIndex ∈ solutionIndexes mutualPage := List.mem_singleton_self _
    refine List.mem_append_right _ (List.mem_append_right _ ?_)
    refine List.mem_flatMap.mpr ⟨mutualIndex, indexed, List.mem_append_right _ ?_⟩
    exact List.mem_map_of_mem found
  rw [same] at inside
  cases all : violations {} mutualPage with
  | nil =>
    rw [all] at inside
    cases inside
  | cons first rest =>
    rw [all] at inside
    refine ⟨first :: rest, ?_, _, inside, nofun, at?_conditions_mutual listed⟩
    rw [validate, all]

end Validator

end PageAttributes
