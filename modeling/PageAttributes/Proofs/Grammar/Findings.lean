/-
**What is wrong with names, entry by entry.**

* `exists_of_mem_repeatedIds` — a repeated id is reported at its own place;
* `exists_of_mem_references` — what is wrong with a reference is reported at the reference;
* `exists_of_mem_cycles` — a cycle is reported at the conditions of an attribute;
* `mem_violations` — in a solution nothing else is reported.
-/

import PageAttributes.Proofs.Grammar.Wording
import PageAttributes.Proofs.Reports

namespace PageAttributes.Grammar

variable {violation : Violation}

/-- An id that was used before is reported at its own place. -/
theorem exists_of_mem_repeatedAfter {scope : IdScope} {entries : List (String × Path)} :
    ∀ {seen}, violation ∈ repeatedAfter scope seen entries →
      ∃ entry ∈ entries, ∃ first,
        violation = .because entry.2 (.repeatedId scope entry.1 first) := by
  induction entries with
  | nil => exact fun member => nomatch member
  | cons entry rest ih =>
    intro seen member
    unfold repeatedAfter at member
    split at member
    · rename_i first _
      rcases List.mem_cons.mp member with rfl | later
      · exact ⟨entry, .head _, first, rfl⟩
      · obtain ⟨other, among, known⟩ := ih later
        exact ⟨other, .tail _ among, known⟩
    · obtain ⟨other, among, known⟩ := ih member
      exact ⟨other, .tail _ among, known⟩

theorem exists_of_mem_repeatedIds {scope : IdScope} {entries : List (String × Path)}
    (member : violation ∈ repeatedIds scope entries) :
    ∃ entry ∈ entries, ∃ first, violation = .because entry.2 (.repeatedId scope entry.1 first) :=
  exists_of_mem_repeatedAfter member

namespace SolutionIndex

variable {index : SolutionIndex}

/-- What is wrong with a reference is reported at the reference, whatever the options are. -/
theorem exists_of_mem_references
    (member : violation ∈ index.references.filterMap index.referenceViolation?) :
    ∃ reference ∈ index.references, ∃ reason : Reason, reason.isSteady = true
      ∧ violation = .because reference.path reason := by
  obtain ⟨reference, listed, wrong⟩ := List.mem_filterMap.mp member
  obtain ⟨reason, problem, rfl⟩ := Option.map_eq_some_iff.mp wrong
  refine ⟨reference, listed, reason, ?_, rfl⟩
  unfold referenceProblem? at problem
  split at problem
  · cases problem
    rfl
  · split at problem <;> split at problem <;> cases problem <;> rfl

/-- A cycle is reported at the conditions of an attribute. -/
theorem exists_of_mem_cycles
    (member : violation ∈ (findCycles index.dependencies).map index.cycleViolation) :
    ∃ entry ∈ index.attributes, ∃ ids,
      violation = .because (entry.path.field "conditions") (.cycle ids) := by
  obtain ⟨cycle, found, rfl⟩ := List.mem_map.mp member
  obtain ⟨position, entry, _, ids, listed, _, same⟩ :=
    exists_cycleViolation (isCycle_of_mem_findCycles found)
  exact ⟨entry, List.mem_of_getElem? listed, ids, same⟩

/-- Where what is wrong with the names in a solution is found. -/
theorem mem_violations {detectCycles : Bool} (member : violation ∈ index.violations detectCycles) :
    violation ∈ repeatedIds .script index.scripts
      ∨ violation ∈ repeatedIds .attribute index.attributeIds
      ∨ violation ∈ index.references.filterMap index.referenceViolation?
      ∨ violation ∈ (findCycles index.dependencies).map index.cycleViolation := by
  unfold violations at member
  rw [List.mem_append, List.mem_append, List.mem_append, or_assoc, or_assoc] at member
  refine member.imp_right (Or.imp_right (Or.imp_right fun cycles => ?_))
  split at cycles
  · exact cycles
  · cases cycles

end SolutionIndex

end PageAttributes.Grammar
