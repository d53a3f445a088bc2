/-
**The violations of one kind.**

* `ofKind_eq_self`, `ofKind_eq_nil` — of violations that are all of one kind, all are kept or none;
* `SolutionIndex.ofKind_uniqueness_violations`, `SolutionIndex.ofKind_referential_violations` — in a
  solution ids that repeat are violations of uniqueness, and references and cycles are referential.
-/

import PageAttributes.Proofs.Grammar.Findings

namespace PageAttributes.Grammar

variable {found : List Violation} {kind other : ViolationKind}

theorem ofKind_append (first second : List Violation) (kind : ViolationKind) :
    Violations.ofKind (first ++ second) kind
      = Violations.ofKind first kind ++ Violations.ofKind second kind := List.filter_append ..

theorem ofKind_flatMap {α : Type} (about : α → List Violation) (parts : List α)
    (kind : ViolationKind) :
    Violations.ofKind (parts.flatMap about) kind
      = parts.flatMap fun part => Violations.ofKind (about part) kind := List.filter_flatMap

theorem ofKind_eq_self (all : ∀ violation ∈ found, violation.kind = kind) :
    Violations.ofKind found kind = found :=
  List.filter_eq_self.mpr fun violation member => beq_iff_eq.mpr (all violation member)

theorem ofKind_eq_nil (all : ∀ violation ∈ found, violation.kind = other) (differs : other ≠ kind) :
    Violations.ofKind found kind = [] := by
  refine List.filter_eq_nil_iff.mpr fun violation member same => differs ?_
  rw [← all violation member, beq_iff_eq.mp same]

theorem kind_of_mem_repeatedIds {scope : IdScope} {entries : List (String × Path)} :
    ∀ violation ∈ repeatedIds scope entries, violation.kind = .uniqueness := by
  intro violation member
  obtain ⟨_, _, _, rfl⟩ := exists_of_mem_repeatedIds member
  rfl

namespace SolutionIndex

variable {index : SolutionIndex}

/-- Whatever is wrong with a reference is about what it refers to. -/
theorem kind_of_referenceProblem? {reference : Reference} {reason : Reason}
    (wrong : index.referenceProblem? reference = some reason) : reason.kind = .referential := by
  unfold referenceProblem? at wrong
  split at wrong
  · cases wrong
    rfl
  · split at wrong <;> split at wrong <;> cases wrong <;> rfl

theorem kind_of_mem_references :
    ∀ violation ∈ index.references.filterMap index.referenceViolation?,
      violation.kind = .referential := by
  intro violation member
  obtain ⟨reference, _, wrong⟩ := List.mem_filterMap.mp member
  obtain ⟨reason, problem, rfl⟩ := Option.map_eq_some_iff.mp wrong
  exact kind_of_referenceProblem? problem

/-- The cycles that are reported, if they are looked for. -/
def cycleViolations (index : SolutionIndex) (detectCycles : Bool) : List Violation :=
  if detectCycles then (findCycles index.dependencies).map index.cycleViolation else []

theorem kind_of_mem_cycleViolations (detectCycles : Bool) :
    ∀ violation ∈ index.cycleViolations detectCycles, violation.kind = .referential := by
  unfold cycleViolations
  split
  · exact List.forall_mem_map.mpr fun _ _ => rfl
  · exact List.forall_mem_nil _

/-- Ids that repeat are the violations of uniqueness in a solution. -/
theorem ofKind_uniqueness_violations (index : SolutionIndex) (detectCycles : Bool) :
    Violations.ofKind (index.violations detectCycles) .uniqueness
      = repeatedIds .script index.scripts ++ repeatedIds .attribute index.attributeIds := by
  rw [violations, ← cycleViolations, ofKind_append, ofKind_append, ofKind_append,
    ofKind_eq_self kind_of_mem_repeatedIds, ofKind_eq_self kind_of_mem_repeatedIds,
    ofKind_eq_nil kind_of_mem_references (by decide),
    ofKind_eq_nil (kind_of_mem_cycleViolations detectCycles) (by decide), List.append_nil,
    List.append_nil]

/-- What is wrong with references and the cycles are the referential violations in a solution. -/
theorem ofKind_referential_violations (index : SolutionIndex) (detectCycles : Bool) :
    Violations.ofKind (index.violations detectCycles) .referential
      = index.references.filterMap index.referenceViolation?
        ++ index.cycleViolations detectCycles := by
  rw [violations, ← cycleViolations, ofKind_append, ofKind_append, ofKind_append,
    ofKind_eq_nil kind_of_mem_repeatedIds (by decide),
    ofKind_eq_nil kind_of_mem_repeatedIds (by decide), ofKind_eq_self kind_of_mem_references,
    ofKind_eq_self (kind_of_mem_cycleViolations detectCycles), List.nil_append, List.nil_append]

end SolutionIndex

end PageAttributes.Grammar
