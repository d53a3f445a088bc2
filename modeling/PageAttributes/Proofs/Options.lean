/-
**The options of a validator only choose what is reported.**

* `crossViolations_filter` — what is wrong with the names of a document without looking for cycles is
  what is wrong with them, without the cycles;
* `Validator.options_filter` — a validator that passes over unknown keys or does not look for
  cycles reports what any other does, without those entries and in the same order; so it accepts
  whatever the other accepts, as the same schema.
-/

import PageAttributes.Proofs.Artifact
import PageAttributes.Proofs.Grammar.Findings

namespace PageAttributes

namespace Grammar

/-! ### Names -/

/-- A repeated id is reported whatever the options are. -/
theorem isSteady_repeatedIds (scope : IdScope) (entries : List (String × Path)) :
    ∀ violation ∈ repeatedIds scope entries, violation.reason.isSteady = true := by
  intro violation member
  obtain ⟨entry, _, first, rfl⟩ := exists_of_mem_repeatedIds member
  rfl

/-- What is wrong with a reference is reported whatever the options are. -/
theorem isSteady_references (index : SolutionIndex) :
    ∀ violation ∈ index.references.filterMap index.referenceViolation?,
      violation.reason.isSteady = true := by
  intro violation member
  obtain ⟨_, _, reason, steady, rfl⟩ := SolutionIndex.exists_of_mem_references member
  exact steady

/-- Steady reasons stay where cycles are left out. -/
theorem filter_not_cycle_of_isSteady {found : List Violation}
    (steady : ∀ violation ∈ found, violation.reason.isSteady = true) :
    (found.filter fun violation => !violation.reason.reportsCycle) = found := by
  refine List.filter_eq_self.mpr fun violation member => ?_
  rw [(Reason.wording_of_isSteady (steady violation member)).2]
  rfl

/-- What is wrong with the names in a solution, without the cycles. -/
theorem SolutionIndex.violations_filter (index : SolutionIndex) :
    index.violations false
      = (index.violations true).filter fun violation => !violation.reason.reportsCycle := by
  have cycles : ((findCycles index.dependencies).map index.cycleViolation).filter
      (fun violation => !violation.reason.reportsCycle) = [] := by
    refine List.filter_eq_nil_iff.mpr (List.forall_mem_map.mpr fun cycle _ => ?_)
    show ¬ (!(Reason.cycle _).reportsCycle) = true
    rw [(Reason.wording_cycle _).2]
    exact Bool.false_ne_true
  unfold SolutionIndex.violations
  rw [if_neg Bool.false_ne_true, if_pos rfl, List.filter_append, List.filter_append,
    List.filter_append, cycles, filter_not_cycle_of_isSteady (isSteady_repeatedIds _ _),
    filter_not_cycle_of_isSteady (isSteady_repeatedIds _ _),
    filter_not_cycle_of_isSteady (isSteady_references index)]

/-- **What is wrong with the names of a document, without the cycles.** -/
theorem crossViolations_filter (document : Document) :
    crossViolations false document
      = (crossViolations true document).filter fun violation =>
          !violation.reason.reportsCycle := by
  unfold crossViolations
  rw [List.filter_append, filter_not_cycle_of_isSteady (isSteady_repeatedIds _ _),
    List.filter_flatMap]
  congr 2
  funext index
  exact index.violations_filter

/-- No name is an unknown key. -/
theorem not_unknownKey_crossViolations (detectCycles : Bool) (document : Document) :
    ∀ violation ∈ crossViolations detectCycles document,
      violation.reason.reportsUnknownKey = false := by
  have ofSteady : ∀ {violation : Violation}, violation.reason.isSteady = true →
      violation.reason.reportsUnknownKey = false := fun steady =>
    (Reason.wording_of_isSteady steady).1
  intro violation member
  rcases List.mem_append.mp member with ids | names
  · exact ofSteady (isSteady_repeatedIds _ _ violation ids)
  · obtain ⟨index, _, inside⟩ := List.mem_flatMap.mp names
    rcases SolutionIndex.mem_violations inside with scripts | attributes | references | cycles
    · exact ofSteady (isSteady_repeatedIds _ _ violation scripts)
    · exact ofSteady (isSteady_repeatedIds _ _ violation attributes)
    · exact ofSteady (isSteady_references index violation references)
    · obtain ⟨_, _, ids, rfl⟩ := SolutionIndex.exists_of_mem_cycles cycles
      exact (Reason.wording_cycle ids).1

end Grammar

namespace Validator

open Grammar

/-! ### Validators -/

/-- Passing over unknown keys leaves them out of the report, and nothing else. -/
theorem violations_lenient (detectCycles : Bool) (document : Document) :
    violations ⟨false, detectCycles⟩ document
      = (violations ⟨true, detectCycles⟩ document).filter fun violation =>
          !violation.reason.reportsUnknownKey := by
  have names : (crossViolations detectCycles document).filter
      (fun violation => !violation.reason.reportsUnknownKey)
        = crossViolations detectCycles document := by
    refine List.filter_eq_self.mpr fun violation member => ?_
    rw [not_unknownKey_crossViolations detectCycles document violation member]
    rfl
  unfold violations
  rw [List.filter_append, names, ← (checks_checkSchema document).kept]

/-- Not looking for cycles leaves them out of the report, and nothing else. -/
theorem violations_acyclic (strict : Bool) (document : Document) :
    violations ⟨strict, false⟩ document
      = (violations ⟨strict, true⟩ document).filter fun violation =>
          !violation.reason.reportsCycle := by
  have shape : (checkSchema strict document).filter
      (fun violation => !violation.reason.reportsCycle) = checkSchema strict document := by
    refine List.filter_eq_self.mpr fun violation member => ?_
    rw [((checks_checkSchema document).reported strict violation member).not_cycle]
    rfl
  unfold violations
  rw [List.filter_append, shape, crossViolations_filter]

/-- A validator that reports nothing where another does not accepts what the other accepts. -/
theorem validate_of_violations_eq_nil {first second : Validator} {document : Document}
    {schema : Schema} (accepted : first.validate document = .ok schema)
    (nothing : first.violations document = [] → second.violations document = []) :
    second.validate document = .ok schema := by
  unfold validate at accepted ⊢
  cases found : first.violations document with
  | nil =>
    rw [found] at accepted
    rw [nothing found]
    exact accepted
  | cons violation rest =>
    rw [found] at accepted
    cases accepted

/-- **The options of a validator only choose what is reported.** One that passes over unknown keys
reports what one that refuses them does, without the entries worded as unknown keys; one that does
not look for cycles reports what one that does look for them does, without the entries worded as
cycles. Order and content of the others stay, and whatever is accepted with an option is accepted
without it, as the same schema. -/
theorem options_filter (strict detectCycles : Bool) (document : Document) :
    violations ⟨false, detectCycles⟩ document
        = (violations ⟨true, detectCycles⟩ document).filter (fun violation =>
            !violation.reason.reportsUnknownKey)
      ∧ violations ⟨strict, false⟩ document
        = (violations ⟨strict, true⟩ document).filter (fun violation =>
            !violation.reason.reportsCycle)
      ∧ ∀ schema, validate ⟨strict, detectCycles⟩ document = .ok schema →
          validate ⟨false, detectCycles⟩ document = .ok schema
            ∧ validate ⟨strict, false⟩ document = .ok schema
            ∧ validate ⟨false, false⟩ document = .ok schema := by
  have lenient := fun detectCycles => violations_lenient detectCycles document
  have acyclic := fun strict => violations_acyclic strict document
  refine ⟨lenient detectCycles, acyclic strict, fun schema accepted => ?_⟩
  have withUnknown : validate ⟨false, detectCycles⟩ document = .ok schema := by
    refine validate_of_violations_eq_nil accepted fun nothing => ?_
    cases strict with
    | false => exact nothing
    | true => rw [lenient detectCycles, nothing, List.filter_nil]
  have withCycles : ∀ strict, validate ⟨strict, detectCycles⟩ document = .ok schema →
      validate ⟨strict, false⟩ document = .ok schema := by
    intro strict accepted
    refine validate_of_violations_eq_nil accepted fun nothing => ?_
    cases detectCycles with
    | false => exact nothing
    | true => rw [acyclic strict, nothing, List.filter_nil]
  exact ⟨withUnknown, withCycles strict accepted, withCycles false withUnknown⟩

/-- The page with a condition of a hundred and twenty-eight levels is accepted by validators with and
without either option. -/
theorem options_filter_page :
    validate ⟨true, true⟩ (.record (pageFields 127)) = .ok (pageSchema 127)
      ∧ validate ⟨false, true⟩ (.record (pageFields 127)) = .ok (pageSchema 127)
      ∧ validate ⟨true, false⟩ (.record (pageFields 127)) = .ok (pageSchema 127)
      ∧ validate ⟨false, false⟩ (.record (pageFields 127)) = .ok (pageSchema 127) := by
  have within : 127 < Condition.depthLimit := by decide
  have accepted := validate_page within
  exact ⟨accepted, (options_filter true true _).2.2 _ accepted⟩

end Validator

end PageAttributes
