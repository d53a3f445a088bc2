/-
**Traces tell which conditions were looked at, and what came out of them.**

* `Condition.Follows` — some traces follow some conditions: one for each, up to the first condition
  that decides the outcome the trace of the condition, and behind it none was looked at;
* `Condition.follows_traceSequence` — the traces of the members of a group follow them;
* `Condition.trace_spec` — a trace has the outcome of its condition, and it follows the condition at
  every leaf and in every group.
-/

import PageAttributes.Proofs.Trace.Formula

namespace PageAttributes.Condition

/-- Some traces follow some conditions that an operator joins. A condition is looked at as long as
none before it has the decisive outcome. -/
structure Follows (assignment : Assignment) (operator : Operator) (conditions : List Condition)
    (traces : List Trace) : Prop where
  length_eq : traces.length = conditions.length
  looked : ∀ position condition, conditions[position]? = some condition →
    (∀ earlier ∈ conditions.take position, holds assignment earlier ≠ operator.decisive) →
      traces[position]? = some (trace assignment condition)
        ∧ trace assignment condition ≠ .skipped
  skipped : ∀ position, position < conditions.length →
    (∃ earlier ∈ conditions.take position, holds assignment earlier = operator.decisive) →
      traces[position]? = some .skipped

/-- A condition that is looked at is not skipped. -/
theorem trace_ne_skipped (assignment : Assignment) (condition : Condition) :
    trace assignment condition ≠ .skipped := by
  intro same
  have looked := isSkipped_trace assignment condition
  rw [same] at looked
  cases looked

/-- **The traces of the members of a group follow them.** -/
theorem follows_traceSequence (assignment : Assignment) (operator : Operator)
    (conditions : List Condition) :
    Follows assignment operator conditions (traceSequence assignment operator conditions).1 := by
  induction conditions with
  | nil =>
    refine ⟨rfl, fun position condition listed => ?_, fun position inside => ?_⟩
    · cases listed
    · exact absurd inside (Nat.not_lt_zero position)
  | cons first rest ih =>
    refine ⟨length_traceSequence assignment operator (first :: rest), ?_, ?_⟩
    all_goals rw [traceSequence, outcome_trace]
    · intro position condition listed before
      refine ⟨?_, trace_ne_skipped assignment condition⟩
      cases position with
      | zero =>
        obtain rfl : first = condition := Option.some.inj listed
        split <;> rfl
      | succ position =>
        obtain ⟨undecided, before⟩ := List.forall_mem_cons.mp before
        rw [if_neg undecided]
        exact (ih.looked position condition listed before).1
    · intro position inside ⟨earlier, among, decides⟩
      cases position with
      | zero => cases among
      | succ position =>
        have within : position < rest.length := Nat.lt_of_succ_lt_succ inside
        by_cases decided : holds assignment first = operator.decisive
        · rw [if_pos decided, List.getElem?_cons_succ, List.getElem?_map,
            List.getElem?_eq_getElem within, Option.map_some]
        · rw [if_neg decided]
          rcases List.mem_cons.mp among with rfl | later
          · exact (decided decides).elim
          · exact ih.skipped position within ⟨earlier, later, decides⟩

/-- **Tracing agrees with deciding, and looks at no more conditions.** What came out of a trace is
whether the condition holds. The trace of a leaf has its id, what it expects and the value that is
there. The trace of a group has its operator and a trace for each member, and these follow the
members: `and` stops behind the first one that does not hold, `or` behind the first one that does.
Lists of conditions are traced like the members of an `and` group. -/
theorem trace_spec (assignment : Assignment) :
    (∀ condition, (trace assignment condition).outcome = holds assignment condition)
      ∧ (∀ attributeId expected, trace assignment (.leaf attributeId expected)
          = .leaf attributeId expected (assignment.get? attributeId)
              (holds assignment (.leaf attributeId expected)))
      ∧ (∀ operator members, ∃ traces, trace assignment (.group operator members)
            = .group operator traces (holds assignment (.group operator members))
          ∧ Follows assignment operator members traces)
      ∧ ∀ conditions, ∃ traces,
          traceAll assignment conditions = (traces, listHolds assignment (some conditions))
            ∧ Follows assignment .all conditions traces := by
  refine ⟨outcome_trace assignment, fun attributeId expected => ?_, fun operator members => ?_,
    fun conditions => ?_⟩
  · rw [trace, holds]
  · have outcome := outcome_trace assignment (.group operator members)
    rw [trace, Trace.outcome] at outcome
    refine ⟨_, ?_, follows_traceSequence assignment operator members⟩
    rw [← outcome, trace]
  · have outcome := outcome_traceSequence assignment .all conditions
    refine ⟨_, Prod.ext rfl ?_, follows_traceSequence assignment .all conditions⟩
    rw [traceAll, outcome, groupHolds, listHolds, Option.getD_some]

end PageAttributes.Condition
