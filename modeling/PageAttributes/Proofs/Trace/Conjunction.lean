/-
**A list of conditions against the `and` group of them.**

* `Trace.tightness` — how tight the line of a trace binds, once groups of which one member is shown
  are written as that member;
* `Trace.formatInside_eq` — inside something that binds tighter a line only gets parentheses;
* `Trace.formatAll_eq` — the line of the members of an `and` group against the line of the group;
* `Condition.conjunction_spec` — a list of conditions holds when the group of them does, and is
  traced with the same members and outcome. Their lines are the same, but for one case: of a list of
  several conditions of which only a disjunction was looked at, the line is put in parentheses.
-/

import PageAttributes.Trace.Format

namespace PageAttributes

namespace Trace

mutual

/-- How tight the line of a trace binds. -/
def tightness : Trace → Nat
  | .group operator members outcome =>
    if shownCount members = 1 then shownTightness members
    else precedence (.group operator members outcome)
  | .leaf .. => 9
  | .skipped => 9

/-- How tight the line of the first trace binds that is shown. -/
def shownTightness : List Trace → Nat
  | [] => 9
  | .skipped :: rest => shownTightness rest
  | trace :: _ => tightness trace

end

/-! ### Lines -/

@[simp] theorem parenthesize_false (line : String) : parenthesize false line = line := rfl

/-- Nothing binds less tight than nothing. -/
@[simp] theorem parenthesize_zero (tight : Nat) (line : String) :
    parenthesize (tight < 0) line = line := by
  rw [decide_eq_false (Nat.not_lt_zero tight), parenthesize_false]

/-- Every trace that is shown has a line. -/
theorem length_formatShown (around : Nat) (traces : List Trace) :
    (formatShown around traces).length = shownCount traces := by
  induction traces with
  | nil => rfl
  | cons trace rest ih =>
    cases trace with
    | skipped => simpa [formatShown, shownCount, isSkipped] using ih
    | _ => simpa [formatShown, shownCount, isSkipped] using ih

mutual

/-- **What is around a trace decides about nothing but parentheses.** -/
theorem formatInside_eq (around : Nat) :
    ∀ trace : Trace,
      formatInside around trace = parenthesize (tightness trace < around) trace.format
  | .leaf attributeId expected actual outcome => by
    rw [format, formatInside, formatInside, tightness, parenthesize_zero]
  | .skipped => by
    rw [format, formatInside, formatInside, tightness, parenthesize_zero]
  | .group operator members outcome => by
    rw [format, formatInside, formatInside, tightness]
    by_cases single : shownCount members = 1
    · simp only [if_pos single]
      exact headD_formatShown around members (by omega)
    · simp only [if_neg single, parenthesize_zero]

/-- The same for the first trace that is shown. -/
theorem headD_formatShown (around : Nat) :
    ∀ traces : List Trace, 0 < shownCount traces →
      (formatShown around traces).headD ""
        = parenthesize (shownTightness traces < around) ((formatShown 0 traces).headD "")
  | [], shown => absurd shown (Nat.lt_irrefl 0)
  | .skipped :: rest, shown => headD_formatShown around rest shown
  | .leaf attributeId expected actual outcome :: _, _ =>
    formatInside_eq around (.leaf attributeId expected actual outcome)
  | .group operator members outcome :: _, _ =>
    formatInside_eq around (.group operator members outcome)

end

/-- If one trace is shown, its line is the line of all of them. -/
theorem intercalate_formatShown {traces : List Trace} (single : shownCount traces = 1)
    (separator : String) (around : Nat) :
    separator.intercalate (formatShown around traces) = (formatShown around traces).headD "" := by
  obtain ⟨line, only⟩ :=
    List.length_eq_one_iff.mp ((length_formatShown around traces).trans single)
  rw [only]
  rfl

/-- **The line of the members of an `and` group against the line of the group.** -/
theorem formatAll_eq (members : List Trace) (outcome : Bool) :
    formatAll members
      = parenthesize (1 < members.length ∧ (group .all members outcome).tightness < 2)
          (group .all members outcome).format := by
  rw [formatAll, format, formatInside, tightness]
  by_cases single : shownCount members = 1
  · simp only [if_pos single]
    rw [intercalate_formatShown single, headD_formatShown _ members (by omega)]
    by_cases several : 1 < members.length
    · simp only [several, if_true, true_and]
    · simp [several]
  · simp only [if_neg single, precedence]
    by_cases several : 1 < members.length
    · simp [several, Operator.sign]
    · -- A list of at most one trace of which none is shown has no line at all.
      have none : shownCount members = 0 := by
        have few : shownCount members ≤ members.length := List.length_filter_le _ _
        omega
      have empty (around : Nat) : formatShown around members = [] :=
        List.length_eq_zero_iff.mp ((length_formatShown around members).trans none)
      simp [empty, several]

end Trace

namespace Condition

/-- Every condition has a trace, if only one that says that it was skipped. -/
theorem length_traceSequence (assignment : Assignment) (operator : Operator)
    (conditions : List Condition) :
    (traceSequence assignment operator conditions).1.length = conditions.length := by
  induction conditions with
  | nil => rfl
  | cons first rest ih =>
    rw [traceSequence]
    split
    · simp
    · simpa using ih

/-- **A list of conditions is decided and traced as the `and` group of them.** The line of the list
is the line of the group, in parentheses exactly if the list has several conditions and the line of
the group is that of a disjunction. -/
theorem conjunction_spec (assignment : Assignment) (conditions : List Condition) :
    listHolds assignment (some conditions) = holds assignment (.group .all conditions)
      ∧ trace assignment (.group .all conditions)
          = .group .all (traceAll assignment conditions).1 (traceAll assignment conditions).2
      ∧ Trace.formatAll (traceAll assignment conditions).1
          = Trace.parenthesize
              (1 < conditions.length ∧ (trace assignment (.group .all conditions)).tightness < 2)
              (trace assignment (.group .all conditions)).format := by
  have traced : trace assignment (.group .all conditions)
      = .group .all (traceAll assignment conditions).1 (traceAll assignment conditions).2 := by
    rw [trace, traceAll]
  refine ⟨by rw [listHolds, holds, Option.getD_some], traced, ?_⟩
  rw [traced, Trace.formatAll_eq _ (traceAll assignment conditions).2, traceAll,
    length_traceSequence]

/-- Conditions of which the second is not looked at while neither `first` nor `second` is set. -/
def eitherThenThird : List Condition :=
  [.group .any [.leaf "first" (.text "on"), .leaf "second" (.text "on")],
    .leaf "third" (.text "on")]

/-- A list may be written with parentheses that the group of its conditions does not have. -/
theorem formatAll_eitherThenThird :
    Trace.formatAll (traceAll .empty eitherThenThird).1
        = "(first == \"on\" (was unset) OR second == \"on\" (was unset))"
      ∧ (trace .empty (.group .all eitherThenThird)).format
        = "first == \"on\" (was unset) OR second == \"on\" (was unset)" := by
  decide

end Condition

end PageAttributes
