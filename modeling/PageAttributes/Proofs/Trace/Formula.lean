/-
**The line of a trace is a formula for what came out.**

* `Trace.Token`, `Trace.Formula` — what a line is put together from, and which sequences of it are
  formulas, with the value of each; `AND` binds tighter than `OR`;
* `Trace.Formula.value_unique` — a sequence of tokens has at most one value;
* `Condition.readings` — what was found at the leaves that are looked at, from left to right;
* `Trace.leaves`, `Condition.leaves_trace` — the leaves of a trace are the ones that were looked at;
* `Trace.Tells` — a line is put together from tokens that make up a formula over some leaves;
* `Condition.tells_of_hasMembers` — the line of a condition tells of the leaves that were looked at,
  and its value is what came out; so does the line of a list of conditions.

A line is compared with a sequence of tokens and not parsed as a text: an id or a value may itself
read like a formula.
-/

import PageAttributes.Proofs.Trace.Conjunction
import PageAttributes.Proofs.Wire.Nesting

namespace PageAttributes

namespace Trace

/-! ### Tokens -/

/-- What was found at a leaf. -/
structure Reading where
  attributeId : String
  expected : ConditionValue
  actual : Option AttributeValue
  outcome : Bool
deriving DecidableEq

/-- What a line is put together from. -/
inductive Token where
  | leaf (reading : Reading)
  | sign (operator : Operator)
  | opening
  | closing
deriving DecidableEq

/-- How a token is written. -/
def Token.text : Token → String
  | .leaf reading => formatLeaf reading.attributeId reading.expected reading.actual
  | .sign operator => " " ++ operator.sign ++ " "
  | .opening => "("
  | .closing => ")"

/-- What was found at the leaf that a token stands for. -/
def Token.reading? : Token → Option Reading
  | .leaf reading => some reading
  | _ => none

/-- The line that some tokens make up. -/
def lineOf (tokens : List Token) : String := String.join (tokens.map Token.text)

/-- The leaves among some tokens. -/
def leavesOf (tokens : List Token) : List Reading := tokens.filterMap Token.reading?

mutual

/-- What was found at the leaves of a trace, from left to right. -/
def leaves : Trace → List Reading
  | .leaf attributeId expected actual outcome => [⟨attributeId, expected, actual, outcome⟩]
  | .group _ members _ => allLeaves members
  | .skipped => []

/-- What was found at the leaves of some traces. -/
def allLeaves : List Trace → List Reading
  | [] => []
  | trace :: rest => leaves trace ++ allLeaves rest

end

/-- What was skipped has no leaves. -/
theorem allLeaves_skipped {α : Type} (skipped : List α) :
    allLeaves (skipped.map fun _ => .skipped) = [] := by
  induction skipped with
  | nil => rfl
  | cons _ rest ih => exact ih

theorem lineOf_append (first second : List Token) :
    lineOf (first ++ second) = lineOf first ++ lineOf second := by
  unfold lineOf
  rw [List.map_append, String.join_append]

theorem lineOf_cons (token : Token) (tokens : List Token) :
    lineOf (token :: tokens) = token.text ++ lineOf tokens := by
  unfold lineOf
  rw [List.map_cons, String.join_cons]

/-! ### Formulas -/

/-- How tight a formula binds. -/
inductive Level where
  | disjunction
  | conjunction
  | operand
deriving DecidableEq

/-- Tokens that make up a formula, and its value, given what was found at the leaves. -/
inductive Formula : Level → List Token → Bool → Prop
  | leaf (reading : Reading) : Formula .operand [.leaf reading] reading.outcome
  | enclosed {tokens : List Token} {value : Bool} (inside : Formula .disjunction tokens value) :
    Formula .operand (.opening :: tokens ++ [.closing]) value
  | operand {tokens : List Token} {value : Bool} (alone : Formula .operand tokens value) :
    Formula .conjunction tokens value
  | both {tokens more : List Token} {value other : Bool} (first : Formula .operand tokens value)
      (rest : Formula .conjunction more other) :
    Formula .conjunction (tokens ++ .sign .all :: more) (value && other)
  | conjunction {tokens : List Token} {value : Bool} (alone : Formula .conjunction tokens value) :
    Formula .disjunction tokens value
  | either {tokens more : List Token} {value other : Bool}
      (first : Formula .conjunction tokens value) (rest : Formula .disjunction more other) :
    Formula .disjunction (tokens ++ .sign .any :: more) (value || other)

namespace Formula

variable {level : Level} {tokens more : List Token} {value other : Bool}

/-- Conjunctions are joined to a conjunction. -/
theorem and (left : Formula .conjunction tokens value) (right : Formula .conjunction more other) :
    Formula .conjunction (tokens ++ .sign .all :: more) (value && other) := by
  generalize same : Level.conjunction = level at left
  induction left with
  | operand alone => exact .both alone right
  | both first _ _ ih =>
    rw [List.append_assoc, List.cons_append, Bool.and_assoc]
    exact .both first (ih same)
  | _ => cases same

/-- Disjunctions are joined to a disjunction. -/
theorem or (left : Formula .disjunction tokens value) (right : Formula .disjunction more other) :
    Formula .disjunction (tokens ++ .sign .any :: more) (value || other) := by
  generalize same : Level.disjunction = level at left
  induction left with
  | conjunction alone => exact .either alone right
  | either first _ _ ih =>
    rw [List.append_assoc, List.cons_append, Bool.or_assoc]
    exact .either first (ih same)
  | _ => cases same

/-- Every formula is a disjunction, if only of itself. -/
theorem toDisjunction (formula : Formula level tokens value) : Formula .disjunction tokens value := by
  cases level with
  | disjunction => exact formula
  | conjunction => exact .conjunction formula
  | operand => exact .conjunction (.operand formula)

end Formula

/-- How tight the formulas bind that may stand in the place of a number. -/
def levelOf (tight : Nat) : Level :=
  if tight < 2 then .disjunction else if tight < 9 then .conjunction else .operand

/-- A formula may stand wherever a less tight one may. -/
theorem Formula.loosen {tokens : List Token} {value : Bool} {around tight : Nat}
    (less : around ≤ tight) (formula : Formula (levelOf tight) tokens value) :
    Formula (levelOf around) tokens value := by
  unfold levelOf at formula ⊢
  by_cases loose : around < 2
  · rw [if_pos loose]
    exact formula.toDisjunction
  · rw [if_neg (by omega : ¬ tight < 2)] at formula
    rw [if_neg loose]
    by_cases middle : around < 9
    · rw [if_pos middle]
      split at formula
      · exact formula
      · exact .operand formula
    · rw [if_neg (by omega : ¬ tight < 9)] at formula
      rwa [if_neg middle]

/-! ### The value of a formula -/

/-- How far a formula has been read: whether an alternative has held that is complete, and whether
what there is of the next one holds so far. -/
structure Tally where
  settled : Bool
  current : Bool

/-- What has been read holds. -/
def Tally.value (tally : Tally) : Bool := tally.settled || tally.current

/-- Reads one more token. The tallies outside of the parentheses that are open wait. -/
def Token.read : Tally × List Tally → Token → Tally × List Tally
  | (tally, outer), .leaf reading => (⟨tally.settled, tally.current && reading.outcome⟩, outer)
  | state, .sign .all => state
  | (tally, outer), .sign .any => (⟨tally.value, true⟩, outer)
  | (tally, outer), .opening => (⟨false, true⟩, tally :: outer)
  | (tally, around :: outer), .closing =>
    (⟨around.settled, around.current && tally.value⟩, outer)
  | state, .closing => state

/-- What becomes of a tally when a formula is read. -/
def Level.Counts (level : Level) (tokens : List Token) (value : Bool) : Prop :=
  match level with
  | .disjunction => ∀ settled outer, ∃ tally,
      tokens.foldl Token.read (⟨settled, true⟩, outer) = (tally, outer)
        ∧ tally.value = (settled || value)
  | _ => ∀ settled current outer,
      tokens.foldl Token.read (⟨settled, current⟩, outer) = (⟨settled, current && value⟩, outer)

namespace Formula

variable {level : Level} {tokens : List Token} {value other : Bool}

/-- A formula is read from left to right, whatever stands around it. -/
theorem counts (formula : Formula level tokens value) : level.Counts tokens value := by
  induction formula with
  | leaf reading =>
    intro settled current outer
    rfl
  | enclosed _ ih =>
    intro settled current outer
    obtain ⟨tally, read, holds⟩ := ih false (⟨settled, current⟩ :: outer)
    rw [List.cons_append, List.foldl_cons, List.foldl_append, Token.read, read]
    rw [Bool.false_or] at holds
    rw [List.foldl_cons, List.foldl_nil, Token.read, holds]
  | operand _ ih => exact ih
  | both _ _ first rest =>
    intro settled current outer
    rw [List.foldl_append, first, List.foldl_cons, Token.read, rest, Bool.and_assoc]
  | conjunction _ ih =>
    intro settled outer
    exact ⟨_, ih settled true outer, by rw [Tally.value, Bool.true_and]⟩
  | either _ _ first rest =>
    intro settled outer
    rw [List.foldl_append, first, List.foldl_cons, Token.read]
    obtain ⟨tally, read, holds⟩ := rest (Tally.value ⟨settled, true && _⟩) outer
    refine ⟨tally, read, ?_⟩
    rw [holds, Tally.value, Bool.true_and, Bool.or_assoc]

/-- **A sequence of tokens has at most one value.** -/
theorem value_unique (one : Formula .disjunction tokens value)
    (another : Formula .disjunction tokens other) : value = other := by
  obtain ⟨tally, read, holds⟩ := one.counts false []
  obtain ⟨tally', read', holds'⟩ := another.counts false []
  cases read.symm.trans read'
  rw [Bool.false_or] at holds holds'
  exact holds.symm.trans holds'

end Formula

/-! ### Lines -/

/-- A line is put together from tokens that make up a formula over some leaves. -/
def Writes (level : Level) (line : String) (leaves : List Reading) (value : Bool) : Prop :=
  ∃ tokens, line = lineOf tokens ∧ leavesOf tokens = leaves ∧ Formula level tokens value

section Writes

variable {level : Level} {line : String} {leaves : List Reading} {value : Bool}
  {around tight : Nat}

theorem Writes.loosen (less : around ≤ tight) (writes : Writes (levelOf tight) line leaves value) :
    Writes (levelOf around) line leaves value := by
  obtain ⟨tokens, same, named, formula⟩ := writes
  exact ⟨tokens, same, named, formula.loosen less⟩

/-- A line in parentheses may stand everywhere. -/
theorem Writes.enclose (writes : Writes level line leaves value) (around : Nat) :
    Writes (levelOf around) (parenthesize true line) leaves value := by
  obtain ⟨tokens, rfl, rfl, formula⟩ := writes
  refine ⟨.opening :: tokens ++ [.closing], ?_, ?_, ?_⟩
  · show "(" ++ lineOf tokens ++ ")" = lineOf (.opening :: (tokens ++ [.closing]))
    rw [lineOf_cons, lineOf_append, String.append_assoc]
    rfl
  · unfold leavesOf
    rw [List.cons_append, List.filterMap_cons, List.filterMap_append]
    exact List.append_nil _
  · have operand : Formula (levelOf (max around 9)) (.opening :: tokens ++ [.closing]) value := by
      unfold levelOf
      rw [if_neg (by omega), if_neg (by omega)]
      exact .enclosed formula.toDisjunction
    exact operand.loosen (Nat.le_max_left around 9)

/-- The line of a trace inside of something else. -/
theorem Writes.inside {trace : Trace}
    (writes : Writes (levelOf trace.tightness) trace.format leaves value) (around : Nat) :
    Writes (levelOf around) (trace.formatInside around) leaves value := by
  rw [formatInside_eq]
  by_cases needed : trace.tightness < around
  · rw [decide_eq_true needed]
    exact writes.enclose around
  · rw [decide_eq_false needed, parenthesize_false]
    exact writes.loosen (Nat.le_of_not_lt needed)

end Writes

end Trace

/-! ### Operators -/

namespace Operator

/-- How tight a group binds. -/
def tightness : Operator → Nat
  | .any => 1
  | .all => 2

/-- What comes out of a group with one more member in front. -/
def combine : Operator → Bool → Bool → Bool
  | .all => and
  | .any => or

theorem precedence_group (operator : Operator) (members : List Trace) (outcome : Bool) :
    (Trace.group operator members outcome).precedence = operator.tightness := by
  cases operator <;> rfl

/-- A member that does not decide a group leaves it to the others. -/
theorem combine_of_ne_decisive (operator : Operator) {outcome : Bool}
    (undecided : outcome ≠ operator.decisive) (other : Bool) :
    operator.combine outcome other = other := by
  cases operator <;> cases outcome <;> first | rfl | exact absurd rfl undecided

end Operator

/-- The lines of two formulas with a sign between them. -/
theorem Trace.Writes.join (operator : Operator) {line more : String} {leaves others : List Reading}
    {value other : Bool} (first : Writes (levelOf operator.tightness) line leaves value)
    (rest : Writes (levelOf operator.tightness) more others other) :
    Writes (levelOf operator.tightness) (line ++ (" " ++ operator.sign ++ " ") ++ more)
      (leaves ++ others) (operator.combine value other) := by
  obtain ⟨tokens, rfl, rfl, formula⟩ := first
  obtain ⟨tokens', rfl, rfl, formula'⟩ := rest
  refine ⟨tokens ++ .sign operator :: tokens', ?_, ?_, ?_⟩
  · rw [lineOf_append, lineOf_cons, Token.text, String.append_assoc]
  · unfold leavesOf
    rw [List.filterMap_append, List.filterMap_cons]
    rfl
  · cases operator with
    | all => exact formula.and formula'
    | any => exact formula.or formula'

namespace Condition

/-! ### What is looked at -/

mutual

/-- What is found at the leaves of a condition that are looked at. -/
def readings (assignment : Assignment) : Condition → List Trace.Reading
  | .leaf attributeId expected =>
    [⟨attributeId, expected, assignment.get? attributeId,
      assignment.satisfies attributeId expected⟩]
  | .group operator members => readingsUntil assignment operator.decisive members

/-- What is found in some conditions, up to the first one with an outcome. -/
def readingsUntil (assignment : Assignment) (decisive : Bool) :
    List Condition → List Trace.Reading
  | [] => []
  | member :: rest =>
    readings assignment member
      ++ if holds assignment member = decisive then []
        else readingsUntil assignment decisive rest

end

/-- Whether a group holds. -/
def groupHolds (assignment : Assignment) : Operator → List Condition → Bool
  | .all, members => allHold assignment members
  | .any, members => anyHolds assignment members

mutual

/-- What came out is whether the condition holds. -/
theorem outcome_trace (assignment : Assignment) :
    ∀ condition : Condition, (trace assignment condition).outcome = holds assignment condition
  | .leaf attributeId expected => by
    rw [trace, holds, Trace.outcome]
  | .group .all members => by
    rw [trace, holds, Trace.outcome, outcome_traceSequence assignment .all members]
    rfl
  | .group .any members => by
    rw [trace, holds, Trace.outcome, outcome_traceSequence assignment .any members]
    rfl

/-- What came out of the members of a group is whether the group holds. -/
theorem outcome_traceSequence (assignment : Assignment) (operator : Operator) :
    ∀ members : List Condition,
      (traceSequence assignment operator members).2 = groupHolds assignment operator members
  | [] => by
    cases operator <;> rfl
  | member :: rest => by
    have first := outcome_trace assignment member
    have others := outcome_traceSequence assignment operator rest
    rw [traceSequence]
    cases operator with
    | all =>
      rw [groupHolds, allHold, ← first, ← groupHolds, ← others]
      cases (trace assignment member).outcome <;> rfl
    | any =>
      rw [groupHolds, anyHolds, ← first, ← groupHolds, ← others]
      cases (trace assignment member).outcome <;> rfl

end

/-- The first of some conditions alone decides what comes out, or it does not decide anything and
there are others. -/
theorem traceSequence_cons (assignment : Assignment) (operator : Operator) (member : Condition)
    (rest : List Condition) :
    (traceSequence assignment operator (member :: rest)
          = (trace assignment member :: rest.map fun _ => .skipped,
              (trace assignment member).outcome)
        ∧ readingsUntil assignment operator.decisive (member :: rest)
          = readings assignment member)
      ∨ (rest ≠ []
        ∧ traceSequence assignment operator (member :: rest)
          = (trace assignment member :: (traceSequence assignment operator rest).1,
              operator.combine (trace assignment member).outcome
                (traceSequence assignment operator rest).2)
        ∧ readingsUntil assignment operator.decisive (member :: rest)
          = readings assignment member ++ readingsUntil assignment operator.decisive rest) := by
  rw [traceSequence, readingsUntil, ← outcome_trace]
  by_cases decided : (trace assignment member).outcome = operator.decisive
  · left
    rw [if_pos decided, if_pos decided, decided, List.append_nil]
    exact ⟨rfl, rfl⟩
  · rw [if_neg decided, if_neg decided, operator.combine_of_ne_decisive decided]
    cases rest with
    | nil =>
      left
      rw [readingsUntil, List.append_nil, traceSequence, List.map_nil]
      exact ⟨by rw [Bool.eq_not_of_ne decided], rfl⟩
    | cons second rest =>
      right
      exact ⟨List.cons_ne_nil second rest, rfl, rfl⟩

mutual

/-- The leaves of a trace are those that were looked at. -/
theorem leaves_trace (assignment : Assignment) :
    ∀ condition : Condition, (trace assignment condition).leaves = readings assignment condition
  | .leaf attributeId expected => by
    rw [trace, readings, Trace.leaves]
  | .group operator members => by
    rw [trace, readings, Trace.leaves]
    exact allLeaves_traceSequence assignment operator members

theorem allLeaves_traceSequence (assignment : Assignment) (operator : Operator) :
    ∀ members : List Condition, Trace.allLeaves (traceSequence assignment operator members).1
      = readingsUntil assignment operator.decisive members
  | [] => rfl
  | member :: rest => by
    have first := leaves_trace assignment member
    rcases traceSequence_cons assignment operator member rest with
      ⟨same, read⟩ | ⟨_, same, read⟩
    · rw [same, read, Trace.allLeaves, Trace.allLeaves_skipped, List.append_nil, first]
    · rw [same, read, Trace.allLeaves, first, allLeaves_traceSequence assignment operator rest]

end

/-! ### What is shown -/

theorem isSkipped_trace (assignment : Assignment) (condition : Condition) :
    (trace assignment condition).isSkipped = false := by
  cases condition <;> rfl

theorem formatShown_cons (assignment : Assignment) (around : Nat) (condition : Condition)
    (traces : List Trace) :
    Trace.formatShown around (trace assignment condition :: traces)
      = (trace assignment condition).formatInside around :: Trace.formatShown around traces := by
  cases condition <;> rfl

theorem shownTightness_cons (assignment : Assignment) (condition : Condition)
    (traces : List Trace) :
    Trace.shownTightness (trace assignment condition :: traces)
      = (trace assignment condition).tightness := by
  cases condition <;> rfl

theorem shownCount_cons (assignment : Assignment) (condition : Condition) (traces : List Trace) :
    Trace.shownCount (trace assignment condition :: traces) = Trace.shownCount traces + 1 := by
  unfold Trace.shownCount
  rw [List.filter_cons, isSkipped_trace]
  rfl

/-- Of the conditions after the decisive one nothing is shown. -/
theorem formatShown_skipped (around : Nat) (rest : List Condition) :
    Trace.formatShown around (rest.map fun _ => .skipped) = [] := by
  induction rest with
  | nil => rfl
  | cons member rest ih => exact ih

theorem shownCount_skipped (rest : List Condition) :
    Trace.shownCount (rest.map fun _ => .skipped) = 0 := by
  rw [← Trace.length_formatShown 0, formatShown_skipped, List.length_nil]

/-- Of conditions the first one at least is shown. -/
theorem shownCount_traceSequence_pos (assignment : Assignment) (operator : Operator)
    {members : List Condition} (nonempty : members ≠ []) :
    0 < Trace.shownCount (traceSequence assignment operator members).1 := by
  obtain ⟨member, rest, rfl⟩ := List.exists_cons_of_ne_nil nonempty
  rcases traceSequence_cons assignment operator member rest with ⟨same, _⟩ | ⟨_, same, _⟩
  · rw [same, shownCount_cons]
    exact Nat.succ_pos _
  · rw [same, shownCount_cons]
    exact Nat.succ_pos _

/-! ### Lines of conditions -/

mutual

/-- The line of a condition says what came out. -/
theorem writes_format (assignment : Assignment) : ∀ condition : Condition, condition.HasMembers →
    Trace.Writes (Trace.levelOf (trace assignment condition).tightness)
      (trace assignment condition).format (readings assignment condition)
      (trace assignment condition).outcome
  | .leaf attributeId expected, _ => by
    rw [readings]
    refine ⟨[.leaf ⟨attributeId, expected, assignment.get? attributeId,
      assignment.satisfies attributeId expected⟩], ?_, rfl, .leaf _⟩
    rw [trace, Trace.format, Trace.formatInside, Trace.parenthesize_zero, Trace.lineOf_cons]
    exact String.append_empty.symm
  | .group operator [], full => absurd rfl full.1
  | .group operator (member :: rest), full => by
    rw [trace, readings, Trace.format, Trace.formatInside, Trace.tightness, Trace.outcome,
      operator.precedence_group]
    rcases traceSequence_cons assignment operator member rest with
      ⟨same, read⟩ | ⟨more, same, _⟩
    · -- The group is written as the one member of which the trace is shown.
      have single : Trace.shownCount (traceSequence assignment operator (member :: rest)).1 = 1 := by
        rw [same, shownCount_cons, shownCount_skipped]
      rw [if_pos single, if_pos single, read, same, formatShown_cons, shownTightness_cons]
      exact writes_format assignment member full.2.1
    · have several : Trace.shownCount (traceSequence assignment operator (member :: rest)).1 ≠ 1 := by
        have others := shownCount_traceSequence_pos assignment operator more
        rw [same, shownCount_cons]
        omega
      rw [if_neg several, if_neg several, Trace.parenthesize_zero]
      exact writes_members assignment operator (member :: rest) full.1 full.2

/-- The line of the members of a group says what came out of the group. -/
theorem writes_members (assignment : Assignment) (operator : Operator) :
    ∀ members : List Condition, members ≠ [] → EachHasMembers members →
      Trace.Writes (Trace.levelOf operator.tightness)
        ((" " ++ operator.sign ++ " ").intercalate (Trace.formatShown operator.tightness
          (traceSequence assignment operator members).1))
        (readingsUntil assignment operator.decisive members)
        (traceSequence assignment operator members).2
  | [], nonempty, _ => absurd rfl nonempty
  | member :: rest, _, full => by
    have first := (writes_format assignment member full.1).inside operator.tightness
    rcases traceSequence_cons assignment operator member rest with
      ⟨same, read⟩ | ⟨more, same, read⟩
    · rw [same, read, formatShown_cons, formatShown_skipped, String.intercalate_singleton]
      exact first
    · have others := writes_members assignment operator rest more full.2
      have shown : Trace.formatShown operator.tightness (traceSequence assignment operator rest).1
          ≠ [] := by
        rw [← List.length_pos_iff, Trace.length_formatShown]
        exact shownCount_traceSequence_pos assignment operator more
      rw [same, read, formatShown_cons, String.intercalate_cons_of_ne_nil shown]
      exact first.join operator others

end

/-- The line of some conditions that all have to hold says what came out. -/
theorem writes_formatAll (assignment : Assignment) {conditions : List Condition}
    (nonempty : conditions ≠ []) (full : EachHasMembers conditions) :
    Trace.Writes .disjunction (Trace.formatAll (traceAll assignment conditions).1)
      (readingsUntil assignment Operator.all.decisive conditions)
      (traceAll assignment conditions).2 := by
  rw [Trace.formatAll, traceAll, length_traceSequence]
  obtain ⟨first, rest, rfl⟩ := List.exists_cons_of_ne_nil nonempty
  cases rest with
  | nil =>
    have alone := (writes_format assignment first full.1).inside 0
    rcases traceSequence_cons assignment .all first [] with ⟨same, read⟩ | ⟨more, _⟩
    · rw [same, read, if_neg (by simp), List.map_nil, formatShown_cons]
      exact alone
    · exact absurd rfl more
  | cons second rest =>
    rw [if_pos (by simp)]
    have members := writes_members assignment .all (first :: second :: rest) nonempty full
    exact members.loosen (Nat.zero_le _)

end Condition

/-- A line tells of some leaves what came out: its tokens are a formula over them, in which `AND`
binds tighter than `OR`, and that formula has no other value. -/
def Trace.Tells (line : String) (leaves : List Trace.Reading) (outcome : Bool) : Prop :=
  ∃ tokens, line = lineOf tokens ∧ leavesOf tokens = leaves
    ∧ Formula .disjunction tokens outcome
    ∧ ∀ value, Formula .disjunction tokens value → value = outcome

theorem Trace.Writes.tells {level : Level} {line : String} {leaves : List Reading} {outcome : Bool}
    (writes : Writes level line leaves outcome) : Tells line leaves outcome := by
  obtain ⟨tokens, same, named, formula⟩ := writes
  exact ⟨tokens, same, named, formula.toDisjunction,
    fun value another => another.value_unique formula.toDisjunction⟩

/-- **The line of a condition tells what came out**, and so does the line of a list of conditions,
behind which the outcome is written. It names the leaves of the trace, which are those that were
looked at. No group of conditions may be empty: of it nothing would be written. -/
theorem Condition.tells_of_hasMembers (assignment : Assignment) :
    (∀ condition : Condition, condition.HasMembers →
        Trace.Tells (trace assignment condition).format (readings assignment condition)
            (trace assignment condition).outcome
          ∧ (trace assignment condition).leaves = readings assignment condition)
      ∧ ∀ conditions : List Condition, conditions ≠ [] → EachHasMembers conditions →
        explain assignment (some conditions)
            = Trace.formatAll (traceAll assignment conditions).1 ++ " => "
              ++ (if (traceAll assignment conditions).2 then "true" else "false")
          ∧ Trace.Tells (Trace.formatAll (traceAll assignment conditions).1)
              (readingsUntil assignment Operator.all.decisive conditions)
              (traceAll assignment conditions).2
          ∧ Trace.allLeaves (traceAll assignment conditions).1
              = readingsUntil assignment Operator.all.decisive conditions := by
  constructor
  · intro condition full
    exact ⟨(writes_format assignment condition full).tells, leaves_trace assignment condition⟩
  · intro conditions nonempty full
    refine ⟨?_, (writes_formatAll assignment nonempty full).tells,
      allLeaves_traceSequence assignment .all conditions⟩
    obtain ⟨first, rest, rfl⟩ := List.exists_cons_of_ne_nil nonempty
    rw [explain]

/-- Alternatives among alternatives, of which the last one is not looked at once the second of the
inner ones holds. -/
def Condition.nestedAlternatives : Condition :=
  .group .all [.leaf "x" (.text "1"),
    .group .any [.group .any [.leaf "a" (.text "1"), .leaf "b" (.text "1")],
      .leaf "c" (.text "1")]]

/-- The alternatives that are shown keep the parentheses of the group that they stand in. -/
theorem Condition.tells_nestedAlternatives :
    nestedAlternatives.HasMembers
      ∧ Trace.Tells
          "x == \"1\" (was \"1\") AND (a == \"1\" (was \"0\") OR b == \"1\" (was \"1\"))"
          [⟨"x", .text "1", some (.text "1"), true⟩, ⟨"a", .text "1", some (.text "0"), false⟩,
            ⟨"b", .text "1", some (.text "1"), true⟩] true
      ∧ explain ⟨[("a", .text "0"), ("b", .text "1"), ("x", .text "1")]⟩ (some [nestedAlternatives])
          = "x == \"1\" (was \"1\") AND (a == \"1\" (was \"0\") OR b == \"1\" (was \"1\"))"
            ++ " => " ++ "true" := by
  have full : nestedAlternatives.HasMembers := by
    simp [nestedAlternatives, HasMembers, EachHasMembers]
  obtain ⟨single, listed⟩ :=
    tells_of_hasMembers ⟨[("a", .text "0"), ("b", .text "1"), ("x", .text "1")]⟩
  refine ⟨full, (single nestedAlternatives full).1, ?_⟩
  exact (listed [nestedAlternatives] (List.cons_ne_nil _ _) ⟨full, trivial⟩).1

end PageAttributes
