/-
**When numbers agree.**

* `Binary64.value`, `Numeral.value` — the exact value of a number;
* `Numeral.isWhole_iff` — a number is whole exactly if its value is an integer;
* `Binary64.IsNearest` — a binary64 value is one that a number is rounded to: no other one is nearer,
  and of two that are as near it is the even one;
* `Numeral.isNearest_iff` — exactly one value is what an integer is rounded to, and the comparison
  uses that one;
* `Numeral.isBinary64_of_abs_le` — an integer of at most 53 bits is a binary64 value;
* `Numeral.agrees_iff` — two numbers agree if they are equal, or if one is an integer that is rounded
  to the other one;
* `Numeral.agrees_of_common` — when two numbers that agree with a common one agree;
* `AttributeValue.satisfies_number_spec` — when a number is the expected one, and how far that is an
  equivalence.

All values are compared in units of `2 ^ -1074`, of which every number is a whole multiple.
-/

import Mathlib.Algebra.Order.Field.Basic
import Mathlib.Algebra.Order.Field.Rat
import Mathlib.Data.Int.Cast.Lemmas
import PageAttributes.Evaluation.Assignment
import PageAttributes.Proofs.Number.Rounding

namespace PageAttributes

/-- A number of units with a sign. -/
def signed (negative : Bool) (units : Nat) : Int := if negative then -units else units

namespace Binary64

/-! ### Values -/

/-- The exact value in units of `2 ^ -1074`. -/
def signedUnits (number : Binary64) : Int := signed number.negative number.units

/-- The exact value. -/
def value (number : Binary64) : ℚ := number.signedUnits / twoTo 1074

/-- A number is rounded to this value: no other one is nearer to it, and where another one is as
near, this one is even. -/
structure IsNearest (rounded : Binary64) (number : ℚ) : Prop where
  nearest : ∀ other : Binary64, |rounded.value - number| ≤ |other.value - number|
  even : ∀ other : Binary64, other.value ≠ rounded.value →
    |rounded.value - number| = |other.value - number| → rounded.magnitude % 2 = 0

theorem units_eq_zero_iff (number : Binary64) : number.units = 0 ↔ number.magnitude = 0 :=
  strictMono_wordUnits.injective.eq_iff (b := 0)

/-- Two values are the same if their values are: a word stands for one value, and both zeros stand
for none. -/
theorem same_iff {first second : Binary64} :
    first.same second = true ↔ first.signedUnits = second.signedUnits := by
  have zero := units_eq_zero_iff first
  have zero' := units_eq_zero_iff second
  have words : first.units = second.units ↔ first.magnitude = second.magnitude :=
    strictMono_wordUnits.injective.eq_iff
  simp only [same, Bool.and_eq_true, Bool.or_eq_true, beq_iff_eq, signedUnits, signed]
  cases first.negative <;> cases second.negative <;> simp <;> omega

/-- The sign does not matter for whether a value is whole. -/
theorem isWhole_iff_dvd (number : Binary64) :
    number.isWhole = true ↔ (twoTo 1074 : Int) ∣ number.signedUnits := by
  have size : number.signedUnits.natAbs = number.units := by
    unfold signedUnits signed
    cases number.negative <;> simp
  rw [isWhole, beq_iff_eq, ← Nat.dvd_iff_mod_eq_zero, Int.natCast_dvd, size]

/-- A value is whole exactly if it is an integer. -/
theorem isWhole_iff {number : Binary64} :
    number.isWhole = true ↔ ∃ integer : Int, number.value = integer := by
  have nonzero : (twoTo 1074 : ℚ) ≠ 0 := Nat.cast_ne_zero.mpr (Nat.ne_of_gt (twoTo_pos 1074))
  rw [isWhole_iff_dvd, dvd_iff_exists_eq_mul_left]
  refine exists_congr fun integer => ?_
  have scaled : (integer : ℚ) * twoTo 1074 = ((integer * twoTo 1074 : Int) : ℚ) := by
    rw [Int.cast_mul, Int.cast_natCast]
  rw [value, div_eq_iff nonzero, scaled, Int.cast_inj]

theorem value_eq_value_iff {first second : Binary64} :
    first.value = second.value ↔ first.signedUnits = second.signedUnits := by
  have nonzero : (twoTo 1074 : ℚ) ≠ 0 := Nat.cast_ne_zero.mpr (Nat.ne_of_gt (twoTo_pos 1074))
  rw [value, value, div_left_inj' nonzero, Int.cast_inj]

/-- One value has one word, up to the sign of zero. -/
theorem magnitude_eq_of_value_eq {first second : Binary64} (same : first.value = second.value) :
    first.magnitude = second.magnitude := by
  have agree := same_iff.mpr (value_eq_value_iff.mp same)
  rw [Binary64.same, Bool.and_eq_true] at agree
  exact beq_iff_eq.mp agree.1

/-! ### Distances -/

/-- How far a value is from a number of units. -/
def gap (number : Binary64) (units : Int) : Nat := (number.signedUnits - units).natAbs

theorem abs_value_sub (number : Binary64) (units : Int) :
    |number.value - units / twoTo 1074| = (number.gap units : ℚ) / twoTo 1074 := by
  have positive : (0 : ℚ) < twoTo 1074 := Nat.cast_pos.mpr (twoTo_pos 1074)
  rw [value, ← sub_div, abs_div, abs_of_pos positive, gap, Nat.cast_natAbs, Int.cast_abs,
    Int.cast_sub]

theorem abs_value_sub_le_iff {first second : Binary64} {units : Int} :
    |first.value - units / twoTo 1074| ≤ |second.value - units / twoTo 1074|
      ↔ first.gap units ≤ second.gap units := by
  have positive : (0 : ℚ) < twoTo 1074 := Nat.cast_pos.mpr (twoTo_pos 1074)
  rw [abs_value_sub, abs_value_sub, div_le_div_iff_of_pos_right positive, Nat.cast_le]

/-- On one side of zero, values are as far apart as their words are. -/
theorem gap_of_negative_eq {number : Binary64} {negative : Bool} (side : number.negative = negative)
    (units : Nat) : number.gap (signed negative units) = Nat.dist number.units units := by
  rw [gap, signedUnits, side]
  unfold signed Nat.dist
  cases negative <;> simp only [Bool.false_eq_true, if_true, if_false] <;> omega

/-- Across zero, the distances from zero add up. -/
theorem gap_of_negative_ne {number : Binary64} {negative : Bool} (side : number.negative ≠ negative)
    (units : Nat) : number.gap (signed negative units) = number.units + units := by
  rw [gap, signedUnits, Bool.eq_not_of_ne side]
  unfold signed
  cases negative <;> simp only [Bool.not_true, Bool.not_false, Bool.false_eq_true, if_true,
    if_false] <;> omega

/-- The value of the word that some units are rounded to is nearer to them than every other value,
or as near, and then it is even and the other one odd. -/
theorem gap_lt_or {rounded other : Binary64} {units : Nat}
    (nearest : rounded.magnitude = roundUnits units 1)
    (different : other.signedUnits ≠ rounded.signedUnits) :
    rounded.gap (signed rounded.negative units) < other.gap (signed rounded.negative units)
      ∨ rounded.gap (signed rounded.negative units) = other.gap (signed rounded.negative units)
        ∧ rounded.magnitude % 2 = 0 ∧ other.magnitude % 2 = 1 := by
  have nearer : ∀ {word}, word ≠ rounded.magnitude →
      Nat.dist rounded.units units < Nat.dist (wordUnits word) units
        ∨ Nat.dist rounded.units units = Nat.dist (wordUnits word) units
          ∧ rounded.magnitude % 2 = 0 ∧ word % 2 = 1 := by
    intro word apart
    rw [nearest] at apart
    have near := nearest_roundUnits Nat.one_pos apart
    rw [distance, distance, Nat.mul_one, Nat.mul_one, ← nearest] at near
    exact near
  rw [gap_of_negative_eq rfl]
  by_cases side : other.negative = rounded.negative
  · rw [gap_of_negative_eq side]
    refine nearer fun same => different ?_
    rw [signedUnits, signedUnits, side, Binary64.units, Binary64.units, same]
  · rw [gap_of_negative_ne side]
    refine Or.inl ?_
    by_cases zero : rounded.magnitude = 0
    · have none := (units_eq_zero_iff rounded).mpr zero
      have some : other.units ≠ 0 := by
        intro otherNone
        refine different ?_
        rw [signedUnits, signedUnits, none, otherNone]
        unfold signed
        split <;> split <;> rfl
      rw [none]
      unfold Nat.dist
      omega
    · have closer : Nat.dist rounded.units units < Nat.dist (wordUnits 0) units := by
        rcases nearer (Ne.symm zero) with closer | ⟨_, _, odd⟩
        · exact closer
        · cases odd
      have first : wordUnits 0 = 0 := rfl
      rw [first] at closer
      unfold Nat.dist at closer ⊢
      omega

end Binary64

/-! ### Numbers -/

namespace Numeral

/-- The exact value in units of `2 ^ -1074`. -/
def signedUnits : Numeral → Int
  | .natural value => signed false (value.val * twoTo 1074)
  | .negative distance => signed true ((distance.val + 1) * twoTo 1074)
  | .real value => value.signedUnits

/-- The exact value. -/
def value : Numeral → ℚ
  | .natural value => value.val
  | .negative distance => -(distance.val + 1)
  | .real value => value.value

/-- The value is that of a binary64 number. -/
def IsBinary64 (number : Numeral) : Prop := ∃ real : Binary64, real.value = number.value

variable {first second number : Numeral} {integer : Int} {real : Binary64}

theorem value_eq (number : Numeral) : number.value = number.signedUnits / twoTo 1074 := by
  have nonzero : (twoTo 1074 : ℚ) ≠ 0 := Nat.cast_ne_zero.mpr (Nat.ne_of_gt (twoTo_pos 1074))
  cases number with
  | natural value =>
    rw [Numeral.value, signedUnits, signed, if_neg Bool.false_ne_true, Int.cast_natCast,
      Nat.cast_mul, mul_div_cancel_right₀ _ nonzero]
  | negative distance =>
    rw [Numeral.value, signedUnits, signed, if_pos rfl, Int.cast_neg, Int.cast_natCast,
      Nat.cast_mul, neg_div, mul_div_cancel_right₀ _ nonzero, Nat.cast_succ]
  | real value => rfl

theorem value_eq_value_iff :
    first.value = second.value ↔ first.signedUnits = second.signedUnits := by
  have nonzero : (twoTo 1074 : ℚ) ≠ 0 := Nat.cast_ne_zero.mpr (Nat.ne_of_gt (twoTo_pos 1074))
  rw [value_eq, value_eq, div_left_inj' nonzero, Int.cast_inj]

/-- The value of an integer is that integer. -/
theorem value_of_integer? (integral : number.integer? = some integer) : number.value = integer := by
  cases number with
  | natural _ =>
    cases integral
    rw [Numeral.value, Int.cast_natCast]
  | negative _ =>
    cases integral
    rw [Numeral.value, Int.cast_neg, Int.cast_add, Int.cast_natCast, Int.cast_one]
  | real _ => cases integral

/-- A number is whole exactly if its value is an integer, in whatever form it is given. -/
theorem isWhole_iff : number.isWhole = true ↔ ∃ integer : Int, number.value = integer := by
  cases number with
  | natural _ => exact iff_of_true rfl ⟨_, value_of_integer? rfl⟩
  | negative _ => exact iff_of_true rfl ⟨_, value_of_integer? rfl⟩
  | real _ => exact Binary64.isWhole_iff

/-! ### Rounding of integers -/

/-- The integers in the range of documents are rounded to a finite value. -/
theorem exists_ofNat? {count : Nat} (bounded : count ≤ twoTo 64) :
    ∃ rounded, Binary64.ofNat? count = some rounded ∧ rounded.negative = false
      ∧ rounded.magnitude = Binary64.roundUnits (count * twoTo 1074) 1 := by
  have small : count * twoTo 1074 / 1 < twoTo 1139 := by
    rw [Nat.div_one]
    calc count * twoTo 1074 ≤ twoTo 64 * twoTo 1074 := Nat.mul_le_mul_right _ bounded
      _ = twoTo (64 + 1074) := (twoTo_add 64 1074).symm
      _ < twoTo 1139 := twoTo_lt_twoTo (by omega)
  have finite : Binary64.roundUnits (count * twoTo 1074) 1 < Binary64.limit := by
    have shift := Binary64.shiftOf_le small
    have most := Binary64.roundUnits_le (count * twoTo 1074) 1
    rw [twoTo_52, twoTo_53] at most
    rw [Binary64.limit, twoTo_52]
    omega
  refine ⟨⟨false, Binary64.roundUnits (count * twoTo 1074) 1, finite⟩, ?_, ?_, ?_⟩
  · rw [Binary64.ofNat?, Binary64.ofRatio?, Binary64.ofUnits?, dif_pos finite]
  · rw [Binary64.negative]
  · rw [Binary64.magnitude]

/-- The number is an integer in an integral form. -/
def IsInteger (number : Numeral) : Prop := ∃ integer, number.integer? = some integer

theorem isInteger_or_real (number : Numeral) :
    number.IsInteger ∨ ∃ real, number = .real real := by
  cases number with
  | natural _ => exact Or.inl ⟨_, rfl⟩
  | negative _ => exact Or.inl ⟨_, rfl⟩
  | real real => exact Or.inr ⟨real, rfl⟩

/-- The units of an integer, and the word that they are rounded to. -/
theorem exists_units (integral : number.IsInteger) :
    ∃ count, number.signedUnits = signed number.toBinary64.negative (count * twoTo 1074)
      ∧ number.toBinary64.magnitude = Binary64.roundUnits (count * twoTo 1074) 1
      ∧ |number.value| = count := by
  cases number with
  | natural count =>
    obtain ⟨rounded, found, side, magnitude⟩ := exists_ofNat? (Nat.le_of_lt count.isLt)
    refine ⟨count, ?_, ?_, ?_⟩
    · rw [toBinary64, found, Option.getD_some, side, signedUnits]
    · rw [toBinary64, found, Option.getD_some, magnitude]
    · rw [Numeral.value, Nat.abs_cast]
  | negative distance =>
    have bounded : distance.val + 1 ≤ twoTo 64 := by
      have inside := distance.isLt
      rw [show twoTo 64 = 18446744073709551616 from rfl]
      omega
    obtain ⟨rounded, found, _, magnitude⟩ := exists_ofNat? bounded
    refine ⟨distance.val + 1, ?_, ?_, ?_⟩
    · rw [toBinary64, found, Option.getD_some, signedUnits, Binary64.withSign]
    · rw [toBinary64, found, Option.getD_some, Binary64.withSign, magnitude]
    · rw [Numeral.value, abs_neg, ← Nat.cast_succ, Nat.abs_cast]
  | real _ =>
    obtain ⟨_, none⟩ := integral
    cases none

/-- Every value but the one that an integer is compared as is further away from it, or as far away
and odd. -/
theorem gap_toBinary64 (integral : number.IsInteger)
    (different : real.value ≠ number.toBinary64.value) :
    number.toBinary64.gap number.signedUnits < real.gap number.signedUnits
      ∨ number.toBinary64.gap number.signedUnits = real.gap number.signedUnits
        ∧ number.toBinary64.magnitude % 2 = 0 ∧ real.magnitude % 2 = 1 := by
  obtain ⟨count, units, magnitude, _⟩ := exists_units integral
  rw [units]
  refine Binary64.gap_lt_or magnitude fun same => different ?_
  rw [Binary64.value, Binary64.value, same]

/-- An integer is rounded to the value that it is compared as. -/
theorem isNearest_toBinary64 (integral : number.IsInteger) :
    number.toBinary64.IsNearest number.value := by
  rw [value_eq]
  refine ⟨fun other => ?_, fun other different asNear => ?_⟩
  · rw [Binary64.abs_value_sub_le_iff]
    by_cases same : other.value = number.toBinary64.value
    · rw [Binary64.value_eq_value_iff] at same
      rw [Binary64.gap, Binary64.gap, same]
    · rcases gap_toBinary64 integral same with closer | ⟨equal, _⟩
      · exact Nat.le_of_lt closer
      · exact Nat.le_of_eq equal
  · rcases gap_toBinary64 integral different with closer | ⟨_, even, _⟩
    · have further := Binary64.abs_value_sub_le_iff.mp (Eq.ge asNear)
      exact absurd closer (Nat.not_lt_of_le further)
    · exact even

/-- **Exactly one value is what an integer is rounded to**, the one that it is compared as. -/
theorem isNearest_iff (integral : number.IsInteger) :
    real.IsNearest number.value ↔ real.value = number.toBinary64.value := by
  have rounded := isNearest_toBinary64 integral
  constructor
  · intro near
    by_contra different
    have asNear : |real.value - number.value| = |number.toBinary64.value - number.value| :=
      le_antisymm (near.nearest _) (rounded.nearest _)
    have even := near.even _ (Ne.symm different) asNear
    rw [value_eq] at asNear
    rcases gap_toBinary64 integral different with closer | ⟨_, _, odd⟩
    · have further := Binary64.abs_value_sub_le_iff.mp (Eq.le asNear)
      exact absurd closer (Nat.not_lt_of_le further)
    · omega
  · intro same
    have words := Binary64.magnitude_eq_of_value_eq same
    refine ⟨fun other => ?_, fun other different => ?_⟩
    · rw [same]
      exact rounded.nearest other
    · rw [same] at different ⊢
      rw [words]
      exact rounded.even other different

/-! ### Integers that are binary64 values -/

/-- A number that is a binary64 value is rounded to nothing else. -/
theorem isNearest_of_value_eq (same : real.value = number.value) :
    real.IsNearest number.value := by
  have none : |real.value - number.value| = 0 := by rw [same, sub_self, abs_zero]
  refine ⟨fun other => ?_, fun other different asNear => absurd ?_ different⟩
  · rw [none]
    exact abs_nonneg _
  · rw [none] at asNear
    rw [sub_eq_zero.mp (abs_eq_zero.mp asNear.symm), same]

/-- A number that is a binary64 value is compared as its own value. -/
theorem value_toBinary64 (representable : number.IsBinary64) :
    number.toBinary64.value = number.value := by
  rcases isInteger_or_real number with integral | ⟨_, rfl⟩
  · obtain ⟨real, same⟩ := representable
    rw [← same, (isNearest_iff integral).mp (isNearest_of_value_eq same)]
  · rfl

/-- Up to 53 bits, no bit of an integer is lost. -/
theorem lost_of_le {count : Nat} (bounded : count ≤ twoTo 53) :
    Binary64.lost (count * twoTo 1074) 1 = 0 := by
  rcases Nat.eq_or_lt_of_le bounded with rfl | less
  · refine Binary64.lost_eq_zero (?_ : twoTo 1075 ∣ _) ?_
    · rw [← twoTo_add]
      exact twoTo_dvd_twoTo (by omega)
    · refine Binary64.shiftOf_le (?_ : _ < twoTo 1128)
      rw [Nat.div_one, ← twoTo_add]
      exact twoTo_lt_twoTo (by omega)
  · refine Binary64.lost_eq_zero (Nat.dvd_mul_left _ _)
      (Binary64.shiftOf_le (?_ : _ < twoTo 1127))
    rw [Nat.div_one, show 1127 = 53 + 1074 from rfl, twoTo_add]
    exact Nat.mul_lt_mul_of_pos_right less (twoTo_pos 1074)

/-- An integer of at most 53 bits is a binary64 value. -/
theorem isBinary64_of_abs_le (integral : number.IsInteger)
    (bounded : |number.value| ≤ twoTo 53) : number.IsBinary64 := by
  obtain ⟨count, units, magnitude, size⟩ := exists_units integral
  rw [size, Nat.cast_le] at bounded
  have exact := Binary64.wordUnits_roundUnits Nat.one_pos (lost_of_le bounded)
  rw [Nat.mul_one, ← magnitude] at exact
  refine ⟨number.toBinary64, ?_⟩
  rw [value_eq, Binary64.value, Binary64.signedUnits, Binary64.units, exact, units]

/-! ### Agreement -/

/-- Two integers agree if they are equal. -/
theorem agrees_iff_of_integers (left : first.IsInteger) (right : second.IsInteger) :
    first.agrees second = true ↔ first.value = second.value := by
  obtain ⟨one, isOne⟩ := left
  obtain ⟨other, isOther⟩ := right
  rw [value_of_integer? isOne, value_of_integer? isOther, Int.cast_inj, agrees, isOne, isOther]
  exact beq_iff_eq

/-- As soon as one side is a binary64 value, both are compared as such values. -/
theorem agrees_iff_of_not_integers (mixed : ¬ (first.IsInteger ∧ second.IsInteger)) :
    first.agrees second = true ↔ first.toBinary64.value = second.toBinary64.value := by
  rw [Binary64.value_eq_value_iff, ← Binary64.same_iff, agrees]
  cases left : first.integer? with
  | none => rfl
  | some one =>
    cases right : second.integer? with
    | none => rfl
    | some other => exact absurd ⟨⟨one, left⟩, ⟨other, right⟩⟩ mixed

theorem not_isInteger_real : ¬ (Numeral.real real).IsInteger := by
  rintro ⟨_, none⟩
  cases none

theorem agrees_comm : first.agrees second = true ↔ second.agrees first = true := by
  by_cases integers : first.IsInteger ∧ second.IsInteger
  · rw [agrees_iff_of_integers integers.1 integers.2, agrees_iff_of_integers integers.2 integers.1]
    exact eq_comm
  · rw [agrees_iff_of_not_integers integers, agrees_iff_of_not_integers (mt And.symm integers)]
    exact eq_comm

/-- An integer is rounded to a binary64 number. -/
def RoundsTo (integer number : Numeral) : Prop :=
  integer.IsInteger ∧ ∃ real, number = .real real ∧ real.IsNearest integer.value

/-- An integer agrees with a binary64 number if it is rounded to it. -/
theorem agrees_iff_of_integer (integral : number.IsInteger) :
    number.agrees (.real real) = true ↔ number.RoundsTo (.real real) := by
  rw [agrees_iff_of_not_integers fun both => not_isInteger_real both.2, RoundsTo]
  constructor
  · intro same
    exact ⟨integral, real, rfl, (isNearest_iff integral).mpr same.symm⟩
  · rintro ⟨_, _, same, near⟩
    cases same
    exact ((isNearest_iff integral).mp near).symm

/-- **Two numbers agree if they are equal, or if one is an integer that is rounded to the other
one.** -/
theorem agrees_iff : first.agrees second = true
    ↔ first.value = second.value ∨ first.RoundsTo second ∨ second.RoundsTo first := by
  rcases isInteger_or_real first with left | ⟨one, rfl⟩
  · rcases isInteger_or_real second with right | ⟨other, rfl⟩
    · rw [agrees_iff_of_integers left right]
      refine ⟨Or.inl, fun cases => cases.resolve_right ?_⟩
      rintro (⟨_, _, rfl, _⟩ | ⟨_, _, rfl, _⟩)
      · exact not_isInteger_real right
      · exact not_isInteger_real left
    · rw [agrees_iff_of_integer left]
      refine ⟨fun rounds => Or.inr (Or.inl rounds), ?_⟩
      rintro (same | rounds | ⟨integral, _⟩)
      · exact ⟨left, other, rfl, isNearest_of_value_eq same.symm⟩
      · exact rounds
      · exact absurd integral not_isInteger_real
  · rcases isInteger_or_real second with right | ⟨other, rfl⟩
    · rw [agrees_comm, agrees_iff_of_integer right]
      refine ⟨fun rounds => Or.inr (Or.inr rounds), ?_⟩
      rintro (same | ⟨integral, _⟩ | rounds)
      · exact ⟨right, one, rfl, isNearest_of_value_eq same⟩
      · exact absurd integral not_isInteger_real
      · exact rounds
    · rw [agrees_iff_of_not_integers fun both => not_isInteger_real both.1]
      refine ⟨Or.inl, fun cases => cases.resolve_right ?_⟩
      rintro (⟨integral, _⟩ | ⟨integral, _⟩) <;> exact not_isInteger_real integral

/-- Binary64 values agree if they are equal, in whatever form they are given. -/
theorem agrees_iff_of_isBinary64 (left : first.IsBinary64) (right : second.IsBinary64) :
    first.agrees second = true ↔ first.value = second.value := by
  by_cases integers : first.IsInteger ∧ second.IsInteger
  · exact agrees_iff_of_integers integers.1 integers.2
  · rw [agrees_iff_of_not_integers integers, value_toBinary64 left, value_toBinary64 right]

theorem agrees_refl (number : Numeral) : number.agrees number = true :=
  agrees_iff.mpr (Or.inl rfl)

/-- Numbers that agree are compared as the same binary64 value. -/
theorem value_toBinary64_eq (agree : first.agrees second = true) :
    first.toBinary64.value = second.toBinary64.value := by
  by_cases integers : first.IsInteger ∧ second.IsInteger
  · have same := (agrees_iff_of_integers integers.1 integers.2).mp agree
    refine (isNearest_iff integers.2).mp ?_
    rw [← same]
    exact isNearest_toBinary64 integers.1
  · exact (agrees_iff_of_not_integers integers).mp agree

/-- Two numbers that agree with a common one agree, unless both are integers that are rounded to that
one, and one of them has more than 53 bits. -/
theorem agrees_of_common {common : Numeral} (left : first.agrees common = true)
    (right : second.agrees common = true) :
    first.agrees second = true
      ∨ first.RoundsTo common ∧ second.RoundsTo common
        ∧ ((twoTo 53 : ℚ) < |first.value| ∨ (twoTo 53 : ℚ) < |second.value|) := by
  have same := (value_toBinary64_eq left).trans (value_toBinary64_eq right).symm
  by_cases integers : first.IsInteger ∧ second.IsInteger
  · by_cases small : |first.value| ≤ twoTo 53 ∧ |second.value| ≤ twoTo 53
    · rw [value_toBinary64 (isBinary64_of_abs_le integers.1 small.1),
        value_toBinary64 (isBinary64_of_abs_le integers.2 small.2)] at same
      exact Or.inl (agrees_iff.mpr (Or.inl same))
    · rcases isInteger_or_real common with integral | ⟨real, rfl⟩
      · rw [agrees_iff_of_integers integers.1 integral] at left
        rw [agrees_iff_of_integers integers.2 integral] at right
        exact Or.inl (agrees_iff.mpr (Or.inl (left.trans right.symm)))
      · refine Or.inr ⟨(agrees_iff_of_integer integers.1).mp left,
          (agrees_iff_of_integer integers.2).mp right, ?_⟩
        rwa [not_and_or, not_le, not_le] at small
  · exact Or.inl ((agrees_iff_of_not_integers integers).mpr same)

end Numeral

/-! ### Expected numbers -/

/-- The value `2 ^ 53`, up to which every integer is a binary64 value. -/
def Binary64.lastWhole : Binary64 := ⟨false, 1076 * twoTo 52, by decide⟩

namespace AttributeValue

/-- **When a number is the expected one.** It is if both have the same exact value, and otherwise
only if one is an integer and the other one the binary64 number that the integer is rounded to. Two
integers, and two binary64 values in whatever form, have to be equal; an integer of at most 53 bits
is such a value. Every number is the one expected as itself, and it does not matter which of two is
the expected one; but two integers can both be the expected number without being equal, if they are
rounded to it and one of them has more than 53 bits. -/
theorem satisfies_number_spec :
    (∀ actual expected : Numeral,
      (number actual).satisfies (.number expected) = true
        ↔ actual.value = expected.value ∨ actual.RoundsTo expected ∨ expected.RoundsTo actual)
    ∧ (∀ actual expected : Numeral,
      actual.IsInteger ∧ expected.IsInteger ∨ actual.IsBinary64 ∧ expected.IsBinary64 →
        ((number actual).satisfies (.number expected) = true ↔ actual.value = expected.value))
    ∧ (∀ integer : Numeral,
      integer.IsInteger → |integer.value| ≤ 9007199254740992 → integer.IsBinary64)
    ∧ (∀ actual : Numeral, (number actual).satisfies (.number actual) = true)
    ∧ (∀ actual expected : Numeral,
      (number actual).satisfies (.number expected) = true →
        (number expected).satisfies (.number actual) = true)
    ∧ (∀ first second third : Numeral,
      (number first).satisfies (.number second) = true →
        (number second).satisfies (.number third) = true →
          (number first).satisfies (.number third) = true
            ∨ first.RoundsTo second ∧ third.RoundsTo second
              ∧ (9007199254740992 < |first.value| ∨ 9007199254740992 < |third.value|)) := by
  have size : (twoTo 53 : ℚ) = 9007199254740992 := by
    rw [twoTo_53, Nat.cast_ofNat]
  refine ⟨fun actual expected => Numeral.agrees_iff, ?_, ?_, Numeral.agrees_refl,
    fun actual expected => Numeral.agrees_comm.mp, ?_⟩
  · rintro actual expected (⟨left, right⟩ | ⟨left, right⟩)
    · exact Numeral.agrees_iff_of_integers left right
    · exact Numeral.agrees_iff_of_isBinary64 left right
  · intro integer integral bounded
    rw [← size] at bounded
    exact Numeral.isBinary64_of_abs_le integral bounded
  · intro first second third left right
    rw [← size]
    exact Numeral.agrees_of_common left (Numeral.agrees_comm.mp right)

/-- `2 ^ 53 + 1` is rounded to `2 ^ 53`, and is taken for it if that is a binary64 number, as `2 ^ 53`
itself is. -/
theorem satisfies_number_rounded :
    (number (.natural 9007199254740993)).satisfies (.number (.real .lastWhole)) = true
      ∧ (Numeral.natural 9007199254740993).value ≠ (Numeral.real .lastWhole).value
      ∧ (number (.natural 9007199254740992)).satisfies (.number (.real .lastWhole)) = true
      ∧ (number (.natural 9007199254740993)).satisfies
          (.number (.natural 9007199254740992)) = false := by
  refine ⟨by decide +kernel, ?_, by decide +kernel, by decide⟩
  rw [Ne, Numeral.value_eq_value_iff]
  decide +kernel

end AttributeValue

end PageAttributes
