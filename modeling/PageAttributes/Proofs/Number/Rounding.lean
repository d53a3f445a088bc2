/-
**A quotient is rounded to the nearest word.**

* `Binary64.wordUnits_add` — the value of a word, by its exponent and its significand;
* `Binary64.strictMono_wordUnits` — words are ordered as their values are;
* `Binary64.distance` — how far a word is from a quotient;
* `Binary64.nearest_roundUnits` — every other word is further away than the one that a quotient is
  rounded to, or as far away and odd, where that one is even;
* `Binary64.wordUnits_roundUnits`, `Binary64.lost_eq_zero` — a quotient of at most 53 bits is not
  changed.
-/

import Mathlib.Data.Nat.Dist
import Mathlib.Order.Monotone.Basic
import PageAttributes.Number.Binary64

namespace PageAttributes

/-! ### Powers of two -/

theorem twoTo_pos (exponent : Nat) : 0 < twoTo exponent := Nat.pow_pos (Nat.zero_lt_succ 1)

theorem twoTo_add (first second : Nat) : twoTo (first + second) = twoTo first * twoTo second :=
  Nat.pow_add 2 first second

theorem twoTo_le_twoTo {less more : Nat} (le : less ≤ more) : twoTo less ≤ twoTo more :=
  Nat.pow_le_pow_right (Nat.zero_lt_succ 1) le

theorem twoTo_lt_twoTo {less more : Nat} (lt : less < more) : twoTo less < twoTo more :=
  Nat.pow_lt_pow_right (Nat.lt_succ_self 1) lt

theorem twoTo_dvd_twoTo {less more : Nat} (le : less ≤ more) : twoTo less ∣ twoTo more :=
  Nat.pow_dvd_pow 2 le

theorem twoTo_52 : twoTo 52 = 4503599627370496 := rfl

theorem twoTo_53 : twoTo 53 = 9007199254740992 := rfl

namespace Binary64

/-! ### Words -/

/-- A significand of 53 bits is shifted by the exponent; the next word after those of one exponent
is the first one of the next exponent. -/
theorem wordUnits_add {shift significand : Nat} (normal : shift = 0 ∨ twoTo 52 ≤ significand)
    (bounded : significand ≤ twoTo 53) :
    wordUnits (shift * twoTo 52 + significand) = significand * twoTo shift := by
  rw [twoTo_52] at normal ⊢
  rw [twoTo_53] at bounded
  unfold wordUnits
  rw [twoTo_52]
  by_cases small : significand < 4503599627370496
  · obtain rfl : shift = 0 := normal.resolve_right (Nat.not_le_of_lt small)
    rw [Nat.zero_mul, Nat.zero_add, if_pos small]
    exact (Nat.mul_one significand).symm
  · rw [if_neg (by omega)]
    by_cases top : significand = 9007199254740992
    · subst top
      rw [show (shift * 4503599627370496 + 9007199254740992) % 4503599627370496 = 0 by omega,
        show (shift * 4503599627370496 + 9007199254740992) / 4503599627370496 - 1 = 1 + shift by
          omega, twoTo_add, ← Nat.mul_assoc]
      rfl
    · rw [show 4503599627370496 + (shift * 4503599627370496 + significand) % 4503599627370496
          = significand by omega,
        show (shift * 4503599627370496 + significand) / 4503599627370496 - 1 = shift by omega]

/-- Every word has an exponent and a significand. -/
theorem exists_significand (word : Nat) :
    ∃ shift significand, word = shift * twoTo 52 + significand
      ∧ (shift = 0 ∨ twoTo 52 ≤ significand) ∧ significand < twoTo 53 := by
  rw [twoTo_52, twoTo_53]
  by_cases small : word < 9007199254740992
  · exact ⟨0, word, by omega, Or.inl rfl, small⟩
  · exact ⟨word / 4503599627370496 - 1, word % 4503599627370496 + 4503599627370496, by omega,
      Or.inr (by omega), by omega⟩

/-- Words are ordered as their values are. -/
theorem strictMono_wordUnits : StrictMono wordUnits := by
  refine strictMono_nat_of_lt_succ fun word => ?_
  obtain ⟨shift, significand, rfl, normal, bounded⟩ := exists_significand word
  rw [Nat.add_assoc, wordUnits_add normal (Nat.le_of_lt bounded),
    wordUnits_add (normal.imp_right fun le => Nat.le_succ_of_le le) bounded]
  exact Nat.mul_lt_mul_of_pos_right (Nat.lt_succ_self significand) (twoTo_pos shift)

/-! ### Rounding -/

/-- How far a word is from a quotient, in units divided by the denominator. -/
def distance (numerator denominator word : Nat) : Nat :=
  Nat.dist (wordUnits word * denominator) numerator

/-- How far the bits of a quotient are shifted, to leave 53 of them. -/
def shiftOf (numerator denominator : Nat) : Nat := Nat.log2 (numerator / denominator) + 1 - 53

/-- The bits of a quotient that are left. -/
def significandOf (numerator denominator : Nat) : Nat :=
  numerator / (denominator * twoTo (shiftOf numerator denominator))

section Rounding

variable {numerator denominator : Nat}

/-- At most 53 bits are left. -/
theorem significandOf_lt (numerator denominator : Nat) :
    significandOf numerator denominator < twoTo 53 := by
  have most : numerator / denominator
      < twoTo (53 + shiftOf numerator denominator) := by
    refine Nat.lt_of_lt_of_le (Nat.lt_log2_self (n := numerator / denominator))
      (twoTo_le_twoTo ?_)
    unfold shiftOf
    omega
  rw [significandOf, ← Nat.div_div_eq_div_mul, Nat.div_lt_iff_lt_mul (twoTo_pos _), ← twoTo_add]
  exact most

/-- If bits are dropped, 53 bits are left. -/
theorem le_significandOf (dropped : shiftOf numerator denominator ≠ 0) :
    twoTo 52 ≤ significandOf numerator denominator := by
  have nonzero : numerator / denominator ≠ 0 := by
    intro zero
    rw [shiftOf, zero] at dropped
    exact dropped rfl
  have least : twoTo (52 + shiftOf numerator denominator) ≤ numerator / denominator := by
    refine Nat.le_trans (twoTo_le_twoTo ?_) (Nat.log2_self_le nonzero)
    unfold shiftOf at dropped ⊢
    omega
  rw [significandOf, ← Nat.div_div_eq_div_mul, Nat.le_div_iff_mul_le (twoTo_pos _), ← twoTo_add]
  exact least

/-- The word below a quotient, or at it. -/
def wordBelow (numerator denominator : Nat) : Nat :=
  shiftOf numerator denominator * twoTo 52 + significandOf numerator denominator

theorem normal_significandOf (numerator denominator : Nat) :
    shiftOf numerator denominator = 0 ∨ twoTo 52 ≤ significandOf numerator denominator :=
  or_iff_not_imp_left.mpr le_significandOf

theorem wordUnits_wordBelow (numerator denominator : Nat) :
    wordUnits (wordBelow numerator denominator)
      = significandOf numerator denominator * twoTo (shiftOf numerator denominator) :=
  wordUnits_add (normal_significandOf numerator denominator)
    (Nat.le_of_lt (significandOf_lt numerator denominator))

theorem wordUnits_wordBelow_succ (numerator denominator : Nat) :
    wordUnits (wordBelow numerator denominator + 1)
      = (significandOf numerator denominator + 1) * twoTo (shiftOf numerator denominator) := by
  rw [wordBelow, Nat.add_assoc]
  exact wordUnits_add ((normal_significandOf numerator denominator).imp_right Nat.le_succ_of_le)
    (significandOf_lt numerator denominator)

/-- What a quotient loses when its bits are dropped. -/
def lost (numerator denominator : Nat) : Nat :=
  numerator % (denominator * twoTo (shiftOf numerator denominator))

/-- A quotient is rounded up if it is nearer to the next word, or in the middle and the word below it
is odd. -/
def RoundsUp (numerator denominator : Nat) : Prop :=
  denominator * twoTo (shiftOf numerator denominator) < 2 * lost numerator denominator
    ∨ 2 * lost numerator denominator = denominator * twoTo (shiftOf numerator denominator)
      ∧ significandOf numerator denominator % 2 = 1

theorem roundUnits_of_up (up : RoundsUp numerator denominator) :
    roundUnits numerator denominator = wordBelow numerator denominator + 1 := by
  unfold RoundsUp lost significandOf shiftOf at up
  unfold roundUnits wordBelow significandOf shiftOf
  dsimp only
  rw [if_pos up, Nat.add_assoc]

theorem roundUnits_of_not_up (down : ¬ RoundsUp numerator denominator) :
    roundUnits numerator denominator = wordBelow numerator denominator := by
  unfold RoundsUp lost significandOf shiftOf at down
  unfold roundUnits wordBelow significandOf shiftOf
  dsimp only
  rw [if_neg down]

/-- A word and its significand are even or odd together. -/
theorem wordBelow_mod_two (numerator denominator : Nat) :
    wordBelow numerator denominator % 2 = significandOf numerator denominator % 2 := by
  rw [wordBelow, twoTo_52]
  omega

/-- A quotient lies between two words that are one step apart, at the first one or behind it. -/
theorem exists_neighbours (numerator : Nat) (positive : 0 < denominator) :
    ∃ base step, wordUnits (wordBelow numerator denominator) * denominator = base
      ∧ wordUnits (wordBelow numerator denominator + 1) * denominator = base + step
      ∧ base + lost numerator denominator = numerator ∧ lost numerator denominator < step
      ∧ (RoundsUp numerator denominator ↔ step < 2 * lost numerator denominator
          ∨ 2 * lost numerator denominator = step
            ∧ wordBelow numerator denominator % 2 = 1) := by
  refine ⟨significandOf numerator denominator
      * (denominator * twoTo (shiftOf numerator denominator)),
    denominator * twoTo (shiftOf numerator denominator), ?_, ?_, Nat.div_add_mod' _ _,
    Nat.mod_lt _ (Nat.mul_pos positive (twoTo_pos _)), ?_⟩
  · rw [wordUnits_wordBelow, Nat.mul_assoc, Nat.mul_comm (twoTo _)]
  · rw [wordUnits_wordBelow_succ, Nat.mul_assoc, Nat.mul_comm (twoTo _), Nat.succ_mul]
  · rw [wordBelow_mod_two, RoundsUp]

/-- **A quotient is rounded to the nearest word.** Every other word is further away from it, or as
far away, and then it is odd, and the one that the quotient is rounded to is even. -/
theorem nearest_roundUnits (positive : 0 < denominator) {other : Nat}
    (different : other ≠ roundUnits numerator denominator) :
    distance numerator denominator (roundUnits numerator denominator)
        < distance numerator denominator other
      ∨ distance numerator denominator (roundUnits numerator denominator)
            = distance numerator denominator other
          ∧ roundUnits numerator denominator % 2 = 0 ∧ other % 2 = 1 := by
  obtain ⟨base, step, below, above, whole, less, up⟩ := exists_neighbours numerator positive
  have ordered : ∀ {first second}, first < second →
      wordUnits first * denominator < wordUnits second * denominator := fun before =>
    Nat.mul_lt_mul_of_pos_right (strictMono_wordUnits before) positive
  -- What is not one of the two words around the quotient lies beyond one of them.
  have place : wordUnits other * denominator < base
      ∨ other = wordBelow numerator denominator
      ∨ other = wordBelow numerator denominator + 1
      ∨ base + step < wordUnits other * denominator := by
    rcases Nat.lt_trichotomy other (wordBelow numerator denominator) with before | same | after
    · exact Or.inl (below ▸ ordered before)
    · exact Or.inr (Or.inl same)
    · rcases Nat.eq_or_lt_of_le after with next | behind
      · exact Or.inr (Or.inr (Or.inl next.symm))
      · exact Or.inr (Or.inr (Or.inr (above ▸ ordered behind)))
  unfold distance Nat.dist
  by_cases isUp : RoundsUp numerator denominator
  · rw [roundUnits_of_up isUp] at different ⊢
    have far := up.mp isUp
    rw [above]
    rcases place with before | rfl | rfl | behind
    · omega
    · rw [below]
      omega
    · exact absurd rfl different
    · omega
  · rw [roundUnits_of_not_up isUp] at different ⊢
    have near := mt up.mpr isUp
    rw [below]
    rcases place with before | rfl | rfl | behind
    · omega
    · exact absurd rfl different
    · rw [above]
      omega
    · omega

/-- A quotient that is not large is not shifted far. -/
theorem shiftOf_le {exponent : Nat} (bounded : numerator / denominator < twoTo exponent) :
    shiftOf numerator denominator ≤ exponent - 53 := by
  unfold shiftOf
  by_cases zero : numerator / denominator = 0
  · rw [zero, Nat.log2_zero]
    exact Nat.zero_le _
  · have less := (Nat.log2_lt zero).mpr bounded
    omega

/-- The word that a quotient is rounded to has at most the next exponent. -/
theorem roundUnits_le (numerator denominator : Nat) :
    roundUnits numerator denominator
      ≤ shiftOf numerator denominator * twoTo 52 + twoTo 53 := by
  have bounded := significandOf_lt numerator denominator
  by_cases isUp : RoundsUp numerator denominator
  · rw [roundUnits_of_up isUp, wordBelow]
    omega
  · rw [roundUnits_of_not_up isUp, wordBelow]
    omega

/-- A multiple of a power of two loses nothing if it is not shifted further than that. -/
theorem lost_eq_zero {exponent : Nat} (multiple : twoTo exponent ∣ numerator)
    (within : shiftOf numerator 1 ≤ exponent) : lost numerator 1 = 0 := by
  rw [lost, Nat.one_mul]
  exact Nat.mod_eq_zero_of_dvd ((twoTo_dvd_twoTo within).trans multiple)

/-- A quotient that loses nothing is the value of the word that it is rounded to. -/
theorem wordUnits_roundUnits (positive : 0 < denominator)
    (exact : lost numerator denominator = 0) :
    wordUnits (roundUnits numerator denominator) * denominator = numerator := by
  obtain ⟨base, step, below, _, whole, less, up⟩ := exists_neighbours numerator positive
  have isDown : ¬ RoundsUp numerator denominator := by
    rw [up]
    omega
  rw [roundUnits_of_not_up isDown, below]
  omega

end Rounding

end Binary64

end PageAttributes
