/-
**How numbers begin.**

* `Numeral.exists_write` — the written form of a number begins with a sign or a digit.
-/

import PageAttributes.Number.Numeral

namespace PageAttributes

/-- Something begins with a digit. -/
def BeginsWithDigit (characters : List Char) : Prop :=
  ∃ first others, characters = first :: others ∧ first.isDigit = true

theorem BeginsWithDigit.append {characters : List Char} (begins : BeginsWithDigit characters)
    (more : List Char) : BeginsWithDigit (characters ++ more) := by
  obtain ⟨first, others, rfl, digit⟩ := begins
  exact ⟨first, others ++ more, rfl, digit⟩

theorem beginsWithDigit_toDigits (value : Nat) : BeginsWithDigit (Nat.toDigits 10 value) := by
  cases digits : Nat.toDigits 10 value with
  | nil => exact (Nat.toDigits_ne_nil digits).elim
  | cons first others =>
    have member : first ∈ Nat.toDigits 10 value := digits ▸ List.mem_cons_self
    exact ⟨first, others, rfl, Nat.isDigit_of_mem_toDigits (by decide) (by decide) member⟩

theorem beginsWithDigit_toString (value : Nat) : BeginsWithDigit (toString value).toList := by
  rw [Nat.toString_eq_ofList_toDigits, String.toList_ofList]
  exact beginsWithDigit_toDigits value

namespace DecimalLayout

/-- A point may stand behind the first digit, but not before it. -/
theorem beginsWithDigit_pointed {digits : List Char} (begins : BeginsWithDigit digits)
    (whole : Nat) : BeginsWithDigit (pointed digits (whole + 1)).toList := by
  obtain ⟨first, others, rfl, digit⟩ := begins
  rw [pointed, String.toList_ofList, List.take_succ_cons]
  exact ⟨first, _, rfl, digit⟩

/-- The written form of a positive decimal begins with a digit. -/
theorem beginsWithDigit_write (layout : DecimalLayout) (decimal : Decimal) :
    BeginsWithDigit (layout.write decimal).toList := by
  have digits := beginsWithDigit_toDigits decimal.digits
  unfold write
  dsimp only
  split
  · split
    · rw [String.toList_append, String.toList_append]
      exact ⟨'0', _, rfl, rfl⟩
    · exact beginsWithDigit_pointed (digits.append _) _
  · rw [String.toList_append, String.toList_append, List.append_assoc]
    refine BeginsWithDigit.append ?_ _
    split
    · rw [String.toList_ofList]
      exact digits
    · exact beginsWithDigit_pointed digits 0

theorem exists_writeBinary64 (layout : DecimalLayout) (value : Binary64) :
    (∃ others, (layout.writeBinary64 value).toList = '-' :: others)
      ∨ BeginsWithDigit (layout.writeBinary64 value).toList := by
  have magnitude :
      BeginsWithDigit (if value.isZero then "0.0" else layout.write value.shortest).toList := by
    split
    · exact ⟨'0', _, rfl, rfl⟩
    · exact layout.beginsWithDigit_write _
  unfold writeBinary64
  dsimp only
  by_cases negative : value.negative = true
  · rw [if_pos negative, String.toList_append]
    exact Or.inl ⟨_, rfl⟩
  · rw [if_neg negative]
    exact Or.inr magnitude

end DecimalLayout

/-- The written form of a number begins with a sign or a digit. -/
theorem Numeral.exists_write (value : Numeral) :
    (∃ others, value.write.toList = '-' :: others) ∨ BeginsWithDigit value.write.toList := by
  cases value with
  | natural value => exact Or.inr (beginsWithDigit_toString value.val)
  | negative distance =>
    rw [write, String.toList_append]
    exact Or.inl ⟨_, rfl⟩
  | real value => exact layout.exists_writeBinary64 value

end PageAttributes
