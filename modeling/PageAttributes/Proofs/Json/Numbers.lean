/-
**A number reads the same wherever it stands.**

* `Delimited` — what may follow a value: nothing, a comma or a closing bracket;
* `readNumber_append` — a number that can be read at the end of a text is read in front of all that
  may follow it;
* `readNumber_toDigits` — the digits of a natural number below `2 ^ 64` are read as that number.
-/

import Mathlib.Data.Nat.Digits.Defs
import PageAttributes.Json.Numbers
import PageAttributes.Proofs.Json.Text

namespace PageAttributes.Json

/-! ### What follows a value -/

/-- Nothing follows, or a comma or a closing bracket. -/
def Delimited (rest : List Symbol) : Prop :=
  ∀ symbol ∈ rest.head?, symbol = .char ',' ∨ symbol = .char ']' ∨ symbol = .char '}'

theorem delimited_nil : Delimited [] := nofun

theorem delimited_cons (symbol : Symbol) (rest : List Symbol)
    (closing : symbol = .char ',' ∨ symbol = .char ']' ∨ symbol = .char '}') :
    Delimited (symbol :: rest) := by
  intro other first
  cases first
  exact closing

/-- Nothing follows, or a certain symbol. -/
theorem Delimited.cases {rest : List Symbol} (delimited : Delimited rest) :
    rest = [] ∨ ∃ others, rest = .char ',' :: others ∨ rest = .char ']' :: others
      ∨ rest = .char '}' :: others := by
  cases rest with
  | nil => exact Or.inl rfl
  | cons first others =>
    obtain rfl | rfl | rfl := delimited first rfl
    · exact Or.inr ⟨others, Or.inl rfl⟩
    · exact Or.inr ⟨others, Or.inr (Or.inl rfl)⟩
    · exact Or.inr ⟨others, Or.inr (Or.inr rfl)⟩

variable {rest : List Symbol}

theorem digitRun_delimited (delimited : Delimited rest) : digitRun rest = ([], rest) := by
  obtain rfl | ⟨others, rfl | rfl | rfl⟩ := delimited.cases <;> rfl

theorem exponentSign_delimited (delimited : Delimited rest) : exponentSign rest = (false, rest) := by
  obtain rfl | ⟨others, rfl | rfl | rfl⟩ := delimited.cases <;> rfl

/-- What follows does not belong to the digits. -/
theorem digitRun_append (delimited : Delimited rest) (symbols : List Symbol) :
    digitRun (symbols ++ rest) = ((digitRun symbols).1, (digitRun symbols).2 ++ rest) := by
  induction symbols with
  | nil => rw [List.nil_append, digitRun_delimited delimited]; rfl
  | cons first others ih =>
    cases first with
    | stray byte => rfl
    | char value =>
      rw [List.cons_append, digitRun, digitRun, ih]
      split <;> rfl

theorem exponentSign_append (delimited : Delimited rest) (symbols : List Symbol) :
    exponentSign (symbols ++ rest) = ((exponentSign symbols).1, (exponentSign symbols).2 ++ rest) := by
  cases symbols with
  | nil => rw [List.nil_append, exponentSign_delimited delimited]; rfl
  | cons first others =>
    rw [List.cons_append]
    unfold exponentSign
    split
    · rename_i same
      cases same
      rfl
    · rename_i same
      cases same
      rfl
    · rename_i plus minus
      split
      · rename_i same
        cases same
        exact (plus _ rfl).elim
      · rename_i same
        cases same
        exact (minus _ rfl).elim
      · rfl

/-! ### Numbers in front of something else -/

/-- What is read at the end of a text is read in front of `rest` as well. -/
def Continues (rest : List Symbol)
    (read : List Symbol → Except Halt (Numeral × List Symbol)) : Prop :=
  ∀ symbols value left, read symbols = .ok (value, left) →
    read (symbols ++ rest) = .ok (value, left ++ rest)

theorem realBefore_append (negative : Bool) (significand : Nat) (exponent : Int) :
    Continues rest (realBefore negative significand exponent) := by
  intro symbols value left same
  rw [realBefore] at same ⊢
  cases found : scaled? negative significand exponent with
  | none =>
    rw [found] at same
    cases same
  | some real =>
    rw [found] at same
    cases same
    rfl

theorem readExponent_append (delimited : Delimited rest) (negative : Bool) (significand : Nat)
    (exponent : Int) : Continues rest (readExponent negative significand exponent) := by
  intro symbols value left same
  rw [readExponent] at same ⊢
  rw [exponentSign_append delimited]
  generalize exponentSign symbols = signed at same ⊢
  obtain ⟨down, unsigned⟩ := signed
  dsimp only at same ⊢
  rw [digitRun_append delimited]
  generalize digitRun unsigned = run at same ⊢
  obtain ⟨digits, after⟩ := run
  cases digits with
  | nil =>
    dsimp only at same
    split at same <;> cases same
  | cons digit digits =>
    dsimp only at same ⊢
    generalize exponentOf 0 (digit :: digits) = size at same ⊢
    cases size with
    | ok size => exact realBefore_append negative significand _ after value left same
    | error unread =>
      dsimp only at same ⊢
      split at same
      · rename_i vanishes
        cases same
        rw [if_pos vanishes]
      · cases same

/-- Without the letter of an exponent nothing else belongs to a number. -/
theorem readScale_plain {symbols : List Symbol} (small : ∀ others, symbols ≠ .char 'e' :: others)
    (large : ∀ others, symbols ≠ .char 'E' :: others) (negative : Bool) (significand : Nat)
    (exponent : Int) : readScale negative significand exponent symbols
      = realBefore negative significand exponent symbols := by
  unfold readScale
  split
  · rename_i others
    exact (small others rfl).elim
  · rename_i others
    exact (large others rfl).elim
  · rfl

/-- A delimiter is no other character. -/
theorem Delimited.ne_cons (delimited : Delimited rest) {value : Char}
    (other : value ≠ ',' ∧ value ≠ ']' ∧ value ≠ '}') (others : List Symbol) :
    rest ≠ .char value :: others := by
  rintro rfl
  obtain ⟨comma, bracket, brace⟩ := other
  obtain same | same | same := delimited _ rfl
  · exact comma (Symbol.char.inj same)
  · exact bracket (Symbol.char.inj same)
  · exact brace (Symbol.char.inj same)

/-- What does not begin with a character does not begin with it in front of a delimiter. -/
theorem Delimited.append_ne_cons (delimited : Delimited rest) {value : Char}
    (other : value ≠ ',' ∧ value ≠ ']' ∧ value ≠ '}') {symbols : List Symbol}
    (absent : ∀ others, symbols ≠ .char value :: others) (others : List Symbol) :
    symbols ++ rest ≠ .char value :: others := by
  cases symbols with
  | nil => exact delimited.ne_cons other others
  | cons first more =>
    intro same
    exact absent more (by rw [(List.cons.inj same).1])

theorem readScale_append (delimited : Delimited rest) (negative : Bool) (significand : Nat)
    (exponent : Int) : Continues rest (readScale negative significand exponent) := by
  intro symbols value left same
  by_cases small : ∃ others, symbols = .char 'e' :: others
  · obtain ⟨others, rfl⟩ := small
    exact readExponent_append delimited negative significand exponent others value left same
  by_cases large : ∃ others, symbols = .char 'E' :: others
  · obtain ⟨others, rfl⟩ := large
    exact readExponent_append delimited negative significand exponent others value left same
  rw [not_exists] at small large
  rw [readScale_plain small large] at same
  have smallToo := delimited.append_ne_cons (by decide) small
  have largeToo := delimited.append_ne_cons (by decide) large
  rw [readScale_plain smallToo largeToo]
  exact realBefore_append negative significand exponent symbols value left same

theorem readFraction_append (delimited : Delimited rest) (negative : Bool) (significand : Nat)
    (exponent : Int) : Continues rest (readFraction negative significand exponent) := by
  intro symbols value left same
  rw [readFraction] at same ⊢
  rw [digitRun_append delimited]
  generalize digitRun symbols = run at same ⊢
  obtain ⟨digits, after⟩ := run
  cases digits with
  | nil =>
    dsimp only at same
    split at same <;> cases same
  | cons digit digits =>
    dsimp only at same ⊢
    exact readScale_append delimited negative _ _ after value left same

/-- **A number that can be read at the end of a text is read in front of all that may follow
it.** -/
theorem readNumber_append (delimited : Delimited rest) (negative : Bool) :
    Continues rest (readNumber negative) := by
  intro symbols value left same
  rw [readNumber] at same ⊢
  rw [digitRun_append delimited]
  generalize digitRun symbols = run at same ⊢
  obtain ⟨digits, after⟩ := run
  dsimp only at same ⊢
  split at same
  · split at same <;> cases same
  · cases same
  · rename_i digits more notEmpty noZero run
    cases run
    split
    · rename_i run
      cases run
      exact (notEmpty rfl).elim
    · rename_i run
      cases run
      exact (noZero _ _ rfl).elim
    · rename_i digits _ _ _ run
      cases run
      generalize appendDigits 0 digits = kept at same ⊢
      obtain ⟨significand, dropped⟩ := kept
      dsimp only at same ⊢
      split at same
      · exact readFraction_append delimited negative significand _ _ value left same
      · exact readExponent_append delimited negative significand _ _ value left same
      · exact readExponent_append delimited negative significand _ _ value left same
      · rename_i noPoint noSmall noLarge
        split
        · rename_i others point
          exact (delimited.append_ne_cons (by decide) noPoint others point).elim
        · rename_i others letter
          exact (delimited.append_ne_cons (by decide) noSmall others letter).elim
        · rename_i others letter
          exact (delimited.append_ne_cons (by decide) noLarge others letter).elim
        · split at same
          · rename_i whole
            cases same
            rw [if_pos whole]
          · rename_i cut
            rw [if_neg cut]
            exact realBefore_append negative significand _ after value left same

/-! ### Integers -/

theorem isDigit_range {digit : Char} (isDigit : digit.isDigit = true) :
    '0' ≤ digit ∧ digit ≤ '9' := by
  simpa [Char.isDigit, Char.le_def] using isDigit

theorem digitRun_digits {digits : List Char} (all : ∀ digit ∈ digits, digit.isDigit = true) :
    digitRun (symbolsOf digits) = (digits.map fun digit => digit.toNat - '0'.toNat, []) := by
  induction digits with
  | nil => rfl
  | cons first others ih =>
    obtain ⟨here, later⟩ := List.forall_mem_cons.mp all
    rw [symbolsOf_cons, digitRun, if_pos (isDigit_range here), ih later]
    rfl

/-- More digits make no smaller number. -/
theorem le_foldl_digits (digits : List Nat) (total : Nat) :
    total ≤ digits.foldl (fun total digit => total * 10 + digit) total := by
  induction digits generalizing total with
  | nil => exact Nat.le_refl _
  | cons digit others ih =>
    have grown : total ≤ total * 10 + digit := by omega
    exact Nat.le_trans grown (ih _)

/-- All digits are kept of a number that fits 64 bits. -/
theorem appendDigits_eq (digits : List Nat) (significand : Nat)
    (fits : digits.foldl (fun total digit => total * 10 + digit) significand < twoTo 64) :
    appendDigits significand digits
      = (digits.foldl (fun total digit => total * 10 + digit) significand, []) := by
  induction digits generalizing significand with
  | nil => rfl
  | cons digit others ih =>
    rw [List.foldl_cons] at fits ⊢
    have here := Nat.lt_of_le_of_lt (le_foldl_digits others (significand * 10 + digit)) fits
    rw [appendDigits, if_pos here, ih _ fits]

/-- The digits of a positive number do not begin with zero. -/
theorem head?_toDigits_ne (value : Nat) (positive : 0 < value) :
    (Nat.toDigits 10 value).head? ≠ some '0' := by
  induction value using Nat.strongRecOn with
  | ind value ih =>
    by_cases small : value < 10
    · have nonzero : ∀ digit < 10, 0 < digit → Nat.digitChar digit ≠ '0' := by decide
      rw [Nat.toDigits_of_lt_base small]
      exact fun same => nonzero value small positive (Option.some.inj same)
    · have earlier := ih (value / 10) (by omega) (by omega)
      rw [Nat.toDigits_of_base_le (by decide) (Nat.le_of_not_lt small)]
      cases digits : Nat.toDigits 10 (value / 10) with
      | nil => exact (Nat.toDigits_ne_nil digits).elim
      | cons first others =>
        rw [digits] at earlier
        exact earlier

/-- Only one digit has the value zero. -/
theorem eq_zero_of_value {digit : Char} (isDigit : digit.isDigit = true)
    (zero : digit.toNat - '0'.toNat = 0) : digit = '0' := by
  have low : '0'.toNat ≤ digit.toNat := (isDigit_range isDigit).1
  rw [← Char.ofNat_toNat digit, Nat.le_antisymm (Nat.le_of_sub_eq_zero zero) low]
  rfl

/-- The digits of a number that fits 64 bits are read as that number. -/
theorem readNumber_toDigits (negative : Bool) {value : Nat} (fits : value < twoTo 64) :
    readNumber negative (symbolsOf (Nat.toDigits 10 value)) = .ok (integral negative value, []) := by
  have all : ∀ digit ∈ Nat.toDigits 10 value, digit.isDigit = true := fun digit member =>
    Nat.isDigit_of_mem_toDigits (by decide) (by decide) member
  have total : ((Nat.toDigits 10 value).map fun digit => digit.toNat - '0'.toNat).foldl
      (fun total digit => total * 10 + digit) 0 = value := by
    rw [List.foldl_map]
    simpa only [Nat.ofDigitChars_eq_foldl, Nat.mul_comm] using
      (Nat.ofDigitChars_ten_toDigits (n := value))
  have kept := appendDigits_eq _ 0 (total.symm ▸ fits)
  rw [total] at kept
  rw [readNumber, digitRun_digits all]
  split
  · rename_i run
    have empty := List.map_eq_nil_iff.mp (Prod.mk.inj run).1
    exact (Nat.toDigits_ne_nil empty).elim
  · rename_i more others run
    obtain ⟨first, rest, digits, zero, later⟩ := List.map_eq_cons_iff.mp (Prod.mk.inj run).1
    have isZero := eq_zero_of_value (all first (digits ▸ List.mem_cons_self)) zero
    have positive : 0 < value := by
      refine Nat.pos_of_ne_zero fun none => ?_
      rw [none, Nat.toDigits_zero] at digits
      rw [← (List.cons.inj digits).2] at later
      cases later
    have leading := head?_toDigits_ne value positive
    rw [digits, isZero] at leading
    exact (leading rfl).elim
  · rename_i run
    cases run
    rw [kept]
    rfl

end PageAttributes.Json
