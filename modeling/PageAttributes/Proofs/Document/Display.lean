/-
**Places that are written alike are the same.**

A written place is read from the left. A field goes on as long as there are letters, a position as
long as there are digits, and whatever comes next begins with a full stop or a bracket.

* `append_inj_of_all` — two texts that agree, and that both begin with a run of one sort, begin with
  the same run;
* `Path.IsWord`, `Path.IsPlain` — a name that consists of letters, and a place with no other names;
* `Path.displaySteps_inj` — the steps after the first, by induction on them;
* `Path.display_injOn` — whole places. The root is written with brackets that nothing else begins
  with.

Without words two places may be written alike.
-/

import Mathlib.Data.Set.Function
import PageAttributes.Document.Path

namespace PageAttributes

/-! ### Runs -/

section Runs

variable {sort : Char → Bool} {first second rest others : List Char}

/-- Nothing of a sort is taken from a text that does not begin with it. -/
theorem takeWhile_of_head? (ends : ∀ sign ∈ rest.head?, sort sign = false) :
    rest.takeWhile sort = [] := by
  cases rest with
  | nil => rfl
  | cons sign more => exact List.takeWhile_cons_of_neg (Bool.eq_false_iff.mp (ends sign rfl))

/-- Two texts that agree, each a run of one sort and something that does not go on with it, agree in
both parts. -/
theorem append_inj_of_all (run : ∀ sign ∈ first, sort sign = true)
    (runToo : ∀ sign ∈ second, sort sign = true)
    (ends : ∀ sign ∈ rest.head?, sort sign = false)
    (endsToo : ∀ sign ∈ others.head?, sort sign = false)
    (same : first ++ rest = second ++ others) : first = second ∧ rest = others := by
  have sameRun : first = second := by
    have taken := congrArg (List.takeWhile sort) same
    rwa [List.takeWhile_append_of_pos run, List.takeWhile_append_of_pos runToo,
      takeWhile_of_head? ends, takeWhile_of_head? endsToo, List.append_nil, List.append_nil]
      at taken
  subst sameRun
  exact ⟨rfl, List.append_cancel_left same⟩

/-- The digits of a number tell which it is. -/
theorem toDigits_inj {first second : Nat} (same : Nat.toDigits 10 first = Nat.toDigits 10 second) :
    first = second := by
  have read := congrArg (fun digits => Nat.ofDigitChars 10 digits 0) same
  rwa [Nat.ofDigitChars_ten_toDigits, Nat.ofDigitChars_ten_toDigits] at read

end Runs

namespace Path

/-! ### Plain places -/

/-- A name consists of letters, of one at least. -/
def IsWord (name : String) : Prop := name ≠ "" ∧ ∀ sign ∈ name.toList, sign.isAlpha = true

-- Through the list of its characters, not by going through all characters there are.
instance (name : String) : Decidable (IsWord name) :=
  decidable_of_iff (name ≠ "" ∧ name.toList.all Char.isAlpha = true)
    (and_congr_right' List.all_eq_true)

/-- All names in a place are words. -/
def IsPlain (path : Path) : Prop := ∀ name, Step.field name ∈ path → IsWord name

variable {first second path : Path} {name : String} {step : Step}

theorem IsPlain.tail (plain : IsPlain (step :: path)) : IsPlain path :=
  fun name member => plain name (.tail _ member)

theorem IsPlain.head (plain : IsPlain (.field name :: path)) : IsWord name := plain name (.head _)

/-- A word begins with a letter. -/
theorem IsWord.begins (word : IsWord name) :
    ∃ letter more, name.toList = letter :: more ∧ letter.isAlpha = true := by
  cases letters : name.toList with
  | nil => exact absurd (String.toList_eq_nil_iff.mp letters) word.1
  | cons letter more => exact ⟨letter, more, rfl, word.2 letter (letters ▸ .head _)⟩

/-! ### Steps after the first -/

theorem toList_displaySteps_field (name : String) (path : Path) :
    (displaySteps (.field name :: path)).toList
      = '.' :: (name.toList ++ (displaySteps path).toList) := by
  rw [displaySteps, displayStep, String.toList_append, String.toList_append]
  rfl

theorem toList_displaySteps_index (position : Nat) (path : Path) :
    (displaySteps (.index position :: path)).toList
      = '[' :: (Nat.toDigits 10 position ++ ']' :: (displaySteps path).toList) := by
  have digits : (toString position).toList = Nat.toDigits 10 position := by
    rw [Nat.toString_eq_ofList_toDigits, String.toList_ofList]
  rw [displaySteps, displayStep, String.toList_append, String.toList_append, String.toList_append,
    digits, List.append_assoc, List.append_assoc]
  rfl

/-- No step goes on with letters. -/
theorem head?_displaySteps (path : Path) :
    ∀ sign ∈ (displaySteps path).toList.head?, sign.isAlpha = false := by
  intro sign begins
  cases path with
  | nil => cases begins
  | cons step rest =>
    cases step with
    | field name =>
      rw [toList_displaySteps_field] at begins
      cases begins
      rfl
    | index position =>
      rw [toList_displaySteps_index] at begins
      cases begins
      rfl

/-- A word ends where the next step begins. -/
theorem word_inj {other : String} (word : IsWord name) (wordToo : IsWord other)
    (same : name.toList ++ (displaySteps first).toList
      = other.toList ++ (displaySteps second).toList) :
    name = other ∧ (displaySteps first).toList = (displaySteps second).toList :=
  (append_inj_of_all word.2 wordToo.2 (head?_displaySteps first) (head?_displaySteps second)
    same).imp_left String.toList_inj.mp

/-- A position ends where its bracket is closed. -/
theorem position_inj {position other : Nat} {rest others : List Char}
    (same : Nat.toDigits 10 position ++ ']' :: rest = Nat.toDigits 10 other ++ ']' :: others) :
    position = other ∧ rest = others := by
  have digits : ∀ number, ∀ sign ∈ Nat.toDigits 10 number, sign.isDigit = true :=
    fun _ _ => Nat.isDigit_of_mem_toDigits (by decide) (by decide)
  have ends : ∀ more : List Char, ∀ sign ∈ (']' :: more).head?, sign.isDigit = false := by
    intro more sign begins
    cases begins
    rfl
  obtain ⟨sameDigits, sameRest⟩ :=
    append_inj_of_all (digits position) (digits other) (ends rest) (ends others) same
  exact ⟨toDigits_inj sameDigits, List.tail_eq_of_cons_eq sameRest⟩

/-- The steps after the first are told by what is written. -/
theorem displaySteps_inj (plain : IsPlain first) (plainToo : IsPlain second)
    (same : (displaySteps first).toList = (displaySteps second).toList) : first = second := by
  induction first generalizing second with
  | nil =>
    cases second with
    | nil => rfl
    | cons step _ =>
      cases step with
      | field => rw [toList_displaySteps_field] at same; cases same
      | index => rw [toList_displaySteps_index] at same; cases same
  | cons step rest ih =>
    cases step with
    | field name =>
      rw [toList_displaySteps_field] at same
      cases second with
      | nil => cases same
      | cons step others =>
        cases step with
        | field other =>
          rw [toList_displaySteps_field] at same
          obtain ⟨rfl, behind⟩ :=
            word_inj plain.head plainToo.head (List.tail_eq_of_cons_eq same)
          rw [ih plain.tail plainToo.tail behind]
        | index other =>
          rw [toList_displaySteps_index] at same
          exact absurd (List.head_eq_of_cons_eq same) (by decide)
    | index position =>
      rw [toList_displaySteps_index] at same
      cases second with
      | nil => cases same
      | cons step others =>
        cases step with
        | field other =>
          rw [toList_displaySteps_field] at same
          exact absurd (List.head_eq_of_cons_eq same) (by decide)
        | index other =>
          rw [toList_displaySteps_index] at same
          obtain ⟨rfl, behind⟩ := position_inj (List.tail_eq_of_cons_eq same)
          rw [ih plain.tail plainToo.tail behind]

/-! ### Whole places -/

/-- How a written place begins: the root and a position with their brackets, a field with a
letter. -/
inductive Begins : Path → Char → Prop
  | root : Begins [] '<'
  | field {name : String} {path : Path} {letter : Char} (isLetter : letter.isAlpha = true) :
    Begins (.field name :: path) letter
  | index {position : Nat} {path : Path} : Begins (.index position :: path) '['

/-- The first sign of a written place. -/
theorem head?_display (plain : IsPlain path) :
    ∃ sign, path.display.toList.head? = some sign ∧ Begins path sign := by
  cases path with
  | nil => exact ⟨'<', rfl, .root⟩
  | cons step rest =>
    cases step with
    | field name =>
      obtain ⟨letter, more, letters, isLetter⟩ := plain.head.begins
      refine ⟨letter, ?_, .field isLetter⟩
      rw [display, String.toList_append, letters]
      rfl
    | index position =>
      refine ⟨'[', ?_, .index⟩
      show (displaySteps (.index position :: rest)).toList.head? = _
      rw [toList_displaySteps_index]
      rfl

/-- **Plain places that are written alike are the same.** -/
theorem display_injOn : Set.InjOn display {path | path.IsPlain} := by
  intro first plain second plainToo same
  have same' := congrArg String.toList same
  obtain ⟨sign, begins, kind⟩ := head?_display plain
  obtain ⟨other, beginsToo, kindToo⟩ := head?_display plainToo
  -- The first sign tells what the first step is.
  have sameSign : sign = other := by
    rw [same', beginsToo] at begins
    exact (Option.some.inj begins).symm
  subst sameSign
  cases kind with
  | root => cases kindToo with
    | root => rfl
    | field isLetter => cases isLetter
  | index => cases kindToo with
    | field isLetter => cases isLetter
    | index => exact displaySteps_inj plain plainToo same'
  | @field name rest _ isLetter => cases kindToo with
    | root => cases isLetter
    | index => cases isLetter
    | @field other others =>
      have shown : (name ++ displaySteps rest).toList = (other ++ displaySteps others).toList := same'
      rw [String.toList_append, String.toList_append] at shown
      obtain ⟨rfl, behind⟩ := word_inj plain.head plainToo.head shown
      rw [displaySteps_inj plain.tail plainToo.tail behind]

-- A name with a full stop in it is written like two names.
example : display [.field "a.b"] = display [.field "a", .field "b"] := by decide

end Path

end PageAttributes
