/-
**How the other values are read, and whole texts.**

* `readValue_digit`, `readValue_sign`, `readValue_null`, `readValue_flag`, `readValue_text` — values
  that are neither lists nor records, by how they begin;
* `read_eq_ok_iff` — behind the value of a whole text only blanks may follow;
* `Numeral.Survives` — a number is read from its written form, and then wherever it stands; every
  integer survives.
-/

import PageAttributes.Proofs.Json.Entries
import PageAttributes.Proofs.Json.Numbers
import PageAttributes.Proofs.Number.Written

namespace PageAttributes

open Json Document

/-! ### Blanks -/

namespace Json

theorem skipBlank_delimited {rest : List Symbol} (delimited : Delimited rest) :
    skipBlank rest = rest := by
  obtain rfl | ⟨others, rfl | rfl | rfl⟩ := delimited.cases <;> rfl

/-- Blanks that end a text are skipped in front of a delimiter too. -/
theorem skipBlank_append {left rest : List Symbol} (blank : skipBlank left = [])
    (delimited : Delimited rest) : skipBlank (left ++ rest) = rest := by
  induction left with
  | nil => exact skipBlank_delimited delimited
  | cons first others ih =>
    cases first with
    | stray byte => cases blank
    | char value =>
      rw [skipBlank] at blank
      split at blank
      · rename_i isBlank
        rw [List.cons_append, skipBlank, if_pos isBlank, ih blank]
      · cases blank

/-! ### Values by their first character -/

theorem isDigit_ne {digit other : Char} (isDigit : digit.isDigit = true)
    (noDigit : other.isDigit = false) : digit ≠ other := by
  rintro rfl
  rw [isDigit] at noDigit
  cases noDigit

variable {attention : Attention}

/-- A value that begins with a digit is a number. -/
theorem readValue_digit (asked : attention.isNone = false) (steps depth : Nat) {digit : Char}
    (isDigit : digit.isDigit = true) (rest : List Symbol) :
    readValue (steps + 1) depth attention (.char digit :: rest)
      = Break.atOnce .null ((readNumber false (.char digit :: rest)).map fun result =>
          (.number result.1, result.2)) := by
  have visible : digit ∉ [' ', '\n', '\t', '\r'] := by
    simp [isDigit_ne isDigit]
  rw [readValue, asked, if_neg Bool.false_ne_true, skipBlank_cons visible]
  dsimp only
  split
  case h_8 same =>
    cases same
    rw [if_pos (isDigit_range isDigit)]
  case h_9 same => cases same
  all_goals
    rename_i same
    exact (isDigit_ne isDigit (by decide) (Symbol.char.inj same)).elim

/-- A value that begins with a minus sign is a number. -/
theorem readValue_sign (asked : attention.isNone = false) (steps depth : Nat)
    (rest : List Symbol) :
    readValue (steps + 1) depth attention (.char '-' :: rest)
      = Break.atOnce .null ((readNumber true rest).map fun result =>
          (.number result.1, result.2)) := by
  rw [readValue, asked, if_neg Bool.false_ne_true, skipBlank_cons (by decide)]
  rfl

theorem readValue_null (asked : attention.isNone = false) (steps depth : Nat)
    (rest : List Symbol) :
    readValue (steps + 1) depth attention (symbolsOf Document.null.spell ++ rest)
      = .ok (.null, rest) := by
  rw [readValue, asked]
  rfl

theorem readValue_flag (asked : attention.isNone = false) (steps depth : Nat) (value : Bool)
    (rest : List Symbol) :
    readValue (steps + 1) depth attention (symbolsOf (Document.flag value).spell ++ rest)
      = .ok (.flag value, rest) := by
  rw [readValue, asked]
  cases value <;> rfl

/-- A value that begins with a quote is a text. -/
theorem readValue_text (asked : attention.isNone = false) (steps depth : Nat) (text : String)
    (rest : List Symbol) :
    readValue (steps + 1) depth attention (symbolsOf (encode text) ++ rest)
      = .ok (.text text, rest) := by
  rw [symbolsOf_encode, readValue, asked, if_neg Bool.false_ne_true, skipBlank_cons (by decide)]
  dsimp only
  rw [readText_encode]
  rfl

/-! ### Whole texts -/

section Texts

variable {depth : Nat} {symbols left : List Symbol} {document : Document}

/-- Behind a value only blanks may follow. -/
theorem read_eq_ok_iff
    (reads : readValue (2 * symbols.length + 2) depth attention symbols = .ok (document, left))
    {found : Document} :
    Json.read attention depth symbols = .ok found ↔ skipBlank left = [] ∧ document = found := by
  rw [Json.read, reads]
  dsimp only
  cases skipBlank left <;> simp

theorem readAll_eq_ok_iff :
    readAll depth symbols = .ok document
      ↔ ∃ found, Json.read .full depth symbols = .ok found ∧ found.canonical = document := by
  rw [readAll]
  cases Json.read .full depth symbols <;> simp

end Texts

end Json

/-! ### Numbers -/

namespace Numeral

/-- A number survives if it is read from its written form. -/
def Survives (value : Numeral) : Prop :=
  readAll depthLimit (Symbol.ofText value.write) = .ok (.number value)

/-- The written form of a number is read as a number, whatever follows it. -/
theorem exists_readNumber (value : Numeral) : ∃ negative symbols, ∀ {attention : Attention},
    attention.isNone = false → ∀ steps depth more,
      readValue (steps + 1) depth attention (symbolsOf value.write.toList ++ more)
        = Break.atOnce .null ((readNumber negative (symbols ++ more)).map fun result =>
            (.number result.1, result.2)) := by
  obtain ⟨others, written⟩ | ⟨first, others, written, digit⟩ := value.exists_write
  · refine ⟨true, symbolsOf others, fun asked steps depth more => ?_⟩
    rw [written]
    exact readValue_sign asked steps depth _
  · refine ⟨false, symbolsOf (first :: others), fun asked steps depth more => ?_⟩
    rw [written]
    exact readValue_digit asked steps depth digit _

theorem survives_of_readValue {value : Numeral}
    (reads : ∀ steps, readValue (steps + 1) depthLimit .full (symbolsOf value.write.toList)
      = .ok (.number value, [])) : value.Survives := by
  refine readAll_eq_ok_iff.mpr ⟨.number value, ?_, rfl⟩
  rw [Symbol.ofText, ← symbolsOf]
  exact (read_eq_ok_iff (reads _)).mpr ⟨rfl, rfl⟩

theorem survives_natural (value : Fin 18446744073709551616) : (natural value).Survives := by
  refine survives_of_readValue fun steps => ?_
  have whole := @readNumber_toDigits false value.val value.isLt
  have same : integral false value.val = natural value := by
    simp [integral, ofInt?]
  rw [write, Nat.toString_eq_ofList_toDigits, String.toList_ofList]
  obtain ⟨first, others, written, digit⟩ := beginsWithDigit_toDigits value.val
  rw [written] at whole ⊢
  rw [symbolsOf_cons, readValue_digit rfl steps depthLimit digit, ← symbolsOf_cons, whole, same]
  rfl

theorem integral_negative (distance : Fin 9223372036854775808) :
    integral true (distance.val + 1) = negative distance := by
  have form : ofInt? (-((distance.val + 1 : Nat) : Int)) = some (negative distance) := by
    show ofInt? (.negSucc distance.val) = _
    rw [ofInt?, dif_pos distance.isLt]
  rw [integral, if_neg (fun zero => Nat.succ_ne_zero _ zero.2), if_pos rfl, form, Option.getD_some]

theorem survives_negative (distance : Fin 9223372036854775808) : (negative distance).Survives := by
  refine survives_of_readValue fun steps => ?_
  have fits : distance.val + 1 < twoTo 64 := by
    have bound := distance.isLt
    have large : 9223372036854775808 < twoTo 64 := by decide
    omega
  have whole := readNumber_toDigits true fits
  rw [integral_negative] at whole
  have written : symbolsOf (negative distance).write.toList
      = .char '-' :: symbolsOf (Nat.toDigits 10 (distance.val + 1)) := by
    simp [write]
  rw [written, readValue_sign rfl steps depthLimit, whole]
  rfl

/-- A number that survives is read wherever it stands. -/
theorem Survives.readValue {value : Numeral} (survives : value.Survives) {attention : Attention}
    (asked : attention.isNone = false) (steps depth : Nat) {rest : List Symbol}
    (delimited : Delimited rest) :
    ∃ left, readValue (steps + 1) depth attention (symbolsOf value.write.toList ++ rest)
      = .ok (.number value, left) ∧ skipBlank left = rest := by
  obtain ⟨negative, symbols, reads⟩ := value.exists_readNumber
  have alone := @reads .full rfl (2 * (symbolsOf value.write.toList).length + 1) depthLimit []
  rw [List.append_nil, List.append_nil] at alone
  obtain ⟨document, whole, canonical⟩ := readAll_eq_ok_iff.mp survives
  cases number : readNumber negative symbols with
  | error halt =>
    rw [number] at alone
    rw [Symbol.ofText, ← symbolsOf, Json.read, alone] at whole
    cases whole
  | ok result =>
    rw [number] at alone
    obtain ⟨blank, rfl⟩ := (read_eq_ok_iff alone).mp whole
    cases canonical
    refine ⟨result.2 ++ rest, ?_, skipBlank_append blank delimited⟩
    rw [reads asked, readNumber_append delimited negative symbols result.1 result.2 number]
    rfl

end Numeral

end PageAttributes
