/-
**A text between quotes reads back.**

* `readText_encodeChar` — the written form of a character is read as the character;
* `readText_encode` — what is written of a text is read as the text, up to the closing quote.

Control characters are written as escapes of four digits, of which the value is the code point, so
that none of them can be taken for half of a surrogate pair.
-/

import PageAttributes.Json.Text

namespace PageAttributes.Json

/-- Characters as symbols. -/
def symbolsOf (characters : List Char) : List Symbol := characters.map .char

@[simp] theorem symbolsOf_nil : symbolsOf [] = [] := rfl

@[simp] theorem symbolsOf_cons (first : Char) (rest : List Char) :
    symbolsOf (first :: rest) = .char first :: symbolsOf rest := rfl

@[simp] theorem symbolsOf_append (first second : List Char) :
    symbolsOf (first ++ second) = symbolsOf first ++ symbolsOf second := List.map_append

@[simp] theorem length_symbolsOf (characters : List Char) :
    (symbolsOf characters).length = characters.length := List.length_map _

theorem hexValue?_hexDigit :
    ∀ value < 16, hexValue? (.char (hexDigit value)) = some value := by
  decide

/-- The four digits of a control character are its code point. -/
theorem readHex_control {value : Char} (control : value.toNat < 0x20) (rest : List Symbol) :
    readHex (symbolsOf ['0', '0', hexDigit (value.toNat / 16), hexDigit (value.toNat % 16)] ++ rest)
      = .ok value.toNat := by
  have high := hexValue?_hexDigit (value.toNat / 16) (by omega)
  have low := hexValue?_hexDigit (value.toNat % 16) (by omega)
  have zero : hexValue? (.char '0') = some 0 := by decide
  have whole : value.toNat / 16 * 16 + value.toNat % 16 = value.toNat := by omega
  simp [readHex, zero, high, low, whole]

/-- An escape of four digits for a control character is read as the character. -/
theorem readEscape_control {value : Char} (control : value.toNat < 0x20) (rest : List Symbol) :
    readEscape (.char 'u' ::
      (symbolsOf ['0', '0', hexDigit (value.toNat / 16), hexDigit (value.toNat % 16)] ++ rest))
      = .ok (value, 5) := by
  have noTrail : ¬ (0xDC00 ≤ value.toNat ∧ value.toNat ≤ 0xDFFF) := by omega
  have noLead : value.toNat < 0xD800 ∨ 0xDBFF < value.toNat := by omega
  rw [readEscape, if_pos rfl, readUnits, readHex_control control]
  show (if _ then _ else if _ then _ else _) >>= _ = _
  rw [if_neg noTrail, if_pos noLead, Char.ofNat_toNat]
  rfl

/-- The characters with an escape of their own. -/
def namedEscapes : List Char := ['"', '\\', '\x08', '\x0c', '\n', '\r', '\t']

/-- An escape of one letter is read as its character. -/
theorem readText_named {value : Char} (named : value ∈ namedEscapes) (before : List Char)
    (strays : Bool) (rest : List Symbol) :
    readText 0 before strays (symbolsOf (encodeChar value) ++ rest)
      = readText 0 (value :: before) strays rest := by
  simp only [namedEscapes, List.mem_cons, List.not_mem_nil, or_false] at named
  rcases named with rfl | rfl | rfl | rfl | rfl | rfl | rfl <;> rfl

/-- Any other character is written as it is, unless it is a control character. -/
theorem encodeChar_of_not_named {value : Char} (plain : value ∉ namedEscapes) :
    encodeChar value = if value.toNat < 0x20 then
      ['\\', 'u', '0', '0', hexDigit (value.toNat / 16), hexDigit (value.toNat % 16)]
    else [value] := by
  simp only [namedEscapes, List.mem_cons, List.not_mem_nil, or_false, not_or] at plain
  simp only [encodeChar, plain, if_false]

/-- The written form of a character is read as the character. -/
theorem readText_encodeChar (value : Char) (before : List Char) (strays : Bool)
    (rest : List Symbol) :
    readText 0 before strays (symbolsOf (encodeChar value) ++ rest)
      = readText 0 (value :: before) strays rest := by
  by_cases named : value ∈ namedEscapes
  · exact readText_named named before strays rest
  rw [encodeChar_of_not_named named]
  by_cases control : value.toNat < 0x20
  · rw [if_pos control]
    have escaped := readEscape_control control rest
    simp only [symbolsOf_cons, symbolsOf_nil, List.cons_append, List.nil_append] at escaped ⊢
    rw [readText]
    simp only [escaped]
    rfl
  · have quote : value ≠ '"' := fun same => named (same ▸ by decide)
    have backslash : value ≠ '\\' := fun same => named (same ▸ by decide)
    rw [if_neg control]
    simp [readText, quote, backslash, control]

/-- What is written of some characters is read as those characters, up to the closing quote. -/
theorem readText_flatMap (characters before : List Char) (rest : List Symbol) :
    readText 0 before false (symbolsOf (characters.flatMap encodeChar) ++ .char '"' :: rest)
      = .ok (String.ofList (before.reverse ++ characters), rest) := by
  induction characters generalizing before with
  | nil =>
    rw [List.flatMap_nil, symbolsOf_nil, List.nil_append, List.append_nil]
    rfl
  | cons first others ih =>
    rw [List.flatMap_cons, symbolsOf_append, List.append_assoc, readText_encodeChar, ih,
      List.reverse_cons, List.append_assoc, List.singleton_append]

/-- **What is written of a text is read as the text**, once the opening quote has been read. -/
theorem readText_encode (text : String) (rest : List Symbol) :
    readText 0 [] false (symbolsOf (text.toList.flatMap encodeChar) ++ .char '"' :: rest)
      = .ok (text, rest) := by
  rw [readText_flatMap, List.reverse_nil, List.nil_append, String.ofList_toList]

end PageAttributes.Json
