/-
**What can be wrong with a JSON text.**

A `Fault` is the cause, `Fault.message` its wording. A `Halt` adds the place: how many symbols were
left unread there, and how many bytes of them the place lies further on.
-/

import PageAttributes.Json.Symbol

namespace PageAttributes.Json

/-- Why a text is not JSON. -/
inductive Fault where
  | endInList
  | endInRecord
  | endInText
  | endBeforeValue
  | expectedColon
  | expectedListEnd
  | expectedRecordEnd
  | expectedWord
  | expectedValue
  | badEscape
  | badNumber
  | numberTooLarge
  | badCharacter
  | controlCharacter
  | keyNotText
  | loneSurrogate
  | unfinishedSurrogate
  | trailingComma
  | trailingCharacters
  | tooDeep
deriving DecidableEq, Repr

/-- The wording of a fault. -/
def Fault.message : Fault → String
  | .endInList => "EOF while parsing a list"
  | .endInRecord => "EOF while parsing an object"
  | .endInText => "EOF while parsing a string"
  | .endBeforeValue => "EOF while parsing a value"
  | .expectedColon => "expected `:`"
  | .expectedListEnd => "expected `,` or `]`"
  | .expectedRecordEnd => "expected `,` or `\x7d`"
  | .expectedWord => "expected ident"
  | .expectedValue => "expected value"
  | .badEscape => "invalid escape"
  | .badNumber => "invalid number"
  | .numberTooLarge => "number out of range"
  | .badCharacter => "invalid unicode code point"
  | .controlCharacter => "control character (\\u0000-\\u001F) found while parsing a string"
  | .keyNotText => "key must be a string"
  | .loneSurrogate => "lone leading surrogate in hex escape"
  | .unfinishedSurrogate => "unexpected end of hex escape"
  | .trailingComma => "trailing comma"
  | .trailingCharacters => "trailing characters"
  | .tooDeep => "recursion limit exceeded"

/-- A fault and its place. -/
structure Halt where
  fault : Fault
  /-- How many symbols were left to be read. -/
  left : Nat
  /-- How many bytes of those belong to what is at fault. -/
  ahead : Nat
deriving DecidableEq, Repr

namespace Halt

/-- The line and the column of a halt in a text. -/
def lineAndColumn (halt : Halt) (symbols : List Symbol) : Nat × Nat :=
  let consumed := symbols.take (symbols.length - halt.left)
  Symbol.lineAndColumn symbols (Symbol.totalWidth consumed + halt.ahead)

/-- The wording of a halt, with its place. -/
def message (halt : Halt) (symbols : List Symbol) : String :=
  let (line, column) := halt.lineAndColumn symbols
  halt.fault.message ++ " at line " ++ toString line ++ " column " ++ toString column

end Halt

/-- What is left cannot be read: the fault lies before the first symbol of `rest`. -/
def haltBefore {α : Type} (fault : Fault) (rest : List Symbol) : Except Halt α :=
  .error ⟨fault, rest.length, 0⟩

/-- The first byte of `rest` cannot be read, or the text ends there. -/
def haltAt {α : Type} (fault : Fault) (rest : List Symbol) : Except Halt α :=
  .error ⟨fault, rest.length, 1⟩

end PageAttributes.Json
