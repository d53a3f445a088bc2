/-
**Texts between double quotes.**

* `encode` — the written form of a text: quotes, backslashes and control characters are escaped, all
  else stands as it is;
* `readText` — reads up to the closing quote;
* `passText` — the same for a text nobody asks for: escapes need only have the right shape.
-/

import PageAttributes.Json.Fault

namespace PageAttributes.Json

/-! ### Writing -/

/-- A hexadecimal digit, in lower case. -/
def hexDigit (value : Nat) : Char := Nat.digitChar value

/-- The written form of a character. -/
def encodeChar (value : Char) : List Char :=
  if value = '"' then ['\\', '"']
  else if value = '\\' then ['\\', '\\']
  else if value = '\x08' then ['\\', 'b']
  else if value = '\x0c' then ['\\', 'f']
  else if value = '\n' then ['\\', 'n']
  else if value = '\r' then ['\\', 'r']
  else if value = '\t' then ['\\', 't']
  else if value.toNat < 0x20 then
    ['\\', 'u', '0', '0', hexDigit (value.toNat / 16), hexDigit (value.toNat % 16)]
  else [value]

/-- The written form of a text, quotes included. -/
def encode (text : String) : List Char := '"' :: (text.toList.flatMap encodeChar ++ ['"'])

/-! ### Reading -/

/-- The value of a hexadecimal digit. -/
def hexValue? : Symbol → Option Nat
  | .char value =>
    if '0' ≤ value ∧ value ≤ '9' then some (value.toNat - '0'.toNat)
    else if 'a' ≤ value ∧ value ≤ 'f' then some (value.toNat - 'a'.toNat + 10)
    else if 'A' ≤ value ∧ value ≤ 'F' then some (value.toNat - 'A'.toNat + 10)
    else none
  | .stray _ => none

/-- The number written by four hexadecimal digits. Fewer than four bytes are an unfinished text,
and four others are no escape. -/
def readHex (symbols : List Symbol) : Except Halt Nat :=
  match symbols.take 4 |>.map hexValue? with
  | [some first, some second, some third, some fourth] =>
    .ok (((first * 16 + second) * 16 + third) * 16 + fourth)
  | _ =>
    if Symbol.totalWidth symbols < 4 then haltBefore .endInText []
    else .error ⟨.badEscape, symbols.length, 4⟩

/-- The character that a single letter after a backslash stands for. -/
def simpleEscape? : Char → Option Char
  | '"' => some '"'
  | '\\' => some '\\'
  | '/' => some '/'
  | 'b' => some '\x08'
  | 'f' => some '\x0c'
  | 'n' => some '\n'
  | 'r' => some '\r'
  | 't' => some '\t'
  | _ => none

/-- The next symbol is the given character; `count` tells how many symbols that makes. -/
def expectInSurrogate (expected : Char) : List Symbol → Except Halt Unit
  | [] => haltBefore .endInText []
  | symbol :: rest =>
    if symbol = .char expected then .ok () else haltAt .unfinishedSurrogate (symbol :: rest)

/-- A character given by its UTF-16 units, after the letter of the escape. The count says how many
symbols it takes. A leading unit needs a trailing one in a second escape. -/
def readUnits (symbols : List Symbol) : Except Halt (Char × Nat) := do
  let unit ← readHex symbols
  if 0xDC00 ≤ unit ∧ unit ≤ 0xDFFF then haltBefore .loneSurrogate (symbols.drop 4)
  else if unit < 0xD800 ∨ 0xDBFF < unit then .ok (Char.ofNat unit, 4)
  else
    expectInSurrogate '\\' (symbols.drop 4)
    expectInSurrogate 'u' (symbols.drop 5)
    let trailing ← readHex (symbols.drop 6)
    if trailing < 0xDC00 ∨ 0xDFFF < trailing then haltBefore .loneSurrogate (symbols.drop 10)
    else .ok (Char.ofNat (0x10000 + (unit - 0xD800) * 0x400 + (trailing - 0xDC00)), 10)

/-- The character that an escape stands for, and how many symbols follow the backslash. -/
def readEscape : List Symbol → Except Halt (Char × Nat)
  | [] => haltBefore .endInText []
  | .stray byte :: rest => haltAt .badEscape (.stray byte :: rest)
  | .char letter :: rest =>
    if letter = 'u' then do
      let (value, count) ← readUnits rest
      .ok (value, count + 1)
    else
      match simpleEscape? letter with
      | some value => .ok (value, 1)
      | none => haltAt .badEscape (.char letter :: rest)

/-- Reads up to the closing quote, after `skip` symbols that belong to an escape. Bytes that belong
to no character are noticed at the closing quote. -/
def readText (skip : Nat) (before : List Char) (strays : Bool) :
    List Symbol → Except Halt (String × List Symbol)
  | [] => haltBefore .endInText []
  | symbol :: rest =>
    match skip with
    | skip + 1 => readText skip before strays rest
    | 0 =>
      match symbol with
      | .stray _ => readText 0 before true rest
      | .char value =>
        if value = '"' then
          if strays then haltBefore .badCharacter rest
          else .ok (String.ofList before.reverse, rest)
        else if value = '\\' then
          match readEscape rest with
          | .ok (escaped, count) => readText count (escaped :: before) strays rest
          | .error halt => .error halt
        else if value.toNat < 0x20 then haltBefore .controlCharacter rest
        else readText 0 (value :: before) strays rest

/-- The symbols an escape takes after the backslash, if only its shape is asked for. -/
def passEscape : List Symbol → Except Halt Nat
  | [] => haltBefore .endInText []
  | .stray byte :: rest => haltAt .badEscape (.stray byte :: rest)
  | .char letter :: rest =>
    if letter = 'u' then (readHex rest).map fun _ => 5
    else if (simpleEscape? letter).isSome then .ok 1
    else haltAt .badEscape (.char letter :: rest)

/-- Passes over everything up to the closing quote. -/
def passText (skip : Nat) : List Symbol → Except Halt (List Symbol)
  | [] => haltBefore .endInText []
  | symbol :: rest =>
    match skip with
    | skip + 1 => passText skip rest
    | 0 =>
      match symbol with
      | .stray _ => passText 0 rest
      | .char value =>
        if value = '"' then .ok rest
        else if value = '\\' then
          match passEscape rest with
          | .ok count => passText count rest
          | .error halt => .error halt
        else if value.toNat < 0x20 then haltBefore .controlCharacter (symbol :: rest)
        else passText 0 rest

end PageAttributes.Json
