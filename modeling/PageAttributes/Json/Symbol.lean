/-
**The symbols of a JSON text.**

A text comes as characters, or as bytes that need not be UTF-8. Both are read as a list of symbols:
a symbol is a character, or a byte that belongs to no character.

* `Symbol.ofText`, `Symbol.ofBytes` — the symbols of a text and of a run of bytes;
* `Symbol.lineAndColumn` — lines count from one, columns count the bytes of the line so far.
-/

namespace PageAttributes.Json

/-- A character, or a byte that belongs to no character. -/
inductive Symbol where
  | char (value : Char)
  | stray (byte : UInt8)
deriving DecidableEq

namespace Symbol

/-- The bytes of a symbol. -/
def bytes : Symbol → List UInt8
  | .char value => String.utf8EncodeChar value
  | .stray byte => [byte]

/-- How many bytes a symbol takes. -/
def width : Symbol → Nat
  | .char value => value.utf8Size
  | .stray _ => 1

/-- The symbols of a text. -/
def ofText (text : String) : List Symbol := text.toList.map .char

/-- The payload of a continuation byte. -/
def continuation? (byte : UInt8) : Option Nat :=
  if 0x80 ≤ byte.toNat ∧ byte.toNat < 0xC0 then some (byte.toNat - 0x80) else none

/-- The character that starts with `first`, and how many bytes follow it. Overlong forms, surrogates
and values above the last code point are no characters. -/
def character? (first : UInt8) (rest : List UInt8) : Option (Char × Nat) :=
  let lead := first.toNat
  let accept (value least following : Nat) : Option (Char × Nat) :=
    if least ≤ value ∧ value.isValidChar then some (Char.ofNat value, following) else none
  if lead < 0x80 then some (Char.ofNat lead, 0)
  else if lead < 0xC0 then none
  else if lead < 0xE0 then do
    let second ← rest.head?.bind continuation?
    accept ((lead - 0xC0) * 0x40 + second) 0x80 1
  else if lead < 0xF0 then do
    let second ← rest[0]?.bind continuation?
    let third ← rest[1]?.bind continuation?
    accept (((lead - 0xE0) * 0x40 + second) * 0x40 + third) 0x800 2
  else if lead < 0xF8 then do
    let second ← rest[0]?.bind continuation?
    let third ← rest[1]?.bind continuation?
    let fourth ← rest[2]?.bind continuation?
    accept ((((lead - 0xF0) * 0x40 + second) * 0x40 + third) * 0x40 + fourth) 0x10000 3
  else none

/-- The symbols of a run of bytes, after `skip` bytes that belong to the symbol before. -/
def decode : Nat → List UInt8 → List Symbol
  | _, [] => []
  | skip + 1, _ :: rest => decode skip rest
  | 0, first :: rest =>
    match character? first rest with
    | some (value, following) => .char value :: decode following rest
    | none => .stray first :: decode 0 rest

/-- The symbols of a run of bytes. Valid UTF-8 has the symbols of its text. -/
def ofBytes (bytes : ByteArray) : List Symbol :=
  match String.fromUTF8? bytes with
  | some text => ofText text
  | none => decode 0 bytes.toList

/-- The bytes that a run of symbols takes. -/
def totalWidth : List Symbol → Nat
  | [] => 0
  | symbol :: rest => symbol.width + totalWidth rest

/-- The line and the column after the first `count` bytes. -/
def lineAndColumn (symbols : List Symbol) (count : Nat) : Nat × Nat :=
  let before := (symbols.flatMap bytes).take count
  (before.count 10 + 1, (before.reverse.takeWhile (· != 10)).length)

end Symbol

end PageAttributes.Json
