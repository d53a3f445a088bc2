/-
**Anchors, tags and directives.**

* `readAnchor` — the name of an anchor or an alias;
* `readTag` — a tag;
* `readDirective` — a directive, to the end of its line.
-/

import PageAttributes.Text.Digits
import PageAttributes.Yaml.Problem
import PageAttributes.Yaml.Spot
import PageAttributes.Yaml.Token

namespace PageAttributes.Yaml

open Text

/-- The name at the start of a text, which may be empty, and what follows it. -/
def readName (text : List Spot) : String × List Spot :=
  let name := text.takeWhile fun spot => isNameCharacter spot.value
  (String.ofList (Spot.values name), text.drop name.length)

/-- Reads the name of an anchor or an alias, after its indicator. -/
def readAnchor (text : List Spot) : Except Problem (String × List Spot) :=
  let (name, rest) := readName text
  let ends := atGap rest || rest.head?.any fun spot => "?:,]\x7d%@\x60".toList.contains spot.value
  if name.isEmpty || !ends then .error .badAnchor else .ok (name, rest)

/-- The next character of a text is `value`. -/
def startsWith (value : Char) (text : List Spot) : Bool :=
  text.head?.any fun spot => spot.value == value

/-! ### Tags -/

/-- A character of a tag; in angle brackets some more are allowed. -/
def isTagCharacter (angled : Bool) (value : Char) : Bool :=
  isNameCharacter value || ";/?:@&=+$.!~*'()%".toList.contains value
    || (angled && ",[]".toList.contains value)

/-- How many bytes follow the first byte of a character, if it is one. -/
def bytesAfter? (first : Nat) : Option Nat :=
  if first < 0x80 then some 0
  else if first / 0x20 = 6 then some 1
  else if first / 0x10 = 14 then some 2
  else if first / 0x08 = 30 then some 3
  else none

/-- The characters of a tag, with a byte after every percent sign; `due` bytes of a character are
still to come. A byte stands for the character of its number. -/
def tagCharacters (angled : Bool) : (due : Nat) → List Spot → Except Problem (List Char × List Spot)
  | 0, [] => .ok ([], [])
  | _ + 1, [] => .error .badTag
  | due, spot :: rest =>
    if spot.value = '%' then
      match rest with
      | high :: low :: rest =>
        match hexadecimal? high.value, hexadecimal? low.value with
        | some high, some low => do
          let byte := high * 16 + low
          let due ←
            match due with
            | 0 => (bytesAfter? byte).elim (.error .badTag) .ok
            | due + 1 => if byte / 0x40 = 2 then .ok due else .error .badTag
          let (more, rest) ← tagCharacters angled due rest
          .ok (Char.ofNat byte :: more, rest)
        | _, _ => .error .badTag
      | _ => .error .badTag
    else if due ≠ 0 then .error .badTag
    else if isTagCharacter angled spot.value then do
      let (more, rest) ← tagCharacters angled 0 rest
      .ok (spot.value :: more, rest)
    else .ok ([], spot :: rest)

/-- The characters of a tag, of which there must be one. -/
def someTagCharacters (angled : Bool) (text : List Spot) :
    Except Problem (List Char × List Spot) := do
  match ← tagCharacters angled 0 text with
  | ([], _) => .error .badTag
  | found => .ok found

/-- A tag after its exclamation mark, and what follows it. -/
def tagAfterMark (text : List Spot) : Except Problem (WrittenTag × List Spot) :=
  if startsWith '<' text then do
    let (suffix, rest) ← someTagCharacters true (text.drop 1)
    if startsWith '>' rest then .ok (⟨none, String.ofList suffix⟩, rest.drop 1)
    else .error .badTag
  else
    let (name, rest) := readName text
    if startsWith '!' rest then do
      let (suffix, rest) ← someTagCharacters false (rest.drop 1)
      .ok (⟨some ("!" ++ name ++ "!"), String.ofList suffix⟩, rest)
    else do
      let (more, rest) ← tagCharacters false 0 rest
      let suffix := name ++ String.ofList more
      .ok (if suffix.isEmpty then ⟨none, "!"⟩ else ⟨some "!", suffix⟩, rest)

/-- Reads a tag, after its exclamation mark. A blank must follow it, or inside brackets a comma. -/
def readTag (bracketed : Bool) (text : List Spot) : Except Problem (WrittenTag × List Spot) := do
  let (tag, rest) ← tagAfterMark text
  if atGap rest || (bracketed && startsWith ',' rest) then .ok (tag, rest) else .error .badTag

/-! ### Directives -/

/-- The number at the start of a text, of at most nine digits, and what follows it. -/
def readNumber (text : List Spot) : Except Problem (Nat × List Spot) :=
  let digits := Spot.values (text.takeWhile fun spot => isDecimal spot.value)
  if digits.isEmpty ∨ 9 < digits.length then .error .badDirective
  else .ok (ofDigits 10 digits, text.drop digits.length)

/-- Reads the version that a directive names. -/
def readVersion (text : List Spot) : Except Problem (Token × List Spot) := do
  let (major, rest) ← readNumber (afterBlanks text)
  if startsWith '.' rest then
    let (minor, rest) ← readNumber (rest.drop 1)
    .ok (.version major minor, rest)
  else .error .badDirective

/-- Reads the handle that a directive explains, and the start of the tags it stands for. -/
def readHandle (text : List Spot) : Except Problem (Token × List Spot) := do
  let text := afterBlanks text
  if !startsWith '!' text then .error .badDirective
  else
    let (name, rest) := readName (text.drop 1)
    let closed := startsWith '!' rest
    let rest := if closed then rest.drop 1 else rest
    if (!closed && !name.isEmpty) || atLineEnd rest || !atGap rest then .error .badDirective
    else
      let (start, rest) ← someTagCharacters true (afterBlanks rest)
      let handle := "!" ++ name ++ (if closed then "!" else "")
      if atGap rest then .ok (.tagHandle handle (String.ofList start), rest)
      else .error .badDirective

/-- Reads a directive, after its percent sign, to the end of its line. -/
def readDirective (text : List Spot) : Except Problem (Token × List Spot) := do
  let (name, rest) := readName text
  if !atGap rest then .error .badDirective
  else
    let (token, rest) ←
      match name with
      | "YAML" => readVersion rest
      | "TAG" => readHandle rest
      | _ => .error .badDirective
    let rest := afterComment (afterBlanks rest)
    if atLineEnd rest then .ok (token, afterBreak rest) else .error .badDirective

end PageAttributes.Yaml
