/-
**The tokens of a YAML text.**

The tokens are read from left to right. Block collections start and end by indentation, so the
columns of the open ones are kept. A token that may turn out to be the key of a record is a
candidate: when a colon follows it on its line, the start of the key, and if need be of the record, is
put before it among the tokens.

* `Lexer` — what has been read, and what is to be read;
* `Lexer.next` — reads one token;
* `Token.ofText` — all tokens of a text.
-/

import PageAttributes.Yaml.Scalar
import PageAttributes.Yaml.Tag

namespace PageAttributes.Yaml

/-- A token that may turn out to start a key: how many tokens stand before it, and its place. A key is
required where the token stands in the column of an open record. -/
structure Candidate where
  position : Nat
  line : Nat
  column : Nat
  required : Bool

/-- What has been read of a text, and what is to be read. -/
structure Lexer where
  /-- The text to be read. -/
  rest : List Spot
  /-- The tokens that have been read, the last one first. -/
  tokens : List Token
  /-- The columns of the open block collections, the innermost first. -/
  columns : List Nat
  /-- The candidate for a key, if there is one. -/
  candidate : Option Candidate
  /-- The candidates outside the open brackets, the innermost first. -/
  outside : List (Option Candidate)
  /-- A key may start here. -/
  keyAllowed : Bool

namespace Lexer

/-- Nothing has been read. -/
def start (text : List Spot) : Lexer := ⟨text, [], [], none, [], true⟩

/-- The text to be read stands in brackets. -/
def bracketed (lexer : Lexer) : Bool := !lexer.outside.isEmpty

/-- Adds a token. -/
def add (lexer : Lexer) (token : Token) : Lexer := { lexer with tokens := token :: lexer.tokens }

/-- Goes on behind `count` characters. -/
def skip (lexer : Lexer) (count : Nat) : Lexer := { lexer with rest := lexer.rest.drop count }

/-! ### Between tokens -/

/-- Passes over blanks, comments and line breaks. A line break allows a key outside brackets, and a
tab at the start of a line is passed over only where no key may start. -/
def pass (lexer : Lexer) : (rounds : Nat) → Lexer
  | 0 => lexer
  | rounds + 1 =>
    let unmarked :=
      if lexer.rest.head?.any fun spot => spot.column == 0 && spot.value == byteOrderMark then
        lexer.rest.drop 1
      else lexer.rest
    let tabs := lexer.bracketed || !lexer.keyAllowed
    let rest := afterComment
      (unmarked.dropWhile fun spot => spot.value == ' ' || (tabs && spot.value == '\t'))
    match rest with
    | [] => { lexer with rest := [] }
    | spot :: after =>
      if isBreak spot.value then
        pass { lexer with rest := after, keyAllowed := !lexer.bracketed || lexer.keyAllowed } rounds
      else { lexer with rest := spot :: after }

/-- The candidate is too far from a place to be a key. -/
def isStale (line column : Nat) (candidate : Candidate) : Bool :=
  candidate.line < line || candidate.column + 1024 < column

/-- Drops the candidate. A required key must not be missing. -/
def dropCandidate (lexer : Lexer) : Except Problem Lexer :=
  if lexer.candidate.any Candidate.required then .error .missingColon
  else .ok { lexer with candidate := none }

/-- Drops the candidates that are too far from a place to be keys. -/
def dropStale (lexer : Lexer) (line column : Nat) : Except Problem Lexer :=
  let stale := isStale line column
  let fresh (candidate : Option Candidate) : Option Candidate :=
    candidate.filter fun candidate => !stale candidate
  let missing (candidate : Option Candidate) : Bool :=
    candidate.any fun candidate => stale candidate && candidate.required
  if (lexer.candidate :: lexer.outside).any missing then .error .missingColon
  else
    .ok { lexer with candidate := fresh lexer.candidate, outside := lexer.outside.map fresh }

/-- Ends the block collections that are indented further than `keep` allows. Brackets hide them. -/
def closeBlocks (lexer : Lexer) (keep : Nat → Bool) : Lexer :=
  if lexer.bracketed then lexer
  else
    let closed := lexer.columns.takeWhile fun column => !keep column
    { lexer with
      columns := lexer.columns.drop closed.length,
      tokens := closed.map (fun _ => Token.blockEnd) ++ lexer.tokens }

/-- Starts a block collection in a column, unless one is open there. -/
def openBlock (lexer : Lexer) (column : Nat) : Lexer × Bool :=
  if !lexer.bracketed && lexer.columns.head?.all (· < column) then
    ({ lexer with columns := column :: lexer.columns }, true)
  else (lexer, false)

/-- Makes the next token a candidate for a key, where one may start. -/
def noteCandidate (lexer : Lexer) (line column : Nat) : Except Problem Lexer :=
  if lexer.keyAllowed then do
    let required := !lexer.bracketed && lexer.columns.head? == some column
    let lexer ← lexer.dropCandidate
    .ok { lexer with candidate := some ⟨lexer.tokens.length, line, column, required⟩ }
  else .ok lexer

/-! ### Single tokens -/

/-- A directive or a mark of a document, which ends all block collections. -/
def outermost (lexer : Lexer) : Except Problem Lexer := do
  let lexer ← (lexer.closeBlocks fun _ => false).dropCandidate
  .ok { lexer with keyAllowed := false }

/-- An opening bracket. -/
def openBracket (lexer : Lexer) (line column : Nat) (token : Token) : Except Problem Lexer := do
  let lexer ← lexer.noteCandidate line column
  .ok (({ lexer with
    candidate := none, outside := lexer.candidate :: lexer.outside, keyAllowed := true }.add
      token).skip 1)

/-- A closing bracket. -/
def closeBracket (lexer : Lexer) (token : Token) : Except Problem Lexer := do
  let lexer ← lexer.dropCandidate
  let (candidate, outside) :=
    match lexer.outside with
    | [] => (none, [])
    | candidate :: outside => (candidate, outside)
  .ok (({ lexer with candidate := candidate, outside := outside, keyAllowed := false }.add
    token).skip 1)

/-- The comma between the parts of a collection in brackets. -/
def comma (lexer : Lexer) : Except Problem Lexer := do
  let lexer ← lexer.dropCandidate
  .ok (({ lexer with keyAllowed := true }.add .comma).skip 1)

/-- The dash before an entry of a block list. -/
def entry (lexer : Lexer) (column : Nat) : Except Problem Lexer := do
  if !lexer.bracketed && !lexer.keyAllowed then throw .misplacedEntry
  let (lexer, opened) := lexer.openBlock column
  let lexer ← (if opened then lexer.add .blockList else lexer).dropCandidate
  .ok (({ lexer with keyAllowed := true }.add .entry).skip 1)

/-- The question mark before a key. -/
def explicitKey (lexer : Lexer) (column : Nat) : Except Problem Lexer := do
  if !lexer.bracketed && !lexer.keyAllowed then throw .misplacedKey
  let (lexer, opened) := lexer.openBlock column
  let lexer ← (if opened then lexer.add .blockRecord else lexer).dropCandidate
  .ok (({ lexer with keyAllowed := !lexer.bracketed }.add .key).skip 1)

/-- Puts the start of a key, and if need be of its record, before the candidate. -/
def keyBefore (lexer : Lexer) (candidate : Candidate) : Lexer :=
  let (lexer, opened) := lexer.openBlock candidate.column
  let later := lexer.tokens.length - candidate.position
  let starts := if opened then [Token.key, Token.blockRecord] else [Token.key]
  { lexer with
    tokens := lexer.tokens.take later ++ starts ++ lexer.tokens.drop later,
    candidate := none, keyAllowed := false }

/-- The colon before a value. -/
def colon (lexer : Lexer) (column : Nat) : Except Problem Lexer :=
  match lexer.candidate with
  | some candidate => .ok (((lexer.keyBefore candidate).add .value).skip 1)
  | none => do
    if !lexer.bracketed && !lexer.keyAllowed then throw .misplacedValue
    let (lexer, opened) := lexer.openBlock column
    let lexer := if opened then lexer.add .blockRecord else lexer
    .ok (({ lexer with keyAllowed := !lexer.bracketed }.add .value).skip 1)

/-- A token that may start a key, and allows none after it. -/
def mayBeKey (lexer : Lexer) (line column : Nat)
    (read : Lexer → Except Problem (Token × List Spot)) : Except Problem Lexer := do
  let lexer ← lexer.noteCandidate line column
  let (token, rest) ← read lexer
  .ok { lexer with tokens := token :: lexer.tokens, rest := rest, keyAllowed := false }

/-- A plain scalar. If it ends with its line, a key may follow. -/
def plain (lexer : Lexer) (line column : Nat) : Except Problem Lexer := do
  let lexer ← lexer.noteCandidate line column
  let ended ← readPlain lexer.bracketed (lexer.columns.head?.elim 0 (· + 1)) lexer.rest
  .ok { lexer with
    tokens := .scalar true (String.ofList ended.text) :: lexer.tokens,
    rest := ended.rest, keyAllowed := ended.lineEnded }

/-- A block scalar. -/
def block (lexer : Lexer) (folded : Bool) : Except Problem Lexer := do
  let lexer ← lexer.dropCandidate
  let (text, rest) ← readBlock folded lexer.columns.head? (lexer.rest.drop 1)
  .ok { lexer with
    tokens := .scalar false (String.ofList text) :: lexer.tokens, rest := rest, keyAllowed := true }

/-- A quoted scalar. -/
def quoted (lexer : Lexer) (line column : Nat) (quote : Char) : Except Problem Lexer :=
  lexer.mayBeKey line column fun lexer => do
    let (text, rest) ← readQuoted quote (lexer.rest.drop 1)
    .ok (.scalar false (String.ofList text), rest)

/-! ### Any token -/

/-- A plain scalar may start with the next characters. -/
def startsPlain (lexer : Lexer) : Bool :=
  match lexer.rest with
  | [] => false
  | spot :: rest =>
    if spot.value == '-' then !(rest.head?.any fun spot => isBlank spot.value)
    else if spot.value == '?' || spot.value == ':' then !lexer.bracketed && !atGap rest
    else !isGap spot.value && !",[]\x7b\x7d#&*!|>'\"%@\x60".toList.contains spot.value

/-- Reads the token that starts at a spot. -/
def token (lexer : Lexer) (spot : Spot) : Except Problem Lexer :=
  let line := spot.line
  let column := spot.column
  let after := lexer.rest.drop 1
  let indicates := lexer.bracketed || atGap after
  if column = 0 ∧ spot.value = '%' then do
    let lexer ← lexer.outermost
    let (token, rest) ← readDirective after
    .ok { lexer.add token with rest := rest }
  else if startsMark '-' lexer.rest then do
    .ok (((← lexer.outermost).add .documentStart).skip 3)
  else if startsMark '.' lexer.rest then do
    .ok (((← lexer.outermost).add .documentEnd).skip 3)
  else
    match spot.value with
    | '[' => lexer.openBracket line column .openList
    | '\x7b' => lexer.openBracket line column .openRecord
    | ']' => lexer.closeBracket .closeList
    | '\x7d' => lexer.closeBracket .closeRecord
    | ',' => lexer.comma
    | '*' => lexer.mayBeKey line column fun lexer => do
      let (name, rest) ← readAnchor (lexer.rest.drop 1)
      .ok (.alias name, rest)
    | '&' => lexer.mayBeKey line column fun lexer => do
      let (name, rest) ← readAnchor (lexer.rest.drop 1)
      .ok (.anchor name, rest)
    | '!' => lexer.mayBeKey line column fun lexer => do
      let (tag, rest) ← readTag lexer.bracketed (lexer.rest.drop 1)
      .ok (.tag tag, rest)
    | '\'' => lexer.quoted line column '\''
    | '"' => lexer.quoted line column '"'
    | value =>
      if value = '-' ∧ atGap after then lexer.entry column
      else if value = '?' ∧ indicates then lexer.explicitKey column
      else if value = ':' ∧ indicates then lexer.colon column
      else if value = '|' ∧ !lexer.bracketed then lexer.block false
      else if value = '>' ∧ !lexer.bracketed then lexer.block true
      else if lexer.startsPlain then lexer.plain line column
      else .error .unexpectedCharacter

/-- Reads all tokens. Every round reads a character at least, so there are always as many rounds left
as characters, which is enough to pass over what stands between two tokens. -/
def readAll : (rounds : Nat) → Lexer → Except Problem Lexer
  | 0, lexer => (lexer.closeBlocks fun _ => false).dropCandidate
  | rounds + 1, lexer =>
    let lexer := lexer.pass (rounds + 1)
    match lexer.rest with
    | [] => (lexer.closeBlocks fun _ => false).dropCandidate
    | spot :: _ => do
      let lexer ← lexer.dropStale spot.line spot.column
      readAll rounds (← (lexer.closeBlocks (· ≤ spot.column)).token spot)

end Lexer

/-- The tokens of a text. -/
def Token.ofText (text : List Spot) : Except Problem (List Token) := do
  let lexer ← Lexer.readAll text.length (Lexer.start text)
  .ok lexer.tokens.reverse

end PageAttributes.Yaml
