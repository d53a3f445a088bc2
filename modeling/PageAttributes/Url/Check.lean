/-
**Whether a text is a URL.**

A URL stands alone here: it names its scheme. What follows is taken as browsers take it, so little of
it can be wrong: a host, a port, or that a host is missing.

* `split?` — the scheme of a text, and what follows it;
* `authorityProblem?` — what is wrong with the credentials, the host and the port;
* `problem?` — what is wrong with a text, if it is no URL.
-/

import PageAttributes.Url.Host

namespace PageAttributes.Url

open Text

/-- A control or a blank, which is passed over at both ends of a text. -/
def isEdge (value : Char) : Bool := value.toNat ≤ 0x20

/-- A tab or a line break, which is passed over anywhere. -/
def isPassedOver (value : Char) : Bool := value == '\t' || value == '\n' || value == '\r'

/-- The characters of a text that mean something. -/
def significant (text : String) : List Char :=
  let trimmed := (text.toList.dropWhile isEdge).reverse.dropWhile isEdge
  trimmed.reverse.filter fun value => !isPassedOver value

/-- A character of a scheme. -/
def isSchemeCharacter (value : Char) : Bool :=
  value.isAlphanum || value == '+' || value == '-' || value == '.'

/-- The scheme of a text in lower case, and what follows the colon after it. -/
def split? : List Char → Option (String × List Char)
  | [] => none
  | first :: rest =>
    match rest.dropWhile isSchemeCharacter with
    | ':' :: after =>
      let scheme := first :: rest.takeWhile isSchemeCharacter
      if first.isAlpha then some (String.ofList (scheme.map Char.toLower), after) else none
    | _ => none

/-- What a scheme says about the text after it. -/
inductive SchemeKind where
  | web
  | file
  | other
deriving DecidableEq, Repr

/-- The kind of a scheme. -/
def SchemeKind.ofName (scheme : String) : SchemeKind :=
  if scheme = "file" then .file
  else if ["http", "https", "ws", "wss", "ftp"].contains scheme then .web
  else .other

/-- A slash of either kind. -/
def isSlash (value : Char) : Bool := value == '/' || value == '\\'

/-- The character ends the host of a file. -/
def endsFileHost (value : Char) : Bool := isSlash value || value == '?' || value == '#'

/-- The character ends the credentials, the host and the port. -/
def endsAuthority (kind : SchemeKind) (value : Char) : Bool :=
  value == '/' || value == '?' || value == '#' || (kind == .web && value == '\\')

/-- The host at the start of a text: it ends at a colon outside brackets. -/
def hostOf : (bracketed : Bool) → List Char → List Char
  | _, [] => []
  | bracketed, value :: rest =>
    if value = ':' ∧ !bracketed then []
    else value :: hostOf (value == '[' || (bracketed && value != ']')) rest

/-- What is wrong with a port. -/
def portProblem? (port : List Char) : Option Problem :=
  let digits := port.takeWhile isDecimal
  match port.dropWhile isDecimal with
  | [] => if ofDigits 10 digits < twoTo 16 then none else some .badPort
  | '\\' :: _ => if ofDigits 10 digits < twoTo 16 then none else some .badPort
  | _ => some .badPort

/-- What is wrong with a host and a port; `named` says that credentials stand before them. -/
def placeProblem? (kind : SchemeKind) (named : Bool) (place : List Char) : Option Problem :=
  let host := hostOf false place
  let after := place.drop host.length
  if host.isEmpty && (kind == .web || named || !after.isEmpty) then some .emptyHost
  else
    (if kind == .web then hostProblem? host else opaqueHostProblem? host)
      <|> portProblem? (after.drop 1)

/-- What is wrong with the credentials, the host and the port at the start of a text. -/
def authorityProblem? (kind : SchemeKind) (text : List Char) : Option Problem :=
  let authority := text.takeWhile fun value => !endsAuthority kind value
  let place := (authority.reverse.takeWhile (· != '@')).reverse
  if place.length = authority.length then placeProblem? kind false place
  else
    let credentials := authority.take (authority.length - place.length - 1)
    if credentials.isEmpty then
      if place.isEmpty && authority.length < text.length then some .emptyHost
      else placeProblem? kind false place
    else placeProblem? kind (credentials != [':']) place

/-- The text is the letter of a drive. -/
def isDrive : List Char → Bool
  | [letter, colon] => letter.isAlpha && (colon == ':' || colon == '|')
  | _ => false

/-- What is wrong with the text after the scheme of a file. -/
def fileProblem? : List Char → Option Problem
  | first :: second :: rest =>
    let host := rest.takeWhile fun value => !endsFileHost value
    if isSlash first && isSlash second && !host.isEmpty && !isDrive host then hostProblem? host
    else none
  | _ => none

/-- What is wrong with a text, if it is no URL. -/
def problem? (text : String) : Option Problem :=
  match split? (significant text) with
  | none => some .noScheme
  | some (scheme, after) =>
    match SchemeKind.ofName scheme, after with
    | .file, after => fileProblem? after
    | .web, after => authorityProblem? .web (after.dropWhile isSlash)
    | .other, '/' :: '/' :: after => authorityProblem? .other after
    | .other, _ => none

end PageAttributes.Url
