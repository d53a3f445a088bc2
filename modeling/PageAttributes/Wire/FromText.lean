/-
**Typed values read from texts.**

A typed value is read while its text is being read, so whichever problem comes first in the text is
the one reported: a part that does not fit, or a fault of the text itself.

* `ofSymbols` — the typed value of a text;
* `TextProblem.place` — the line and the column where a problem is reported.
-/

import PageAttributes.Json.Reader
import PageAttributes.Wire.Parts

namespace PageAttributes.Wire

/-- Why a text does not spell a typed value. -/
inductive TextProblem where
  | syntactic (halt : Json.Halt)
  | mismatch (noticed : Mismatch)

namespace TextProblem

/-- The wording of a problem, without its place. -/
def message : TextProblem → String
  | .syntactic halt => halt.fault.message
  | .mismatch noticed => noticed.message

end TextProblem

/-- Reads a typed value from a text, of which some parts are asked for. -/
def ofSymbols {α : Type} (attention : Json.Attention) (read : Document → Result α)
    (symbols : List Json.Symbol) : Except TextProblem α :=
  match Json.read attention Json.depthLimit symbols with
  | .ok document =>
    match read document with
    | .ok value => .ok value
    | .error noticed => .error (.mismatch noticed)
  | .error halted =>
    match read halted.before, halted.inside with
    | .error noticed, some opened =>
      if noticed.precedes opened then .error (.mismatch noticed)
      else .error (.syntactic halted.halt)
    | .error noticed, none => .error (.mismatch noticed)
    | .ok _, _ => .error (.syntactic halted.halt)

/-! ### Places -/

/-- What is left of a text after an item and the comma behind it. -/
def afterItem (symbols : List Json.Symbol) : List Json.Symbol :=
  match Json.pass (2 * symbols.length + 2) symbols with
  | .ok rest =>
    match Json.skipBlank rest with
    | .char ',' :: rest => rest
    | rest => rest
  | .error _ => []

/-- What is left of a text after a key and its colon. -/
def afterKey (symbols : List Json.Symbol) : List Json.Symbol :=
  match Json.skipBlank symbols with
  | .char '"' :: rest =>
    match Json.passText 0 rest with
    | .ok rest =>
      match Json.skipBlank rest with
      | .char ':' :: rest => rest
      | rest => rest
    | .error _ => []
  | rest => rest

/-- What is left of a text at the part in some position of the part that begins here. -/
def atPart (position : Nat) (symbols : List Json.Symbol) : List Json.Symbol :=
  match Json.skipBlank symbols with
  | .char '[' :: rest => Nat.repeat afterItem position rest
  | .char '{' :: rest => Nat.repeat (fun left => afterItem (afterKey left)) position rest
  | rest => rest

/-- What is left of a text at the value of the part that begins here, behind its key if it has
one. -/
def atValue (inRecord : Bool) (symbols : List Json.Symbol) : List Json.Symbol :=
  Json.skipBlank (if inRecord then afterKey symbols else symbols)

/-- A record begins here. -/
def beginsRecord (symbols : List Json.Symbol) : Bool :=
  match Json.skipBlank symbols with
  | .char '{' :: _ => true
  | _ => false

/-- What is left of a text where a mismatch is reported: in front of a list or a record of the wrong
kind, behind a second key, and else behind the part that does not fit. -/
def leftAt (moment : Moment) : List Nat → List Json.Symbol → List Json.Symbol
  | [], symbols =>
    match moment with
    | .finish =>
      match Json.pass (2 * symbols.length + 2) symbols with
      | .ok rest => rest
      | .error _ => []
    | _ => Json.skipBlank symbols
  | position :: site, symbols =>
    let part := atPart position symbols
    match site, moment with
    | [], .key =>
      match Json.skipBlank part with
      | .char '"' :: rest =>
        match Json.passText 0 rest with
        | .ok rest =>
          match Json.skipBlank rest with
          | .char '}' :: rest => rest
          | rest => rest
        | .error _ => []
      | rest => rest
    | _, _ => leftAt moment site (atValue (beginsRecord symbols) part)

/-- The line and the column where a problem of a text is reported. -/
def TextProblem.place (problem : TextProblem) (symbols : List Json.Symbol) : Nat × Nat :=
  match problem with
  | .syntactic halt => halt.lineAndColumn symbols
  | .mismatch noticed =>
    let left := (leftAt noticed.moment noticed.site symbols).length
    let ahead :=
      match noticed.cause with
      | .syntactic _ => 1
      | _ => 0
    Json.Halt.lineAndColumn ⟨.expectedValue, left, ahead⟩ symbols

end PageAttributes.Wire
