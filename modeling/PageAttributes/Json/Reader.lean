/-
**Reading JSON texts.**

A text is read from left to right and the first fault ends the reading. What was read until then is
kept: a reader of typed values may find that something was wrong even before the fault.

Fields that nobody asks for are passed over without being kept, and of them only the shape is
checked; an `Attention` says which ones are asked for.

* `read` — the document of a text, or where and why the reading broke off;
* `readAll` — the same for a text of which everything is asked for.
-/

import PageAttributes.Document.Basic
import PageAttributes.Json.Numbers
import PageAttributes.Json.Text

namespace PageAttributes.Json

/-- Which parts of a text are asked for. -/
inductive Attention where
  /-- Everything. -/
  | full
  /-- Nothing: the value is passed over. -/
  | none
  /-- The fields of a record, or the items of a list in the same order. -/
  | fields (wanted : List (String × Attention))
  /-- Something of each item of a list. -/
  | each (item : Attention)

namespace Attention

/-- What is asked for of a field. -/
def ofField (attention : Attention) (key : String) : Attention :=
  match attention with
  | .fields wanted => (wanted.lookup key).getD .none
  | _ => .full

/-- What is asked for of an item. -/
def ofItem (attention : Attention) (position : Nat) : Attention :=
  match attention with
  | .fields wanted => (wanted[position]?.map Prod.snd).getD .full
  | .each item => item
  | _ => .full

/-- The value need not be kept. -/
def isNone : Attention → Bool
  | .none => true
  | _ => false

end Attention

/-- A reading that broke off. -/
structure Break where
  halt : Halt
  /-- What had been read, every open list and record closed at the fault. -/
  before : Document
  /-- The positions that lead to the innermost part left open; nothing if none was. -/
  inside : Option (List Nat)

/-- The result of reading a part of a text: what was read, and the rest. -/
abbrev Reading (α : Type) := Except Break (α × List Symbol)

/-- Breaks off inside a part with nothing in it so far. -/
def Break.atOnce {α : Type} (before : Document) : Except Halt α → Except Break α
  | .ok result => .ok result
  | .error halt => .error ⟨halt, before, some []⟩

/-- Drops blanks. -/
def skipBlank : List Symbol → List Symbol
  | .char value :: rest =>
    if value = ' ' ∨ value = '\n' ∨ value = '\t' ∨ value = '\r' then skipBlank rest
    else .char value :: rest
  | symbols => symbols

/-- Reads the letters of a word. -/
def readWord : List Char → List Symbol → Except Halt (List Symbol)
  | [], symbols => .ok symbols
  | _ :: _, [] => haltBefore .endBeforeValue []
  | letter :: letters, symbol :: rest =>
    if symbol = .char letter then readWord letters rest else haltAt .expectedWord (symbol :: rest)

/-! ### Passing over a value

A list or record that nobody asks for may be nested without limit. -/

mutual

/-- Passes over a value, in at most `steps` steps. -/
def pass (steps : Nat) (symbols : List Symbol) : Except Halt (List Symbol) :=
  match steps with
  | 0 => haltAt .tooDeep symbols
  | steps + 1 =>
    match skipBlank symbols with
    | [] => haltBefore .endBeforeValue []
    | symbol :: rest =>
      match symbol with
      | .char 'n' => readWord ['u', 'l', 'l'] rest
      | .char 't' => readWord ['r', 'u', 'e'] rest
      | .char 'f' => readWord ['a', 'l', 's', 'e'] rest
      | .char '-' => passNumber rest
      | .char '"' => passText 0 rest
      | .char '[' =>
        match skipBlank rest with
        | .char ']' :: rest => .ok rest
        | [] => haltBefore .endInList []
        | rest => passItems steps rest
      | .char '{' =>
        match skipBlank rest with
        | .char '}' :: rest => .ok rest
        | [] => haltBefore .endInRecord []
        | rest => passFields steps rest
      | .char value =>
        if '0' ≤ value ∧ value ≤ '9' then passNumber (symbol :: rest)
        else haltAt .expectedValue (symbol :: rest)
      | .stray _ => haltAt .expectedValue (symbol :: rest)

/-- Passes over an item of a list and all after it. -/
def passItems (steps : Nat) (symbols : List Symbol) : Except Halt (List Symbol) :=
  match steps with
  | 0 => haltAt .tooDeep symbols
  | steps + 1 =>
    match pass steps symbols with
    | .error halt => .error halt
    | .ok rest =>
      match skipBlank rest with
      | .char ']' :: rest => .ok rest
      | .char ',' :: rest => passItems steps rest
      | [] => haltBefore .endInList []
      | rest => haltAt .expectedListEnd rest

/-- Passes over a field of a record and all after it. -/
def passFields (steps : Nat) (symbols : List Symbol) : Except Halt (List Symbol) :=
  match steps with
  | 0 => haltAt .tooDeep symbols
  | steps + 1 =>
    match skipBlank symbols with
    | .char '"' :: rest =>
      match passText 0 rest with
      | .error halt => .error halt
      | .ok rest =>
        match skipBlank rest with
        | .char ':' :: rest =>
          match pass steps rest with
          | .error halt => .error halt
          | .ok rest =>
            match skipBlank rest with
            | .char '}' :: rest => .ok rest
            | .char ',' :: rest => passFields steps rest
            | [] => haltBefore .endInRecord []
            | rest => haltAt .expectedRecordEnd rest
        | [] => haltBefore .endInRecord []
        | rest => haltAt .expectedColon rest
    | [] => haltBefore .endInRecord []
    | rest => haltAt .keyNotText rest

end

/-! ### Reading a value -/

mutual

/-- Reads a value in at most `steps` steps, with fewer than `depth` lists and records around and
inside of it. -/
def readValue (steps depth : Nat) (attention : Attention) (symbols : List Symbol) :
    Reading Document :=
  match steps with
  | 0 => Break.atOnce .null (haltAt .tooDeep symbols)
  | steps + 1 =>
    if attention.isNone then Break.atOnce .null ((pass (steps + 1) symbols).map fun rest => (.null, rest))
    else
      match skipBlank symbols with
      | [] => Break.atOnce (.text "") (haltBefore .endBeforeValue [])
      | symbol :: rest =>
        match symbol with
        | .char 'n' =>
          Break.atOnce .null ((readWord ['u', 'l', 'l'] rest).map fun rest => (.null, rest))
        | .char 't' =>
          Break.atOnce .null ((readWord ['r', 'u', 'e'] rest).map fun rest => (.flag true, rest))
        | .char 'f' =>
          Break.atOnce .null
            ((readWord ['a', 'l', 's', 'e'] rest).map fun rest => (.flag false, rest))
        | .char '-' =>
          Break.atOnce .null
            ((readNumber true rest).map fun result => (.number result.1, result.2))
        | .char '"' =>
          Break.atOnce (.text "")
            ((readText 0 [] false rest).map fun result => (.text result.1, result.2))
        | .char '[' =>
          if depth ≤ 1 then Break.atOnce (.list []) (haltAt .tooDeep (symbol :: rest))
          else
            match skipBlank rest with
            | .char ']' :: rest => .ok (.list [], rest)
            | [] => Break.atOnce (.list []) (haltBefore .endInList [])
            | rest => readItems steps (depth - 1) attention [] rest
        | .char '{' =>
          if depth ≤ 1 then Break.atOnce (.record []) (haltAt .tooDeep (symbol :: rest))
          else
            match skipBlank rest with
            | .char '}' :: rest => .ok (.record [], rest)
            | [] => Break.atOnce (.record []) (haltBefore .endInRecord [])
            | rest => readFields steps (depth - 1) attention [] rest
        | .char value =>
          if '0' ≤ value ∧ value ≤ '9' then
            Break.atOnce .null
              ((readNumber false (symbol :: rest)).map fun result => (.number result.1, result.2))
          else Break.atOnce .null (haltAt .expectedValue (symbol :: rest))
        | .stray _ => Break.atOnce .null (haltAt .expectedValue (symbol :: rest))

/-- Reads an item of a list and all after it; `before` holds the earlier items, the last first. -/
def readItems (steps depth : Nat) (attention : Attention) (before : List Document)
    (symbols : List Symbol) : Reading Document :=
  match steps with
  | 0 => Break.atOnce (.list before.reverse) (haltAt .tooDeep symbols)
  | steps + 1 =>
    match readValue steps depth (attention.ofItem before.length) symbols with
    | .error halted =>
      .error ⟨halted.halt, .list (halted.before :: before).reverse,
        halted.inside.map (before.length :: ·)⟩
    | .ok (item, rest) =>
      let before := item :: before
      match skipBlank rest with
      | .char ']' :: rest => .ok (.list before.reverse, rest)
      | .char ',' :: rest =>
        match skipBlank rest with
        | .char ']' :: rest =>
          Break.atOnce (.list before.reverse) (haltAt .trailingComma (.char ']' :: rest))
        | rest => readItems steps depth attention before rest
      | [] => Break.atOnce (.list before.reverse) (haltBefore .endInList [])
      | rest =>
        .error ⟨⟨.expectedListEnd, rest.length, 1⟩, .list (.text "" :: before).reverse,
          some [before.length]⟩

/-- Reads a field of a record and all after it; `before` holds the earlier fields, the last
first. -/
def readFields (steps depth : Nat) (attention : Attention) (before : List (String × Document))
    (symbols : List Symbol) : Reading Document :=
  match steps with
  | 0 => Break.atOnce (.record before.reverse) (haltAt .tooDeep symbols)
  | steps + 1 =>
    match skipBlank symbols with
    | .char '"' :: rest =>
      match readText 0 [] false rest with
      | .error halt => Break.atOnce (.record before.reverse) (.error halt)
      | .ok (key, rest) =>
        let unread (halt : Except Halt (Document × List Symbol)) : Reading Document :=
          match halt with
          | .ok result => .ok result
          | .error halt =>
            .error ⟨halt, .record ((key, .text "") :: before).reverse, some [before.length]⟩
        match skipBlank rest with
        | .char ':' :: rest =>
          match readValue steps depth (attention.ofField key) rest with
          | .error halted =>
            .error ⟨halted.halt, .record ((key, halted.before) :: before).reverse,
              halted.inside.map (before.length :: ·)⟩
          | .ok (value, rest) =>
            let before := (key, value) :: before
            match skipBlank rest with
            | .char '}' :: rest => .ok (.record before.reverse, rest)
            | .char ',' :: rest =>
              match skipBlank rest with
              | .char '}' :: rest =>
                Break.atOnce (.record before.reverse) (haltAt .trailingComma (.char '}' :: rest))
              | [] => Break.atOnce (.record before.reverse) (haltBefore .endBeforeValue [])
              | rest => readFields steps depth attention before rest
            | [] => Break.atOnce (.record before.reverse) (haltBefore .endInRecord [])
            | rest => Break.atOnce (.record before.reverse) (haltAt .expectedRecordEnd rest)
        | [] => unread (haltBefore .endInRecord [])
        | rest => unread (haltAt .expectedColon rest)
    | rest => Break.atOnce (.record before.reverse) (haltAt .keyNotText rest)

end

/-- How deep lists and records may be nested in a text that comes from outside: the last depth that
is refused. -/
def depthLimit : Nat := 128

/-- The document of a text. Nothing but blanks may follow it. Every step takes a symbol or enters an
item, so twice as many steps as symbols are enough. -/
def read (attention : Attention) (depth : Nat) (symbols : List Symbol) : Except Break Document :=
  match readValue (2 * symbols.length + 2) depth attention symbols with
  | .error halted => .error halted
  | .ok (document, rest) =>
    match skipBlank rest with
    | [] => .ok document
    | rest => .error ⟨⟨.trailingCharacters, rest.length, 1⟩, document, none⟩

/-- The document of a text of which everything is asked for, in canonical form. -/
def readAll (depth : Nat) (symbols : List Symbol) : Except Halt Document :=
  match read .full depth symbols with
  | .ok document => .ok document.canonical
  | .error halted => .error halted.halt

end PageAttributes.Json
