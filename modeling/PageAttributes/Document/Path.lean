/-
**Places inside a document.**

A place is the list of steps from the root: into a field of a record, or into an item of a list.

* `Path.field`, `Path.index` — one step further;
* `Path.display` — the written form, such as `solutions[0].id`, with `<root>` for the empty path;
* `Document.at?` — the value at a place.
-/

import PageAttributes.Document.Basic

namespace PageAttributes

/-- One step from a value into a part of it. -/
inductive Step where
  | field (name : String)
  | index (position : Nat)
deriving DecidableEq, Repr

/-- A place inside a document, as the steps that lead to it from the root. -/
abbrev Path := List Step

namespace Path

/-- The whole document. -/
def root : Path := []

/-- One step further, into a field. -/
def field (path : Path) (name : String) : Path := path ++ [.field name]

/-- One step further, into an item. -/
def index (path : Path) (position : Nat) : Path := path ++ [.index position]

/-- The written form of a step that does not come first. -/
def displayStep : Step → String
  | .field name => "." ++ name
  | .index position => "[" ++ toString position ++ "]"

/-- The written form of the steps after the first. -/
def displaySteps : Path → String
  | [] => ""
  | step :: rest => displayStep step ++ displaySteps rest

/-- The written form of a place. The first field has no separator before it. -/
def display : Path → String
  | [] => "<root>"
  | .field name :: rest => name ++ displaySteps rest
  | .index position :: rest => displayStep (.index position) ++ displaySteps rest

end Path

namespace Document

/-- The part of a document that one step leads to. -/
def part? : Document → Step → Option Document
  | .record fields, .field name => fields.lookup name
  | .list items, .index position => items[position]?
  | _, _ => none

/-- The value at a place, if the document has one there. -/
def at? (document : Document) : Path → Option Document
  | [] => some document
  | step :: rest => (document.part? step).bind fun part => part.at? rest

end Document

end PageAttributes
