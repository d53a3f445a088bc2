/-
**The compact written form of a document.**

`Document.spell` writes a document without blanks, the fields of a record in the order in which the
record holds them; `Document.write` is the same as a text.
-/

import PageAttributes.Document.Basic
import PageAttributes.Json.Text

namespace PageAttributes.Document

mutual

/-- The characters of the written form. -/
def spell : Document → List Char
  | .null => "null".toList
  | .flag value => if value then "true".toList else "false".toList
  | .number value => value.write.toList
  | .text value => Json.encode value
  | .list items => '[' :: spellItems items
  | .record fields => '{' :: spellFields fields

/-- The items of a list and its closing bracket. -/
def spellItems : List Document → List Char
  | [] => [']']
  | item :: rest => spell item ++ spellMoreItems rest

/-- The items after the first, each behind a comma, and the closing bracket. -/
def spellMoreItems : List Document → List Char
  | [] => [']']
  | item :: rest => ',' :: (spell item ++ spellMoreItems rest)

/-- The fields of a record and its closing brace. -/
def spellFields : List (String × Document) → List Char
  | [] => ['}']
  | (key, value) :: rest => Json.encode key ++ ':' :: (spell value ++ spellMoreFields rest)

/-- The fields after the first, each behind a comma, and the closing brace. -/
def spellMoreFields : List (String × Document) → List Char
  | [] => ['}']
  | (key, value) :: rest =>
    ',' :: (Json.encode key ++ ':' :: (spell value ++ spellMoreFields rest))

end

/-- The compact written form. -/
def write (document : Document) : String := String.ofList document.spell

end PageAttributes.Document
