/-
**Untyped documents.**

A document is what a schema source holds before anything is known about its meaning. A record is a
list of fields, so that a document can also be held as it was written, with its fields in any order
and with repeated keys; the canonical form has sorted keys, each once.

* `Document.canonical` — sorts the fields of every record, the last of a repeated key winning;
* `Document.IsCanonical` — every record has strictly increasing keys;
* `Document.kindName` — the word for the kind of a document in a report.
-/

import PageAttributes.Number.Numeral
import PageAttributes.Document.Keyed

namespace PageAttributes

/-- An untyped document. -/
inductive Document where
  | null
  | flag (value : Bool)
  | number (value : Numeral)
  | text (value : String)
  | list (items : List Document)
  | record (fields : List (String × Document))

namespace Document

instance : Inhabited Document := ⟨.null⟩

/-- The word for the kind of a document. -/
def kindName : Document → String
  | .null => "null"
  | .flag _ => "boolean"
  | .number _ => "number"
  | .text _ => "string"
  | .list _ => "array"
  | .record _ => "object"

/-- The document says nothing. -/
def isNull : Document → Bool
  | .null => true
  | _ => false

mutual

/-- The document with the fields of every record sorted, the last of a repeated key winning. -/
def canonical : Document → Document
  | .null => .null
  | .flag value => .flag value
  | .number value => .number value
  | .text value => .text value
  | .list items => .list (canonicalItems items)
  | .record fields => .record (Keyed.ofPairs (canonicalFields fields))

/-- Every item in canonical form. -/
def canonicalItems : List Document → List Document
  | [] => []
  | item :: rest => canonical item :: canonicalItems rest

/-- Every field value in canonical form, the fields in the given order. -/
def canonicalFields : List (String × Document) → List (String × Document)
  | [] => []
  | (key, value) :: rest => (key, canonical value) :: canonicalFields rest

end

mutual

/-- Every record has strictly increasing keys. -/
def IsCanonical : Document → Prop
  | .null => True
  | .flag _ => True
  | .number _ => True
  | .text _ => True
  | .list items => AreCanonical items
  | .record fields => Keyed.Sorted fields ∧ HaveCanonical fields

/-- Every item is canonical. -/
def AreCanonical : List Document → Prop
  | [] => True
  | item :: rest => IsCanonical item ∧ AreCanonical rest

/-- Every field value is canonical. -/
def HaveCanonical : List (String × Document) → Prop
  | [] => True
  | (_, value) :: rest => IsCanonical value ∧ HaveCanonical rest

end

end Document

end PageAttributes
