/-
**Places inside a document, step by step.**

* `Document.at?_field`, `Document.at?_index` — one step further, into a record or a list.
-/

import PageAttributes.Document.Path

namespace PageAttributes.Document

variable {document : Document} {path : Path}

/-- A place behind another is found from there on. -/
theorem at?_append (document : Document) (path more : Path) :
    document.at? (path ++ more) = (document.at? path).bind fun part => part.at? more := by
  induction path generalizing document with
  | nil => rfl
  | cons step rest ih =>
    rw [List.cons_append, at?, at?]
    cases document.part? step with
    | none => rfl
    | some part => exact ih part

/-- A field of a record that is found. -/
theorem at?_field {fields : List (String × Document)}
    (here : document.at? path = some (.record fields)) (key : String) :
    document.at? (path.field key) = fields.lookup key := by
  rw [Path.field, at?_append, here, Option.bind_some, at?, part?]
  cases fields.lookup key <;> rfl

/-- An item of a list that is found. -/
theorem at?_index {items : List Document} (here : document.at? path = some (.list items))
    (position : Nat) : document.at? (path.index position) = items[position]? := by
  rw [Path.index, at?_append, here, Option.bind_some, at?, part?]
  cases items[position]? <;> rfl

/-- The item behind some others. -/
theorem at?_index_length {before rest : List Document} {item : Document}
    (here : document.at? path = some (.list (before ++ item :: rest))) :
    document.at? (path.index before.length) = some item := by
  rw [at?_index here, List.getElem?_append_right (Nat.le_refl _), Nat.sub_self,
    List.getElem?_cons_zero]

end PageAttributes.Document
