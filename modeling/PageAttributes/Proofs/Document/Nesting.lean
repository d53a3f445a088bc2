/-
**How deep documents are nested, and which numbers they hold.**

* `Document.nesting` — how many lists and records stand inside each other;
* `Document.nesting_list_le_iff`, `Document.nesting_record_le_iff` — a list or a record is one
  deeper than its parts;
* `Document.numbers` — the numbers in a document, in their order.
-/

import PageAttributes.Document.Basic

namespace PageAttributes.Document

mutual

/-- How many lists and records stand inside each other. -/
def nesting : Document → Nat
  | .null => 0
  | .flag _ => 0
  | .number _ => 0
  | .text _ => 0
  | .list items => nestingOfItems items + 1
  | .record fields => nestingOfFields fields + 1

/-- The deepest nesting among some items. -/
def nestingOfItems : List Document → Nat
  | [] => 0
  | item :: rest => max (nesting item) (nestingOfItems rest)

/-- The deepest nesting among some field values. -/
def nestingOfFields : List (String × Document) → Nat
  | [] => 0
  | (_, value) :: rest => max (nesting value) (nestingOfFields rest)

end

theorem nestingOfItems_le_iff {items : List Document} {bound : Nat} :
    nestingOfItems items ≤ bound ↔ ∀ item ∈ items, item.nesting ≤ bound := by
  induction items with
  | nil => simp [nestingOfItems]
  | cons first rest ih => rw [nestingOfItems, Nat.max_le, ih, List.forall_mem_cons]

theorem nestingOfFields_le_iff {fields : List (String × Document)} {bound : Nat} :
    nestingOfFields fields ≤ bound ↔ ∀ field ∈ fields, field.2.nesting ≤ bound := by
  induction fields with
  | nil => simp [nestingOfFields]
  | cons first rest ih => rw [nestingOfFields, Nat.max_le, ih, List.forall_mem_cons]

/-- A list is one deeper than its items. -/
theorem nesting_list_le_iff {items : List Document} {bound : Nat} :
    (list items).nesting ≤ bound + 1 ↔ ∀ item ∈ items, item.nesting ≤ bound := by
  rw [nesting, Nat.add_le_add_iff_right, nestingOfItems_le_iff]

/-- A record is one deeper than its values. -/
theorem nesting_record_le_iff {fields : List (String × Document)} {bound : Nat} :
    (record fields).nesting ≤ bound + 1 ↔ ∀ field ∈ fields, field.2.nesting ≤ bound := by
  rw [nesting, Nat.add_le_add_iff_right, nestingOfFields_le_iff]

@[simp] theorem nesting_flag (value : Bool) : (flag value).nesting = 0 := by rw [nesting]

@[simp] theorem nesting_number (value : Numeral) : (number value).nesting = 0 := by rw [nesting]

@[simp] theorem nesting_text (value : String) : (text value).nesting = 0 := by rw [nesting]

mutual

/-- The numbers in a document. -/
def numbers : Document → List Numeral
  | .null => []
  | .flag _ => []
  | .number value => [value]
  | .text _ => []
  | .list items => numbersOfItems items
  | .record fields => numbersOfFields fields

/-- The numbers in some items. -/
def numbersOfItems : List Document → List Numeral
  | [] => []
  | item :: rest => numbers item ++ numbersOfItems rest

/-- The numbers in some field values. -/
def numbersOfFields : List (String × Document) → List Numeral
  | [] => []
  | (_, value) :: rest => numbers value ++ numbersOfFields rest

end

end PageAttributes.Document
