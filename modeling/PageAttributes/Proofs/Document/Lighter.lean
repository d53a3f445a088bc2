/-
**Documents with no more in them than others.**

* `Lighter` — nested no deeper, and with no other numbers;
* `lighter_list`, `lighter_record` — so is a whole if every part is lighter than some part of the
  other one;
* `lighter_canonical` — putting the fields of records in order adds nothing;
* `lighter_of_hasUniqueKeys` — and it loses nothing where no key repeats.
-/

import PageAttributes.Proofs.Document.Canonical
import PageAttributes.Proofs.Document.Nesting

namespace PageAttributes.Document

theorem mem_numbersOfItems {items : List Document} {value : Numeral} :
    value ∈ numbersOfItems items ↔ ∃ item ∈ items, value ∈ item.numbers := by
  induction items with
  | nil => simp [numbersOfItems]
  | cons item rest ih => simp [numbersOfItems, ih]

theorem mem_numbersOfFields {fields : List (String × Document)} {value : Numeral} :
    value ∈ numbersOfFields fields ↔ ∃ field ∈ fields, value ∈ field.2.numbers := by
  induction fields with
  | nil => simp [numbersOfFields]
  | cons field rest ih => simp [numbersOfFields, ih]

/-- A document is nested no deeper than another one and holds no other numbers. -/
structure Lighter (document whole : Document) : Prop where
  nesting : document.nesting ≤ whole.nesting
  numbers : document.numbers ⊆ whole.numbers

theorem Lighter.refl (document : Document) : Lighter document document :=
  ⟨Nat.le_refl _, List.Subset.refl _⟩

theorem Lighter.trans {first second third : Document} (lighter : Lighter first second)
    (lighterToo : Lighter second third) : Lighter first third :=
  ⟨Nat.le_trans lighter.nesting lighterToo.nesting,
    List.Subset.trans lighter.numbers lighterToo.numbers⟩

theorem lighter_list {items others : List Document}
    (each : ∀ item ∈ items, ∃ other ∈ others, Lighter item other) :
    Lighter (list items) (list others) where
  nesting := by
    refine nesting_list_le_iff.mpr fun item member => ?_
    obtain ⟨other, among, lighter⟩ := each item member
    exact Nat.le_trans lighter.nesting (nestingOfItems_le_iff.mp (Nat.le_refl _) other among)
  numbers := by
    intro value member
    rw [numbers, mem_numbersOfItems] at member ⊢
    obtain ⟨item, inside, holds⟩ := member
    obtain ⟨other, among, lighter⟩ := each item inside
    exact ⟨other, among, lighter.numbers holds⟩

theorem lighter_record {fields others : List (String × Document)}
    (each : ∀ field ∈ fields, ∃ other ∈ others, Lighter field.2 other.2) :
    Lighter (record fields) (record others) where
  nesting := by
    refine nesting_record_le_iff.mpr fun field member => ?_
    obtain ⟨other, among, lighter⟩ := each field member
    exact Nat.le_trans lighter.nesting (nestingOfFields_le_iff.mp (Nat.le_refl _) other among)
  numbers := by
    intro value member
    rw [numbers, mem_numbersOfFields] at member ⊢
    obtain ⟨field, inside, holds⟩ := member
    obtain ⟨other, among, lighter⟩ := each field inside
    exact ⟨other, among, lighter.numbers holds⟩

/-! ### Canonical forms -/

mutual

/-- The canonical form of a document has no more in it than the document. -/
theorem lighter_canonical : ∀ document : Document, Lighter document.canonical document
  | .null => .refl _
  | .flag _ => .refl _
  | .number _ => .refl _
  | .text _ => .refl _
  | .list items => lighter_list (lighter_canonicalItems items)
  | .record fields => lighter_record fun field member =>
    lighter_canonicalFields fields field (Keyed.mem_of_mem_ofPairs member)

theorem lighter_canonicalItems : ∀ items : List Document,
    ∀ item ∈ canonicalItems items, ∃ other ∈ items, Lighter item other
  | [] => List.forall_mem_nil _
  | first :: rest => List.forall_mem_cons.mpr ⟨⟨first, .head _, lighter_canonical first⟩,
      fun item member => by
        obtain ⟨other, among, lighter⟩ := lighter_canonicalItems rest item member
        exact ⟨other, .tail _ among, lighter⟩⟩

theorem lighter_canonicalFields : ∀ fields : List (String × Document),
    ∀ field ∈ canonicalFields fields, ∃ other ∈ fields, Lighter field.2 other.2
  | [] => List.forall_mem_nil _
  | (key, value) :: rest => List.forall_mem_cons.mpr ⟨⟨(key, value), .head _, lighter_canonical value⟩,
      fun field member => by
        obtain ⟨other, among, lighter⟩ := lighter_canonicalFields rest field member
        exact ⟨other, .tail _ among, lighter⟩⟩

end

/-- Where no key repeats, every field is found among those that are put in order. -/
theorem mem_ofPairs_canonicalFields {fields : List (String × Document)}
    (unique : (fields.map Prod.fst).Nodup) {field : String × Document} (member : field ∈ fields) :
    (field.1, field.2.canonical) ∈ Keyed.ofPairs (canonicalFields fields) := by
  have same := canonicalFields_eq fields
  have uniqueToo : ((canonicalFields fields).map Prod.fst).Nodup := by
    rw [same, List.map_map]
    exact unique
  have listed : (field.1, field.2.canonical) ∈ canonicalFields fields := by
    rw [same]
    exact List.mem_map_of_mem member
  exact mem_of_lookup ((Keyed.lookup_ofPairs uniqueToo _).trans (lookup_of_mem uniqueToo listed))

mutual

/-- Where no key repeats, the canonical form of a document has everything in it. -/
theorem lighter_of_hasUniqueKeys : ∀ document : Document, document.HasUniqueKeys →
    Lighter document document.canonical
  | .null, _ => .refl _
  | .flag _, _ => .refl _
  | .number _, _ => .refl _
  | .text _, _ => .refl _
  | .list items, unique => lighter_list fun item member => by
    refine ⟨item.canonical, ?_, lighter_items_of_haveUniqueKeys items unique item member⟩
    rw [canonicalItems_eq]
    exact List.mem_map_of_mem member
  | .record fields, ⟨unique, values⟩ => lighter_record fun field member =>
    ⟨_, mem_ofPairs_canonicalFields unique member,
      lighter_fields_of_haveUniqueKeys fields values field member⟩

theorem lighter_items_of_haveUniqueKeys : ∀ items : List Document, HaveUniqueKeys items →
    ∀ item ∈ items, Lighter item item.canonical
  | [], _ => List.forall_mem_nil _
  | item :: rest, ⟨first, others⟩ => List.forall_mem_cons.mpr
      ⟨lighter_of_hasUniqueKeys item first, lighter_items_of_haveUniqueKeys rest others⟩

theorem lighter_fields_of_haveUniqueKeys : ∀ fields : List (String × Document),
    ValuesHaveUniqueKeys fields → ∀ field ∈ fields, Lighter field.2 field.2.canonical
  | [], _ => List.forall_mem_nil _
  | (_, value) :: rest, ⟨first, others⟩ => List.forall_mem_cons.mpr
      ⟨lighter_of_hasUniqueKeys value first, lighter_fields_of_haveUniqueKeys rest others⟩

end

end PageAttributes.Document
