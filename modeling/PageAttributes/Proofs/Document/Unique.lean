/-
**Documents in which no record repeats a key.**

* `lookup_of_mem` — where no key repeats, every value is found under its key;
* `Document.HasUniqueKeys` — no record inside a document repeats a key;
* `Document.IsCanonical.hasUniqueKeys` — a canonical document is such a document.
-/

import PageAttributes.Proofs.Document.Lookup

namespace PageAttributes

/-- Where no key repeats, every value is found under its key. -/
theorem lookup_of_mem {α : Type} {fields : List (String × α)} (unique : (fields.map Prod.fst).Nodup)
    {key : String} {value : α} (member : (key, value) ∈ fields) :
    fields.lookup key = some value := by
  induction fields with
  | nil => cases member
  | cons field rest ih =>
    obtain ⟨other, held⟩ := field
    obtain ⟨fresh, uniqueRest⟩ := List.nodup_cons.mp unique
    rw [lookup_field]
    rcases List.mem_cons.mp member with same | later
    · cases same
      rw [if_pos rfl]
    · have different : other ≠ key := by
        rintro rfl
        exact fresh (List.mem_map.mpr ⟨_, later, rfl⟩)
      rw [if_neg different, ih uniqueRest later]

/-- Keys in strictly increasing order do not repeat. -/
theorem Keyed.Sorted.nodup {α : Type} {fields : Keyed α} (sorted : Keyed.Sorted fields) :
    (fields.map Prod.fst).Nodup := by
  rw [List.Nodup, List.pairwise_map]
  refine sorted.imp fun {first second} before same => ?_
  rw [same] at before
  exact String.lt_irrefl _ before

namespace Document

mutual

/-- No record inside a document repeats a key. -/
def HasUniqueKeys : Document → Prop
  | .null => True
  | .flag _ => True
  | .number _ => True
  | .text _ => True
  | .list items => HaveUniqueKeys items
  | .record fields => (fields.map Prod.fst).Nodup ∧ ValuesHaveUniqueKeys fields

/-- No record inside of any item repeats a key. -/
def HaveUniqueKeys : List Document → Prop
  | [] => True
  | item :: rest => HasUniqueKeys item ∧ HaveUniqueKeys rest

/-- No record inside of any field value repeats a key. -/
def ValuesHaveUniqueKeys : List (String × Document) → Prop
  | [] => True
  | (_, value) :: rest => HasUniqueKeys value ∧ ValuesHaveUniqueKeys rest

end

theorem haveUniqueKeys_iff {items : List Document} :
    HaveUniqueKeys items ↔ ∀ item ∈ items, item.HasUniqueKeys := by
  induction items with
  | nil => simp [HaveUniqueKeys]
  | cons first rest ih => simp [HaveUniqueKeys, ih]

theorem valuesHaveUniqueKeys_iff {fields : List (String × Document)} :
    ValuesHaveUniqueKeys fields ↔ ∀ field ∈ fields, field.2.HasUniqueKeys := by
  induction fields with
  | nil => simp [ValuesHaveUniqueKeys]
  | cons first rest ih => simp [ValuesHaveUniqueKeys, ih]

/-- The keys of the items of a list are unique. -/
theorem HasUniqueKeys.ofMem {items : List Document} (unique : (list items).HasUniqueKeys)
    {item : Document} (member : item ∈ items) : item.HasUniqueKeys :=
  haveUniqueKeys_iff.mp unique item member

/-- The keys of the values of a record are unique. -/
theorem HasUniqueKeys.ofLookup {fields : List (String × Document)}
    (unique : (record fields).HasUniqueKeys) {key : String} {value : Document}
    (found : fields.lookup key = some value) : value.HasUniqueKeys :=
  valuesHaveUniqueKeys_iff.mp unique.2 (key, value) (mem_of_lookup found)

mutual

/-- A canonical document repeats no key. -/
theorem IsCanonical.hasUniqueKeys :
    ∀ {document : Document}, document.IsCanonical → document.HasUniqueKeys
  | .null, _ => trivial
  | .flag _, _ => trivial
  | .number _, _ => trivial
  | .text _, _ => trivial
  | .list _, canonical => haveUniqueKeys_of_areCanonical canonical
  | .record _, ⟨sorted, values⟩ => ⟨sorted.nodup, valuesHaveUniqueKeys_of_haveCanonical values⟩

theorem haveUniqueKeys_of_areCanonical :
    ∀ {items : List Document}, AreCanonical items → HaveUniqueKeys items
  | [], _ => trivial
  | _ :: _, ⟨first, others⟩ => ⟨first.hasUniqueKeys, haveUniqueKeys_of_areCanonical others⟩

theorem valuesHaveUniqueKeys_of_haveCanonical :
    ∀ {fields : List (String × Document)}, HaveCanonical fields → ValuesHaveUniqueKeys fields
  | [], _ => trivial
  | (_, _) :: _, ⟨first, others⟩ =>
    ⟨first.hasUniqueKeys, valuesHaveUniqueKeys_of_haveCanonical others⟩

end

end Document

end PageAttributes
