/-
**Looking things up.**

* `lookup_field` — a key is looked up field by field;
* `lookup_eq_none_iff_not_mem` — it is not found exactly if no field has it;
* `lookup_filter`, `lookup_map` — of some fields only those are found that are kept, and as they
  were changed;
* `Unseen` — values that do not repeat, when some values have been seen before;
* `findIdx?_eq_some_iff_of_nodup`, `find?_eq_some_iff_of_nodup` — where no name repeats, the first
  one is the only one;
* `Document.IsCanonical.ofLookup` — the values of a canonical record are canonical.
-/

import Mathlib.Data.List.Nodup
import PageAttributes.Document.Basic

namespace PageAttributes

/-- A key is looked up in the first field, and if it is not there in the others. -/
theorem lookup_field {α : Type} (key other : String) (value : α) (rest : List (String × α)) :
    ((other, value) :: rest).lookup key = if other = key then some value else rest.lookup key := by
  rw [List.lookup_cons]
  by_cases same : other = key
  · rw [if_pos same, same, beq_self_eq_true]
  · rw [if_neg same, beq_eq_false_iff_ne.mpr (Ne.symm same)]

/-- What is found under a key stands there. -/
theorem mem_of_lookup {α : Type} {key : String} {value : α} {fields : List (String × α)}
    (found : fields.lookup key = some value) : (key, value) ∈ fields := by
  obtain ⟨before, after, rfl, _⟩ := List.lookup_eq_some_iff.mp found
  simp

/-- Nothing is found under a key exactly if it is no key of any field. -/
theorem lookup_eq_none_iff_not_mem {α : Type} {key : String} {fields : List (String × α)} :
    fields.lookup key = none ↔ key ∉ fields.map Prod.fst := by
  simp only [List.lookup_eq_none_iff, bne_iff_ne, List.mem_map, not_exists, not_and]
  exact forall_congr' fun field => imp_congr_right fun _ => ne_comm

/-- Among some fields a key is looked up only if it is kept. -/
theorem lookup_filter {α : Type} (kept : String → Bool) (key : String)
    (fields : List (String × α)) :
    (fields.filter fun field => kept field.1).lookup key
      = if kept key then fields.lookup key else none := by
  induction fields with
  | nil => simp
  | cons field rest ih =>
    obtain ⟨other, value⟩ := field
    rw [List.filter_cons, lookup_field]
    by_cases same : other = key
    · subst same
      by_cases keep : kept other = true
      · simp [keep]
      · simp [keep, ih]
    · rw [if_neg same]
      split
      · rw [lookup_field, if_neg same, ih]
      · exact ih

/-- Changing what stands under the keys changes what is found. -/
theorem lookup_map {α β : Type} (change : String → α → β) (key : String)
    (fields : List (String × α)) :
    (fields.map fun field => (field.1, change field.1 field.2)).lookup key
      = (fields.lookup key).map (change key) := by
  induction fields with
  | nil => rfl
  | cons field rest ih =>
    obtain ⟨other, value⟩ := field
    rw [List.map_cons, lookup_field, lookup_field, ih]
    split
    · rename_i same
      rw [same, Option.map_some]
    · rfl

/-! ### Repetitions -/

/-- Some values do not repeat, and are none of those seen before. -/
def Unseen (seen values : List String) : Prop := values.Nodup ∧ ∀ value ∈ values, value ∉ seen

theorem unseen_nil_left {values : List String} : Unseen [] values ↔ values.Nodup := by
  simp [Unseen]

/-- The first value was not seen before, and the others are seen after it. -/
theorem unseen_cons {seen values : List String} {value : String} :
    Unseen seen (value :: values) ↔ value ∉ seen ∧ Unseen (seen ++ [value]) values := by
  simp only [Unseen, List.nodup_cons, List.forall_mem_cons, List.mem_append, List.mem_singleton,
    not_or]
  constructor
  · rintro ⟨⟨outside, unique⟩, unseen, others⟩
    refine ⟨unseen, unique, fun other member => ⟨others other member, ?_⟩⟩
    rintro rfl
    exact outside member
  · rintro ⟨unseen, unique, others⟩
    exact ⟨⟨fun member => (others value member).2 rfl, unique⟩, unseen,
      fun other member => (others other member).1⟩

/-- Where no name repeats, the first one is the only one. -/
theorem findIdx?_eq_some_iff_of_nodup {names : List String} (unique : names.Nodup) {name : String}
    {position : Nat} :
    (names.findIdx? fun other => other == name) = some position ↔ names[position]? = some name := by
  rw [List.findIdx?_eq_some_iff_getElem, List.getElem?_eq_some_iff]
  constructor
  · rintro ⟨inside, same, _⟩
    exact ⟨inside, beq_iff_eq.mp same⟩
  · rintro ⟨inside, same⟩
    refine ⟨inside, beq_iff_eq.mpr same, fun earlier before again => ?_⟩
    have equal : names[earlier] = names[position] := (beq_iff_eq.mp again).trans same.symm
    exact Nat.ne_of_lt before ((List.Nodup.getElem_inj_iff unique).mp equal)

/-- Where no name repeats, what is found under a name is the one entry with that name. -/
theorem find?_eq_some_iff_of_nodup {α : Type} {name : α → String} {entries : List α}
    (unique : (entries.map name).Nodup) {key : String} {entry : α} :
    (entries.find? fun other => name other == key) = some entry
      ↔ entry ∈ entries ∧ name entry = key := by
  have named : ∀ {first : α}, (entries.find? fun other => name other == key) = some first →
      first ∈ entries ∧ name first = key := by
    intro first found
    have holds := List.find?_some found
    exact ⟨List.mem_of_find?_eq_some found, beq_iff_eq.mp holds⟩
  refine ⟨named, fun ⟨member, same⟩ => ?_⟩
  have isThere : (entries.find? fun other => name other == key).isSome := by
    rw [List.find?_isSome]
    exact ⟨entry, member, beq_iff_eq.mpr same⟩
  obtain ⟨first, found⟩ := Option.isSome_iff_exists.mp isThere
  obtain ⟨member', same'⟩ := named found
  rw [found, List.inj_on_of_nodup_map unique member' member (same'.trans same.symm)]

/-! ### Canonical documents -/

namespace Document

/-- Items are canonical if each of them is. -/
theorem areCanonical_iff {items : List Document} :
    AreCanonical items ↔ ∀ item ∈ items, item.IsCanonical := by
  induction items with
  | nil => simp [AreCanonical]
  | cons first rest ih => simp [AreCanonical, ih]

/-- Field values are canonical if each of them is. -/
theorem haveCanonical_iff {fields : List (String × Document)} :
    HaveCanonical fields ↔ ∀ field ∈ fields, field.2.IsCanonical := by
  induction fields with
  | nil => simp [HaveCanonical]
  | cons first rest ih => simp [HaveCanonical, ih]

/-- The values of a canonical record are canonical. -/
theorem IsCanonical.ofLookup {fields : List (String × Document)}
    (canonical : (record fields).IsCanonical) {key : String} {value : Document}
    (found : fields.lookup key = some value) : value.IsCanonical :=
  haveCanonical_iff.mp canonical.2 (key, value) (mem_of_lookup found)

end Document

end PageAttributes
