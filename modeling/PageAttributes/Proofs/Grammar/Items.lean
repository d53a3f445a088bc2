/-
**What is said about the items of a list.**

A walk over a list says something about every item, each with its place. Whatever the walk looks for,
it says of the list what it says of the items.

* `mem_eachItem_iff` — what is said is said about one of the items;
* `flatMap_eachItem`, `filter_eachItem`, `map_eachItem` — what follows from it, and what is kept of it;
* `inside_eachItem` — what is said inside the items stands inside the list;
* `index_inj_of_prefix`, `nodup_map_eachItem` — and in different items it stands at different
  places.
-/

import Mathlib.Data.List.Infix
import Mathlib.Data.List.Nodup
import PageAttributes.Grammar.Fields

namespace PageAttributes.Grammar

variable {α β : Type} {about : Path → Document → List α} {path : Path}

/-! ### What is said -/

/-- What is said about the items of a list is said about one of them. -/
theorem mem_eachItem_iff {said : α} {items : List Document} : ∀ {start : Nat},
    said ∈ eachItem about path start items
      ↔ ∃ position item, items[position]? = some item
        ∧ said ∈ about (path.index (start + position)) item := by
  induction items with
  | nil => simp [eachItem]
  | cons item rest ih =>
    intro start
    rw [eachItem, List.mem_append, ih]
    constructor
    · rintro (here | ⟨position, other, there, member⟩)
      · exact ⟨0, item, rfl, here⟩
      · rw [Nat.add_assoc, Nat.add_comm 1] at member
        exact ⟨position + 1, other, there, member⟩
    · rintro ⟨position, other, there, member⟩
      cases position with
      | zero =>
        cases there
        exact Or.inl member
      | succ position =>
        rw [← Nat.add_assoc, Nat.add_right_comm] at member
        exact Or.inr ⟨position, other, there, member⟩

/-- What is said about every item of a list, if it fits at every item. -/
theorem forall_mem_eachItem_of {fits : α → Prop}
    (each : ∀ position item, ∀ said ∈ about (path.index position) item, fits said) {start : Nat}
    {items : List Document} : ∀ said ∈ eachItem about path start items, fits said := by
  intro said member
  obtain ⟨position, item, _, among⟩ := mem_eachItem_iff.mp member
  exact each _ item said among

/-- Nothing is said about a list if nothing is said about its items. -/
@[simp] theorem eachItem_nil (path : Path) (start : Nat) (items : List Document) :
    eachItem (fun _ _ => ([] : List α)) path start items = [] := by
  induction items generalizing start with
  | nil => rfl
  | cons item rest ih => rw [eachItem, ih, List.append_nil]

/-- What follows from what is said about the items of a list, one item after another. -/
theorem flatMap_eachItem {further : α → List β} (path : Path) (position : Nat)
    (items : List Document) :
    (eachItem about path position items).flatMap further
      = eachItem (fun path item => (about path item).flatMap further) path position items := by
  induction items generalizing position with
  | nil => rfl
  | cons item rest ih => rw [eachItem, List.flatMap_append, ih, eachItem]

/-- What is kept of what is said about the items of a list. -/
theorem filter_eachItem (kept : α → Bool) (path : Path) (position : Nat) (items : List Document) :
    (eachItem about path position items).filter kept
      = eachItem (fun path item => (about path item).filter kept) path position items := by
  induction items generalizing position with
  | nil => rfl
  | cons item rest ih => rw [eachItem, List.filter_append, ih, eachItem]

/-- What is said about every item of a list, without the places. -/
theorem map_eachItem {forget : α → β} {short : Document → List β} {items : List Document}
    {position : Nat} {path : Path}
    (same : ∀ item ∈ items, ∀ path, (about path item).map forget = short item) :
    (eachItem about path position items).map forget = items.flatMap short := by
  induction items generalizing position with
  | nil => rfl
  | cons item rest ih =>
    rw [eachItem, List.map_append, List.flatMap_cons, same item (.head _),
      ih fun other member => same other (.tail _ member)]

/-! ### Places of what is said -/

/-- No place stands behind two steps from one place. -/
theorem step_inj_of_prefix {first second : Step} {place : Path}
    (inFirst : path ++ [first] <+: place) (inSecond : path ++ [second] <+: place) :
    first = second := by
  have lengths : (path ++ [first]).length = (path ++ [second]).length := by
    rw [List.length_append, List.length_append, List.length_singleton, List.length_singleton]
  have within := List.prefix_of_prefix_length_le inFirst inSecond (Nat.le_of_eq lengths)
  exact List.head_eq_of_cons_eq (List.append_cancel_left (within.eq_of_length lengths))

/-- No place stands in two items of a list. -/
theorem index_inj_of_prefix {first second : Nat} {place : Path}
    (inFirst : path.index first <+: place) (inSecond : path.index second <+: place) :
    first = second := by
  cases step_inj_of_prefix inFirst inSecond
  rfl

/-- No place stands in two fields of a record. -/
theorem field_inj_of_prefix {first second : String} {place : Path}
    (inFirst : path.field first <+: place) (inSecond : path.field second <+: place) :
    first = second := by
  cases step_inj_of_prefix inFirst inSecond
  rfl

section Places

variable {placeOf : α → Path}
  (inside : ∀ path item, ∀ said ∈ about path item, path <+: placeOf said)
include inside

/-- What is said about the items of a list stands at one of them. -/
theorem exists_index_of_mem_eachItem {items : List Document} {start : Nat} :
    ∀ said ∈ eachItem about path start items,
      ∃ position, start ≤ position ∧ path.index position <+: placeOf said := by
  intro said member
  obtain ⟨position, item, _, among⟩ := mem_eachItem_iff.mp member
  exact ⟨start + position, Nat.le_add_right start position, inside _ item said among⟩

/-- What is said about the items of a list stands inside the list. -/
theorem inside_eachItem {start : Nat} {items : List Document} :
    ∀ said ∈ eachItem about path start items, path <+: placeOf said := by
  intro said member
  obtain ⟨position, _, within⟩ := exists_index_of_mem_eachItem inside said member
  exact (List.prefix_append _ _).trans within

/-- What is said about the items of a list stands at different places, if it does for each item. -/
theorem nodup_map_eachItem (each : ∀ path item, ((about path item).map placeOf).Nodup)
    (items : List Document) :
    ∀ start, ((eachItem about path start items).map placeOf).Nodup := by
  induction items with
  | nil => exact fun _ => List.nodup_nil
  | cons item rest ih =>
    intro start
    rw [eachItem, List.map_append, List.nodup_append']
    refine ⟨each _ item, ih (start + 1), fun place here later => ?_⟩
    obtain ⟨said, among, rfl⟩ := List.mem_map.mp here
    obtain ⟨other, behind, same⟩ := List.mem_map.mp later
    obtain ⟨position, after, inOther⟩ := exists_index_of_mem_eachItem inside other behind
    have equal := index_inj_of_prefix (inside _ item said among) (same ▸ inOther)
    omega

end Places

end PageAttributes.Grammar
