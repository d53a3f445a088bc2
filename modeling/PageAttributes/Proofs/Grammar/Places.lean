/-
**What the place of a violation has to do with the document.**

* `Located` — there is a value, except for a field that is missing from a record, and for the
  conditions in a cycle;
* `isThere_field`, `forall_mem_eachItem_field` — what is found in a record or a list is there if the
  record or the list is.
-/

import PageAttributes.Proofs.Document.Place
import PageAttributes.Proofs.Grammar.Items
import PageAttributes.Proofs.Grammar.Shape

namespace PageAttributes.Grammar

/-! ### Places -/

/-- There is a value at a place. -/
def IsThere (document : Document) (path : Path) : Prop := (document.at? path).isSome = true

/-- There is a record at a place, and it has a field. -/
def HasField (document : Document) (place : Path) (key : String) : Prop :=
  ∃ fields, document.at? place = some (.record fields) ∧ (fields.lookup key).isSome = true

/-- There is a record around a place, but not the field that the place ends with. -/
def IsMissing (document : Document) (path : Path) : Prop :=
  ∃ place key fields, path = place.field key ∧ document.at? place = some (.record fields)
    ∧ fields.lookup key = none

/-- The place of the conditions of an attribute, which has some of its own or stands in a group with
some. -/
def IsConditioned (document : Document) (path : Path) : Prop :=
  ∃ place fields, path = place.field "conditions" ∧ document.at? place = some (.record fields)
    ∧ (HasField document place "conditions"
      ∨ ∃ group position, place = (Path.field group "attributes").index position
        ∧ HasField document group "conditions")

/-- What the place of a violation has to do with a document. A missing field is missing there, a
cycle is reported at the conditions of an attribute, and else there is a value. -/
def Located (document : Document) (violation : Violation) : Prop :=
  match violation.reason with
  | .missingField => IsMissing document violation.path
  | .cycle _ => IsConditioned document violation.path
  | _ => IsThere document violation.path

/-- Some violations point at something, each of them. -/
def AllLocated (document : Document) (violations : List Violation) : Prop :=
  ∀ violation ∈ violations, Located document violation

variable {document : Document} {path : Path} {fields : Fields} {key : String} {strict : Bool}

theorem allLocated_nil : AllLocated document [] := List.forall_mem_nil _

theorem allLocated_singleton {violation : Violation} (located : Located document violation) :
    AllLocated document [violation] := List.forall_mem_singleton.mpr located

theorem allLocated_append {first second : List Violation} :
    AllLocated document (first ++ second)
      ↔ AllLocated document first ∧ AllLocated document second := List.forall_mem_append

theorem AllLocated.append {first second : List Violation} (located : AllLocated document first)
    (others : AllLocated document second) : AllLocated document (first ++ second) :=
  allLocated_append.mpr ⟨located, others⟩

theorem isThere_of_at? {found : Document} (here : document.at? path = some found) :
    IsThere document path := by
  rw [IsThere, here]
  rfl

/-! ### Fields of a record -/

section Fields

variable (here : document.at? path = some (.record fields))
include here

/-- What is found under a key is there. -/
theorem isThere_field {value : Document} (found : fields.lookup key = some value) :
    IsThere document (path.field key) :=
  isThere_of_at? ((Document.at?_field here key).trans found)

/-- A text under a key is there. -/
theorem isThere_text {value : String} (text : textOf? fields key = some value) :
    IsThere document (path.field key) :=
  isThere_field here (textOf?_eq_some_iff.mp text)

end Fields

/-! ### Items of a list -/

/-- The items under a key are those of a list there, or there are none. -/
theorem at?_listOf (here : document.at? path = some (.record fields)) (key : String) :
    listOf fields key = []
      ∨ document.at? (path.field key) = some (.list ([] ++ listOf fields key)) := by
  unfold listOf
  split
  · rename_i items listed
    exact Or.inr ((Document.at?_field here key).trans listed)
  · exact Or.inl rfl

/-- What is said about the items under a key. -/
theorem forall_mem_eachItem_field {α : Type} {fits : α → Prop} {about : Path → Document → List α}
    (here : document.at? path = some (.record fields))
    (each : ∀ path item, document.at? path = some item → ∀ said ∈ about path item, fits said) :
    ∀ said ∈ eachItem about (path.field key) 0 (listOf fields key), fits said := by
  intro said member
  obtain ⟨position, item, there, among⟩ := mem_eachItem_iff.mp member
  rw [Nat.zero_add] at among
  rcases at?_listOf here key with nothing | listed
  · rw [nothing] at there
    cases there
  · exact each _ item ((Document.at?_index listed position).trans there) said among

end PageAttributes.Grammar
