/-
**The records whose names are compared.**

The parts of a document that have a name, found without a check of their shape: a part counts as
soon as it is a record and its type is the right text.

* `Site`, `Site.under` — a record with its place, and the records in a list of it;
* `solutions`, `Site.attributes` — the solutions of a document, and the attributes of a solution, in
  the order in which they are written;
* `dropdowns` — the attributes that offer choices;
* `flatMap_under` — what is said about the records of a list, one after another;
* `nodup_map_under`, `nodup_map_attributes`, `nodup_map_solutions` — what is said about different
  records, attributes or solutions stands at different places.
-/

import PageAttributes.Grammar.Structure
import PageAttributes.Proofs.Grammar.Items

namespace PageAttributes.Grammar

/-! ### Records with their places -/

/-- A record of a document, with its place. -/
structure Site where
  place : Path
  fields : Fields

namespace Site

/-- What is at a place, if it is a record. -/
def ofDocument (place : Path) : Document → List Site
  | .record fields => [⟨place, fields⟩]
  | _ => []

/-- The records in the list under a key. -/
def under (site : Site) (key : String) : List Site :=
  eachItem ofDocument (site.place.field key) 0 (listOf site.fields key)

/-- The text under a key, with its place. -/
def textAt (site : Site) (key : String) : List (String × Path) :=
  (textOf? site.fields key).toList.map fun value => (value, site.place.field key)

/-- The type of a record has a name. -/
def isOfType (site : Site) (name : String) : Bool := textOf? site.fields "type" == some name

end Site

/-! ### Solutions and attributes -/

/-- An attribute of a solution, with the place of the group it stands in. -/
structure Declared where
  site : Site
  group : Option Path

/-- The id of an attribute. -/
def Declared.id? (declared : Declared) : Option String := textOf? declared.site.fields "id"

/-- The members of a group that are attributes. -/
def Site.members (node : Site) : List Site :=
  (node.under "attributes").filter fun member => member.isOfType "attribute"

/-- The attributes in an entry of an attribute list: itself, or the members of a group. -/
def declaredIn (node : Site) : List Declared :=
  if node.isOfType "attribute" then [⟨node, none⟩]
  else if node.isOfType "group" then node.members.map fun member => ⟨member, some node.place⟩
  else []

theorem declaredIn_of_attribute {node : Site}
    (isAttribute : textOf? node.fields "type" = some "attribute") :
    declaredIn node = [⟨node, none⟩] := by
  simp [declaredIn, Site.isOfType, isAttribute]

theorem declaredIn_of_group {node : Site} (isGroup : textOf? node.fields "type" = some "group") :
    declaredIn node = node.members.map fun member => ⟨member, some node.place⟩ := by
  simp [declaredIn, Site.isOfType, isGroup]

/-- The attributes of a solution, those in its groups among them. -/
def Site.attributes (solution : Site) : List Declared :=
  (solution.under "attributes").flatMap declaredIn

/-- An attribute is a dropdown. -/
def Site.isDropdown (site : Site) : Bool :=
  textOf? site.fields "optionsType" == some InputKind.dropdown.name

/-- The dropdowns among some attributes. -/
def dropdowns (declared : List Declared) : List Site :=
  (declared.map Declared.site).filter Site.isDropdown

/-- The solutions of a document. -/
def solutions (document : Document) : List Site :=
  (Site.ofDocument .root document).flatMap fun schema => schema.under "solutions"

/-! ### Lists of records -/

/-- What is said about the kept items of a list. -/
theorem flatMap_filter {α β : Type} (kept : α → Bool) (about : α → List β) (items : List α) :
    (items.filter kept).flatMap about
      = items.flatMap fun item => if kept item then about item else [] := by
  induction items with
  | nil => rfl
  | cons item rest ih =>
    rw [List.filter_cons, List.flatMap_cons]
    split
    · rw [List.flatMap_cons, ih]
    · exact ih

/-- What is said about the members of a group. -/
theorem flatMap_members {α : Type} (node : Site) (about : Declared → List α) :
    (node.members.map fun member => ⟨member, some node.place⟩).flatMap about
      = (node.under "attributes").flatMap fun member =>
          if member.isOfType "attribute" then about ⟨member, some node.place⟩ else [] := by
  rw [List.flatMap_map, Site.members, flatMap_filter]

/-- What is said about the records in a list is said about its items. -/
theorem flatMap_under {α : Type} (site : Site) (key : String) (about : Site → List α) :
    (site.under key).flatMap about
      = eachItem (fun place item => (Site.ofDocument place item).flatMap about)
          (site.place.field key) 0 (listOf site.fields key) :=
  flatMap_eachItem _ 0 _

/-! ### Places of what is said -/

section Places

variable {α : Type} {about : Site → List α} {placeOf : α → Path}
  (inside : ∀ site, ∀ said ∈ about site, site.place <+: placeOf said)
include inside

/-- What is said about the record at a place stands inside of it. -/
theorem inside_ofDocument (path : Path) (item : Document) :
    ∀ said ∈ (Site.ofDocument path item).flatMap about, path <+: placeOf said := by
  cases item with
  | record fields =>
    rw [Site.ofDocument, List.flatMap_singleton]
    exact inside ⟨path, fields⟩
  | _ => exact List.forall_mem_nil _

/-- What is said about the records in a list stands inside the list. -/
theorem inside_under (site : Site) (key : String) :
    ∀ said ∈ (site.under key).flatMap about, site.place.field key <+: placeOf said := by
  rw [flatMap_under]
  exact inside_eachItem (inside_ofDocument inside)

/-- What is said about the records in a list stands at different places, if it does for each
record. -/
theorem nodup_map_under (each : ∀ site, ((about site).map placeOf).Nodup) (site : Site)
    (key : String) : (((site.under key).flatMap about).map placeOf).Nodup := by
  rw [flatMap_under]
  refine nodup_map_eachItem (inside_ofDocument inside) (fun path item => ?_) _ 0
  cases item with
  | record fields =>
    rw [Site.ofDocument, List.flatMap_singleton]
    exact each ⟨path, fields⟩
  | _ => exact List.nodup_nil

end Places

section Attributes

variable {α : Type} {about : Declared → List α} {placeOf : α → Path}
  (inside : ∀ declared, ∀ said ∈ about declared, declared.site.place <+: placeOf said)
include inside

theorem inside_member (group : Path) (member : Site) :
    ∀ said ∈ if member.isOfType "attribute" then about ⟨member, some group⟩ else [],
      member.place <+: placeOf said := by
  split
  · exact inside ⟨member, some group⟩
  · exact List.forall_mem_nil _

/-- What is said about the members of a group stands inside their list. -/
theorem inside_members (node : Site) :
    ∀ said ∈ (node.members.map fun member => ⟨member, some node.place⟩).flatMap about,
      node.place.field "attributes" <+: placeOf said := by
  rw [flatMap_members]
  exact inside_under (inside_member inside node.place) node "attributes"

theorem inside_declaredIn (node : Site) :
    ∀ said ∈ (declaredIn node).flatMap about, node.place <+: placeOf said := by
  unfold declaredIn
  split
  · rw [List.flatMap_singleton]
    exact inside ⟨node, none⟩
  · split
    · exact fun said among => (List.prefix_append _ _).trans (inside_members inside node said among)
    · exact List.forall_mem_nil _

variable (each : ∀ declared, ((about declared).map placeOf).Nodup)
include each

/-- What is said about the members of a group stands at different places. -/
theorem nodup_map_members (node : Site) :
    (((node.members.map fun member => ⟨member, some node.place⟩).flatMap about).map
      placeOf).Nodup := by
  rw [flatMap_members]
  refine nodup_map_under (inside_member inside node.place) (fun member => ?_) node "attributes"
  split
  · exact each ⟨member, some node.place⟩
  · exact List.nodup_nil

theorem nodup_map_declaredIn (node : Site) :
    (((declaredIn node).flatMap about).map placeOf).Nodup := by
  unfold declaredIn
  split
  · rw [List.flatMap_singleton]
    exact each ⟨node, none⟩
  · split
    · exact nodup_map_members inside each node
    · exact List.nodup_nil

/-- What is said about the attributes of a solution stands at different places. -/
theorem nodup_map_attributes (solution : Site) :
    ((solution.attributes.flatMap about).map placeOf).Nodup := by
  rw [Site.attributes, List.flatMap_assoc]
  exact nodup_map_under (inside_declaredIn inside) (nodup_map_declaredIn inside each) solution _

end Attributes

/-- What is said about the solutions of a document stands at different places, if it does for each
solution. -/
theorem nodup_map_solutions {α : Type} {about : Site → List α} {placeOf : α → Path}
    (inside : ∀ site, ∀ said ∈ about site, site.place <+: placeOf said)
    (each : ∀ site, ((about site).map placeOf).Nodup) (document : Document) :
    (((solutions document).flatMap about).map placeOf).Nodup := by
  unfold solutions
  cases document with
  | record fields =>
    rw [Site.ofDocument, List.flatMap_singleton]
    exact nodup_map_under inside each ⟨.root, fields⟩ "solutions"
  | _ => exact List.nodup_nil

end PageAttributes.Grammar
