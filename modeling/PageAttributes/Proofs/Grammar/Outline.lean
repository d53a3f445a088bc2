/-
**The outline of a solution: what its conditions read.**

An outline lists the attributes of a solution in declaration order, each with its id, the number of
its group and the ids that its own conditions read, and for every group the ids that its conditions
read. Of a document it is found without places, depths or owners.

* `Outline.Sound` — ids are unique, and every condition reads an attribute of the solution that is
  neither the one it belongs to nor a member of the group it belongs to;
* `Outline.Reads`, `Outline.Acyclic` — an attribute reads what its own conditions and those of its
  group read, and no attribute reads itself over others;
* `Outline.ofFields` — the outline of a solution in a document.
-/

import Mathlib.Logic.Relation
import PageAttributes.Grammar.Fields
import PageAttributes.Proofs.Document.Lookup

namespace PageAttributes.Grammar

/-- An attribute, as the conditions of its solution see it. -/
structure Declaration where
  id : String
  /-- The number of the group it stands in. -/
  group : Option Nat
  /-- The ids that its own conditions read. -/
  reads : List String

/-- The attributes of a solution, and what the conditions of each of its groups read. -/
structure Outline where
  attributes : List Declaration
  groups : List (List String)

namespace Outline

/-- The ids of the attributes. -/
def ids (outline : Outline) : List String := outline.attributes.map Declaration.id

/-- The ids that the conditions of a group read; outside of all groups there are none. -/
def groupReads (outline : Outline) : Option Nat → List String
  | some number => (outline.groups[number]?).getD []
  | none => []

/-- What every condition reads is an attribute that it may read. -/
structure Sound (outline : Outline) : Prop where
  unique : outline.ids.Nodup
  own : ∀ declared ∈ outline.attributes, ∀ id ∈ declared.reads,
    id ∈ outline.ids ∧ id ≠ declared.id
  gathered : ∀ number : Nat, ∀ id ∈ outline.groupReads (some number),
    id ∈ outline.ids ∧ ∀ declared ∈ outline.attributes, declared.group = some number →
      id ≠ declared.id

/-- The conditions of an attribute or those of its group read another attribute. -/
def Reads (outline : Outline) (reader id : String) : Prop :=
  ∃ declared ∈ outline.attributes, declared.id = reader ∧
    (id ∈ declared.reads ∨ id ∈ outline.groupReads declared.group)

/-- No attribute reads itself over others. -/
def Acyclic (outline : Outline) : Prop := ∀ id, ¬ Relation.TransGen outline.Reads id id

end Outline

/-! ### Documents -/

mutual

/-- The ids that the leaves of a condition name, in their order. -/
def leafIds : Document → List String
  | .record fields =>
    match textOf? fields "type" with
    | some "condition" => (textOf? fields "attributeId").toList
    | some "group" => leafIdsUnder fields
    | _ => []
  | _ => []

/-- The ids that the leaves of the members of a group name. -/
def leafIdsUnder : List (String × Document) → List String
  | [] => []
  | (key, value) :: rest => if key = "conditions" then leafIdsOf value else leafIdsUnder rest

/-- The ids that the leaves of some listed conditions name. -/
def leafIdsOf : Document → List String
  | .list items => leafIdsOfEach items
  | _ => []

/-- The ids that the leaves of some conditions name, one condition after another. -/
def leafIdsOfEach : List Document → List String
  | [] => []
  | item :: rest => leafIds item ++ leafIdsOfEach rest

end

theorem leafIdsUnder_eq (fields : Fields) :
    leafIdsUnder fields = ((fields.lookup "conditions").map leafIdsOf).getD [] := by
  induction fields with
  | nil => rw [leafIdsUnder, List.lookup_nil]; rfl
  | cons field rest ih =>
    obtain ⟨key, value⟩ := field
    rw [leafIdsUnder, lookup_field, ih]
    split <;> rfl

theorem leafIdsOfEach_eq (items : List Document) : leafIdsOfEach items = items.flatMap leafIds := by
  induction items with
  | nil => rw [leafIdsOfEach, List.flatMap_nil]
  | cons item rest ih => rw [leafIdsOfEach, List.flatMap_cons, ih]

/-- The ids that the conditions of an attribute or a group read. -/
def readsOf (fields : Fields) : List String := leafIdsOfEach (listOf fields "conditions")

/-- An attribute with an id, as the conditions of its solution see it. -/
def declarationOf (group : Option Nat) (fields : Fields) : List Declaration :=
  match textOf? fields "id" with
  | some id => [⟨id, group, readsOf fields⟩]
  | none => []

/-- A member of a group, if it is an attribute. -/
def memberDeclaration (group : Nat) : Document → List Declaration
  | .record fields =>
    if textOf? fields "type" = some "attribute" then declarationOf (some group) fields else []
  | _ => []

/-- The attributes among some entries, of which the first group has the number `group`. -/
def declarations (group : Nat) : List Document → List Declaration
  | [] => []
  | .record fields :: rest =>
    match textOf? fields "type" with
    | some "attribute" => declarationOf none fields ++ declarations group rest
    | some "group" =>
      (listOf fields "attributes").flatMap (memberDeclaration group)
        ++ declarations (group + 1) rest
    | _ => declarations group rest
  | _ :: rest => declarations group rest

/-- What the conditions of every group among some entries read. -/
def gatheredReads : List Document → List (List String)
  | [] => []
  | .record fields :: rest =>
    if textOf? fields "type" = some "group" then readsOf fields :: gatheredReads rest
    else gatheredReads rest
  | _ :: rest => gatheredReads rest

/-- The outline of a solution in a document. -/
def Outline.ofFields (fields : Fields) : Outline :=
  ⟨declarations 0 (listOf fields "attributes"), gatheredReads (listOf fields "attributes")⟩

end PageAttributes.Grammar
