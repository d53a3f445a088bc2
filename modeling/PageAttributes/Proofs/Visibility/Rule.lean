/-
**When an attribute or a group applies.**

Said without any order of decisions: given which nodes apply, a node should apply if its group does,
its kinds of nodes admit it, and its conditions hold where only attributes that apply have a value.

* `admits_iff` — whether a kind of node is admitted, as membership;
* `Catalog.seen` — the values of the attributes that apply;
* `Catalog.applies` — whether a node should apply;
* `Catalog.IsFixed` — all nodes apply that should, and no others.
-/

import PageAttributes.Proofs.Visibility.Dependency
import PageAttributes.Visibility.Resolver

namespace PageAttributes

/-- Which nodes apply. -/
abbrev Valuation := Node → Bool

/-- A kind is admitted unless kinds are given and it is not among them. -/
theorem admits_iff {allowed : Option (List NodeType)} {kind : Option NodeType} :
    admits allowed kind = true
      ↔ ∀ kinds, allowed = some kinds → ∀ asked, kind = some asked → asked ∈ kinds := by
  cases allowed with
  | none => simp [admits]
  | some kinds => cases kind <;> simp [admits]

/-- Restrictions are met, where conditions see some values. -/
def restrictionsMet (seen : Assignment) (nodeTypes : Option (List NodeType))
    (conditions : Option (List Condition)) (kind : Option NodeType) : Bool :=
  admits nodeTypes kind && Condition.listHolds seen conditions

namespace Catalog

variable {catalog : Catalog} {assignment : Assignment} {kind : Option NodeType}

/-- An id is that of an attribute that applies. -/
def isSeen (catalog : Catalog) (valuation : Valuation) (id : String) : Bool :=
  (catalog.position? id).any fun position => valuation (.attribute position)

/-- The values of the attributes that apply. -/
def seen (catalog : Catalog) (assignment : Assignment) (valuation : Valuation) : Assignment :=
  ⟨assignment.values.filter fun entry => catalog.isSeen valuation entry.1⟩

theorem get?_seen (catalog : Catalog) (assignment : Assignment) (valuation : Valuation)
    (id : String) :
    (catalog.seen assignment valuation).get? id
      = if catalog.isSeen valuation id then assignment.get? id else none :=
  lookup_filter (catalog.isSeen valuation) id assignment.values

/-- Whether a node should apply. -/
def applies (catalog : Catalog) (assignment : Assignment) (kind : Option NodeType)
    (valuation : Valuation) : Node → Bool
  | .attribute position => (catalog.attributes[position]?).any fun entry =>
      entry.1.all (fun number => valuation (.group number))
        && restrictionsMet (catalog.seen assignment valuation) entry.2.nodeTypes entry.2.conditions
          kind
  | .group number => (catalog.groups[number]?).any fun gathered =>
      restrictionsMet (catalog.seen assignment valuation) gathered.nodeTypes gathered.conditions
        kind

theorem applies_group_iff {valuation : Valuation} {number : Nat} :
    catalog.applies assignment kind valuation (.group number) = true
      ↔ ∃ gathered, catalog.groups[number]? = some gathered ∧
          admits gathered.nodeTypes kind = true ∧
          Condition.listHolds (catalog.seen assignment valuation) gathered.conditions = true := by
  simp only [applies, restrictionsMet, Option.any_eq_true, Bool.and_eq_true]

theorem applies_attribute_iff {valuation : Valuation} {position : Nat} :
    catalog.applies assignment kind valuation (.attribute position) = true
      ↔ ∃ group declared, catalog.attributes[position]? = some (group, declared) ∧
          (∀ number, group = some number → valuation (.group number) = true) ∧
          admits declared.nodeTypes kind = true ∧
          Condition.listHolds (catalog.seen assignment valuation) declared.conditions = true := by
  simp only [applies, restrictionsMet, Option.any_eq_true, Bool.and_eq_true, Prod.exists,
    Option.all_eq_true]

/-- Nothing applies that a catalog does not have. -/
theorem applies_of_not_has {valuation : Valuation} {node : Node} (unknown : ¬ catalog.Has node) :
    catalog.applies assignment kind valuation node = false := by
  match node with
  | .attribute position =>
    rw [applies, List.getElem?_eq_none (Nat.le_of_not_lt unknown), Option.any_none]
  | .group number =>
    rw [applies, List.getElem?_eq_none (Nat.le_of_not_lt unknown), Option.any_none]

/-- All nodes apply that should, and no others. -/
def IsFixed (catalog : Catalog) (assignment : Assignment) (kind : Option NodeType)
    (valuation : Valuation) : Prop :=
  ∀ node, catalog.Has node → catalog.applies assignment kind valuation node = valuation node

end Catalog

end PageAttributes
