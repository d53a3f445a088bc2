/-
**The attributes and groups of a solution, numbered.**

A catalog numbers the attributes and the groups of a solution in declaration order. An id stands for
the first attribute that declares it.

* `Catalog.ofSolution` — the catalog of a solution;
* `Catalog.position?` — the number of an id.
-/

import PageAttributes.Schema.Basic

namespace PageAttributes

/-- An attribute or a group, by its number. -/
inductive Node where
  | attribute (position : Nat)
  | group (position : Nat)
deriving DecidableEq, Repr

/-- The attributes and groups of a solution; an attribute comes with the number of its group. -/
structure Catalog where
  attributes : List (Option Nat × Attribute)
  groups : List AttributeGroup

namespace Catalog

/-- The attributes of some entries, of which the first group has the number `position`. -/
def numbered (position : Nat) : List AttributeNode → List (Option Nat × Attribute)
  | [] => []
  | .single declared :: rest => (none, declared) :: numbered position rest
  | .group gathered :: rest =>
    (gathered.attributes.map fun declared => (some position, declared))
      ++ numbered (position + 1) rest

/-- The catalog of a solution. -/
def ofSolution (solution : Solution) : Catalog :=
  ⟨numbered 0 solution.attributes, solution.groups⟩

/-- The number of the first attribute with an id. -/
def position? (catalog : Catalog) (id : String) : Option Nat :=
  catalog.attributes.findIdx? fun entry => entry.2.id == id

/-- The name of an attribute or a group in an error. -/
def label (catalog : Catalog) : Node → String
  | .attribute position => ((catalog.attributes[position]?).map fun entry => entry.2.id).getD ""
  | .group position =>
    "group '" ++ ((catalog.groups[position]?).map fun group => group.name).getD "" ++ "'"

/-- The first attribute with an id. -/
def attribute? (catalog : Catalog) (id : String) : Option Attribute :=
  (catalog.position? id).bind fun position => (catalog.attributes[position]?).map Prod.snd

/-- The first group with a name. -/
def group? (catalog : Catalog) (name : String) : Option AttributeGroup :=
  catalog.groups.find? fun group => group.name == name

end Catalog

end PageAttributes
