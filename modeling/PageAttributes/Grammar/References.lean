/-
**Names across a document.**

Once the shape of a document has been looked at, its names are compared: ids must be unique in their
scope, every reference must lead to an attribute of its own solution that it may read, and the
attributes must not depend on each other in a cycle. Of several attributes with one id the first is
the one that is referred to.

* `repeatedIds` — the ids that were used before;
* `referenceViolation?` — what is wrong with a reference;
* `dependencies` — the attributes that every attribute reads, in its own conditions and those of its
  group;
* `crossViolations` — all of this for a whole document.
-/

import PageAttributes.Grammar.Cycles
import PageAttributes.Grammar.Index

namespace PageAttributes.Grammar

/-! ### Unique ids -/

/-- The ids that were used before; `seen` holds those so far. -/
def repeatedAfter (scope : IdScope) (seen : List (String × Path)) :
    List (String × Path) → List Violation
  | [] => []
  | (id, path) :: rest =>
    match seen.lookup id with
    | some first => .because path (.repeatedId scope id first) :: repeatedAfter scope seen rest
    | none => repeatedAfter scope (seen ++ [(id, path)]) rest

/-- The ids that were used before. -/
def repeatedIds (scope : IdScope) (entries : List (String × Path)) : List Violation :=
  repeatedAfter scope [] entries

namespace SolutionIndex

/-! ### References -/

/-- The number of the first attribute with an id. -/
def position? (index : SolutionIndex) (id : String) : Option Nat :=
  index.attributes.findIdx? fun entry => entry.id == id

/-- The ids of the attributes, with their places. -/
def attributeIds (index : SolutionIndex) : List (String × Path) :=
  index.attributes.map fun entry => (entry.id, entry.path.field "id")

/-- What is wrong with a reference: it leads nowhere, to its own attribute, or into its own
group. -/
def referenceProblem? (index : SolutionIndex) (reference : Reference) : Option Reason :=
  match index.position? reference.attributeId with
  | none => some (.unresolved reference.attributeId index.id)
  | some target =>
    match reference.owner with
    | .attribute owner =>
      if (index.attributes[owner]?).map AttributeEntry.id = some reference.attributeId then
        some (.selfReference reference.attributeId)
      else none
    | .group owner =>
      if (index.attributes[target]?).bind AttributeEntry.group = some owner then
        some (.memberReference reference.attributeId ((index.groups[owner]?).getD .root))
      else none

/-- The violation of a reference. -/
def referenceViolation? (index : SolutionIndex) (reference : Reference) : Option Violation :=
  (index.referenceProblem? reference).map fun reason => .because reference.path reason

/-! ### Dependencies -/

/-- The attribute that a reference leads to, if nothing is wrong with it. -/
def target? (index : SolutionIndex) (reference : Reference) : Option Nat :=
  if (index.referenceProblem? reference).isNone then index.position? reference.attributeId
  else none

/-- The attributes that the conditions of an owner read. -/
def targetsOf (index : SolutionIndex) (owner : Owner) : List Nat :=
  (index.references.filter fun reference => reference.owner == owner).filterMap index.target?

/-- The attributes that an attribute reads, in its own conditions and those of its group. -/
def dependenciesOf (index : SolutionIndex) (position : Nat) (entry : AttributeEntry) : List Nat :=
  let inherited := match entry.group with
    | some group => index.targetsOf (.group group)
    | none => []
  (index.targetsOf (.attribute position) ++ inherited).eraseDups

/-- The attributes that every attribute reads. -/
def dependencies (index : SolutionIndex) : EdgeTable :=
  index.attributes.mapIdx fun position entry => index.dependenciesOf position entry

/-- The violation of a cycle, at the conditions of its first member. -/
def cycleViolation (index : SolutionIndex) (cycle : List Nat) : Violation :=
  let entries := (cycle ++ cycle.take 1).filterMap fun position => index.attributes[position]?
  let place := (entries.head?.map AttributeEntry.path).getD .root
  .because (place.field "conditions") (.cycle (entries.map AttributeEntry.id))

/-- The violations of the names in a solution. -/
def violations (index : SolutionIndex) (detectCycles : Bool) : List Violation :=
  repeatedIds .script index.scripts
    ++ repeatedIds .attribute index.attributeIds
    ++ index.references.filterMap index.referenceViolation?
    ++ (if detectCycles then (findCycles index.dependencies).map index.cycleViolation else [])

end SolutionIndex

/-- The violations of the names in a document. -/
def crossViolations (detectCycles : Bool) (document : Document) : List Violation :=
  repeatedIds .solution (solutionIds document)
    ++ (solutionIndexes document).flatMap fun index => index.violations detectCycles

end PageAttributes.Grammar
