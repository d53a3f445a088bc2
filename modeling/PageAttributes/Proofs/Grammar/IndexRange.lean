/-
**The numbers in the index of a solution are all in use.**

Nothing is assumed about the shape of a document: parts that are not well shaped are left out of an
index, but what is in it refers to what is in it.

* `SolutionIndex.IsWellFormed` — the owners of references and the groups of attributes are listed;
* `isWellFormed_of_mem_solutionIndexes` — every index of a document is well-formed;
* `SolutionIndex.inRange_dependencies` — attributes depend on attributes that are listed;
* `SolutionIndex.guardedProblem`, `SolutionIndex.guardedCycle`, `SolutionIndex.guardedViolations` —
  names are compared as before, but this gives up as soon as a number is not in use;
* `SolutionIndex.guardedViolations_eq` — which never happens in a well-formed index;
* `SolutionIndex.safe_of_mem_solutionIndexes` — all of it for every index of a document.
-/

import PageAttributes.Grammar.References
import PageAttributes.Proofs.Grammar.Cycles
import PageAttributes.Proofs.Grammar.IndexPlaces
import PageAttributes.Proofs.Grammar.SearchRange

namespace PageAttributes.Grammar

/-! ### Looking up several items -/

section Lookup

variable {α β : Type} {items : List α} {lookup : α → Option β}

/-- If everything is found, so are all together. -/
theorem mapM_eq_filterMap (found : ∀ item ∈ items, (lookup item).isSome = true) :
    items.mapM lookup = some (items.filterMap lookup) := by
  induction items with
  | nil => rfl
  | cons item rest ih =>
    obtain ⟨here, others⟩ := List.forall_mem_cons.mp found
    obtain ⟨value, known⟩ := Option.isSome_iff_exists.mp here
    rw [List.mapM_cons, known, ih others, List.filterMap_cons_some known]
    rfl

/-- If everything is found in some way, so are all together. -/
theorem mapM_eq_map {value : α → β} (found : ∀ item ∈ items, lookup item = some (value item)) :
    items.mapM lookup = some (items.map value) := by
  have some_ : ∀ item ∈ items, (lookup item).isSome = true := fun item member => by
    rw [found item member, Option.isSome_some]
  rw [mapM_eq_filterMap some_, List.filterMap_congr found, List.filterMap_eq_map']

end Lookup

namespace SolutionIndex

variable {document : Document} {index : SolutionIndex}

/-! ### Numbers in use -/

/-- There is an attribute or a group of a number. -/
def HasOwner (index : SolutionIndex) : Owner → Prop
  | .attribute position => position < index.attributes.length
  | .group number => number < index.groups.length

/-- The owners of references and the groups of attributes are listed. -/
structure IsWellFormed (index : SolutionIndex) : Prop where
  owners : ∀ reference ∈ index.references, index.HasOwner reference.owner
  groups : ∀ entry ∈ index.attributes, ∀ number, entry.group = some number →
    number < index.groups.length

theorem lt_of_getElem? {α : Type} {items : List α} {position : Nat} {item : α}
    (listed : items[position]? = some item) : position < items.length :=
  (List.getElem?_eq_some_iff.mp listed).1

/-- What stands somewhere in a document has a number that is in use. -/
theorem Placed.isWellFormed (placed : Placed document index) : index.IsWellFormed := by
  refine ⟨fun reference member => ?_, fun entry member number inGroup => ?_⟩
  · have places := (placed.references reference member).2
    match reference.owner, places with
    | .attribute _, ⟨_, listed, _⟩ => exact lt_of_getElem? listed
    | .group _, ⟨_, listed, _⟩ => exact lt_of_getElem? listed
  · obtain ⟨_, _, listed, _⟩ := (placed.attributes entry member).inside number inGroup
    exact lt_of_getElem? listed

/-- **Every index of a document is well-formed**, whatever the document is. -/
theorem isWellFormed_of_mem_solutionIndexes (member : index ∈ solutionIndexes document) :
    index.IsWellFormed := by
  obtain ⟨path, fields, here, rfl⟩ := exists_of_mem_solutionIndexes index member
  exact (placed_ofFields here).isWellFormed

/-! ### Dependencies -/

theorem length_dependencies (index : SolutionIndex) :
    index.dependencies.length = index.attributes.length := List.length_mapIdx

theorem lt_of_position? {id : String} {position : Nat}
    (found : index.position? id = some position) : position < index.attributes.length :=
  (List.findIdx?_eq_some_iff_findIdx_eq.mp found).1

/-- What the conditions of an owner read is listed. -/
theorem lt_of_mem_targetsOf {owner : Owner} {target : Nat} (reads : target ∈ index.targetsOf owner) :
    target < index.attributes.length := by
  obtain ⟨reference, _, leads⟩ := List.mem_filterMap.mp reads
  unfold target? at leads
  split at leads
  · exact lt_of_position? leads
  · cases leads

/-- **Attributes depend on attributes that are listed.** -/
theorem inRange_dependencies (index : SolutionIndex) : InRange index.dependencies := by
  intro source target edge
  rw [length_dependencies]
  unfold Edge dependencies at edge
  rw [List.getElem?_mapIdx] at edge
  cases listed : index.attributes[source]? with
  | none =>
    rw [listed] at edge
    cases edge
  | some entry =>
    rw [listed, Option.map_some, Option.getD_some, dependenciesOf, List.mem_eraseDups,
      List.mem_append] at edge
    rcases edge with own | inherited
    · exact lt_of_mem_targetsOf own
    · split at inherited
      · exact lt_of_mem_targetsOf inherited
      · cases inherited

/-- The nodes of a cycle are listed. -/
theorem lt_of_mem_cycle {cycle : List Nat} (found : cycle ∈ findCycles index.dependencies)
    {node : Nat} (member : node ∈ cycle) : node < index.attributes.length := by
  obtain ⟨next, edge⟩ := (isCycle_of_mem_findCycles found).exists_edge member
  rw [← length_dependencies]
  by_contra outside
  unfold Edge at edge
  rw [List.getElem?_eq_none (by omega)] at edge
  cases edge

/-! ### Names are compared -/

/-- What is wrong with a reference, where every number has to be in use. -/
def guardedProblem (index : SolutionIndex) (reference : Reference) : Option (Option Reason) :=
  match index.position? reference.attributeId with
  | none => some (some (.unresolved reference.attributeId index.id))
  | some target =>
    match reference.owner with
    | .attribute owner => do
      let entry ← index.attributes[owner]?
      some (if entry.id = reference.attributeId then some (.selfReference reference.attributeId)
        else none)
    | .group owner => do
      let entry ← index.attributes[target]?
      if entry.group = some owner then
        let place ← index.groups[owner]?
        some (some (.memberReference reference.attributeId place))
      else some none

/-- The violation of a reference, where every number has to be in use. -/
def guardedReference (index : SolutionIndex) (reference : Reference) : Option (Option Violation) :=
  (index.guardedProblem reference).map fun problem =>
    problem.map fun reason => .because reference.path reason

/-- The violation of a cycle, which has to have a first node, and attributes for all its nodes. -/
def guardedCycle (index : SolutionIndex) (cycle : List Nat) : Option Violation := do
  let first ← cycle.head?
  let entries ← (cycle ++ [first]).mapM fun position => index.attributes[position]?
  let entry ← index.attributes[first]?
  some (.because (entry.path.field "conditions") (.cycle (entries.map AttributeEntry.id)))

/-- The violations of the cycles in a solution, if cycles are looked for. -/
def guardedCycles (index : SolutionIndex) (detectCycles : Bool) : Option (List Violation) :=
  if detectCycles then (guardedFindCycles index.dependencies).bind fun cycles =>
    cycles.mapM index.guardedCycle
  else some []

/-- The violations of the names in a solution. -/
def guardedViolations (index : SolutionIndex) (detectCycles : Bool) : Option (List Violation) := do
  let references ← index.references.mapM index.guardedReference
  let cycles ← index.guardedCycles detectCycles
  some (repeatedIds .script index.scripts
    ++ repeatedIds .attribute index.attributeIds
    ++ references.filterMap (fun violation => violation)
    ++ cycles)

/-- What is wrong with a reference of a listed owner is found without giving up. -/
theorem guardedProblem_eq {reference : Reference} (listed : index.HasOwner reference.owner) :
    index.guardedProblem reference = some (index.referenceProblem? reference) := by
  unfold guardedProblem referenceProblem?
  cases found : index.position? reference.attributeId with
  | none => rfl
  | some target =>
    match belongs : reference.owner with
    | .attribute owner =>
      rw [belongs] at listed
      have inside : owner < index.attributes.length := listed
      dsimp only
      rw [List.getElem?_eq_getElem inside, Option.map_some]
      simp only [Option.bind_eq_bind, Option.bind_some, Option.some.injEq]
    | .group owner =>
      rw [belongs] at listed
      have inside : owner < index.groups.length := listed
      dsimp only
      rw [List.getElem?_eq_getElem (lt_of_position? found), List.getElem?_eq_getElem inside]
      simp only [Option.bind_eq_bind, Option.bind_some, Option.getD_some]
      split <;> rfl

theorem guardedCycle_eq {cycle : List Nat} (found : cycle ∈ findCycles index.dependencies) :
    index.guardedCycle cycle = some (index.cycleViolation cycle) := by
  have listed := @lt_of_mem_cycle index cycle found
  obtain ⟨first, rest, rfl, _⟩ := isCycle_of_mem_findCycles found
  have inside : first < index.attributes.length := listed (.head _)
  have all : ∀ position ∈ first :: rest ++ [first], (index.attributes[position]?).isSome = true := by
    intro position member
    have among : position ∈ first :: rest := by
      rcases List.mem_append.mp member with among | again
      · exact among
      · exact List.mem_singleton.mp again ▸ List.mem_cons_self
    rw [List.getElem?_eq_getElem (listed among), Option.isSome_some]
  have here : index.attributes[first]? = some index.attributes[first] :=
    List.getElem?_eq_getElem inside
  unfold guardedCycle cycleViolation
  rw [List.head?_cons, List.take_succ_cons, List.take_zero]
  simp only [Option.bind_eq_bind, Option.bind_some]
  rw [mapM_eq_filterMap all, here, List.cons_append, List.filterMap_cons_some here]
  rfl

theorem guardedCycles_eq (index : SolutionIndex) (detectCycles : Bool) :
    index.guardedCycles detectCycles = some (if detectCycles then
      (findCycles index.dependencies).map index.cycleViolation else []) := by
  rw [guardedCycles, guardedFindCycles_eq index.inRange_dependencies, Option.bind_some,
    mapM_eq_map fun _ => guardedCycle_eq]
  split <;> rfl

/-- **The names of a well-formed index are compared without giving up.** -/
theorem guardedViolations_eq (wellFormed : index.IsWellFormed) (detectCycles : Bool) :
    index.guardedViolations detectCycles = some (index.violations detectCycles) := by
  have references : index.references.mapM index.guardedReference
      = some (index.references.map index.referenceViolation?) := by
    refine mapM_eq_map fun reference member => ?_
    rw [guardedReference, guardedProblem_eq (wellFormed.owners reference member)]
    rfl
  unfold guardedViolations violations
  rw [references, guardedCycles_eq]
  simp only [Option.bind_eq_bind, Option.bind_some, List.filterMap_map]
  rfl

/-- **Comparing the names in a document is safe**, whatever the document is: its indexes are
well-formed, their tables of dependencies lead to attributes only, nothing that is looked up is
missing, every cycle that is reported has a node, and the search finds on its stack whatever is in
progress. -/
theorem safe_of_mem_solutionIndexes (member : index ∈ solutionIndexes document)
    (detectCycles : Bool) :
    index.IsWellFormed
      ∧ index.dependencies.length = index.attributes.length ∧ InRange index.dependencies
      ∧ index.guardedViolations detectCycles = some (index.violations detectCycles)
      ∧ (∀ cycle ∈ findCycles index.dependencies, cycle ≠ [])
      ∧ ∀ steps search,
          Search.Moves index.dependencies steps (Search.initial index.dependencies) search →
            ∀ node, search.mark node = .inProgress → node ∈ search.nodes := by
  have wellFormed := isWellFormed_of_mem_solutionIndexes member
  refine ⟨wellFormed, length_dependencies index, inRange_dependencies index,
    guardedViolations_eq wellFormed detectCycles, fun cycle found => ?_,
    fun steps search moves node => Search.mem_nodes_of_moves moves⟩
  obtain ⟨first, rest, rfl, _⟩ := isCycle_of_mem_findCycles found
  exact List.cons_ne_nil first rest

/-- A page without a name, with a solution that is none. In the other one an entry of its attributes
and a member of its group are none, and an attribute with conditions has no id. The conditions of the
group read its own member. -/
def raggedPage : Document :=
  .record [("solutions", .list [.null, .record [("attributes", .list [
    .text "none",
    .record [("conditions", .list [.record [("attributeId", .text "wide"),
      ("type", .text "condition")]]), ("type", .text "attribute")],
    .record [
      ("attributes", .list [.null, .record [("id", .text "wide"), ("type", .text "attribute")]]),
      ("conditions", .list [.null, .record [("attributeId", .text "wide"),
        ("type", .text "condition")]]),
      ("type", .text "group")]])]])]

theorem safe_of_mem_solutionIndexes_raggedPage : ∃ index ∈ solutionIndexes raggedPage,
    index.references.map Reference.owner = [.group 0]
      ∧ index.attributes.map AttributeEntry.group = [some 0]
      ∧ index.IsWellFormed ∧ InRange index.dependencies
      ∧ index.guardedViolations true = some (index.violations true) := by
  have member : SolutionIndex.ofFields _ _ ∈ solutionIndexes raggedPage := List.mem_singleton_self _
  obtain ⟨wellFormed, _, inRange, same, _⟩ := safe_of_mem_solutionIndexes member true
  exact ⟨_, member, rfl, rfl, wellFormed, inRange, same⟩

end SolutionIndex

end PageAttributes.Grammar
