/-
**Everything in the index of a solution stands inside the solution.**

* `inside_referencesOf` — the references in conditions;
* `SolutionIndex.Within` — ids, attributes and references stand inside some place, and still do when
  an index grows;
* `SolutionIndex.inside_violations` — so does what is wrong with the names in a solution.
-/

import PageAttributes.Proofs.Grammar.Findings

namespace PageAttributes.Grammar

variable {place path : Path} {fields : Fields}

/-! ### References -/

/-- The references in a condition stand inside of it. -/
theorem inside_referencesIn (levels : Nat) :
    ∀ depth, Condition.depthLimit + 1 - depth = levels → ∀ path item,
      ∀ reference ∈ referencesIn depth path item, path <+: reference.2 := by
  induction levels with
  | zero =>
    intro depth left path item
    rw [referencesIn_deep (by omega)]
    exact List.forall_mem_nil _
  | succ levels ih =>
    intro depth left path item
    have notDeep : ¬ Condition.depthLimit < depth := by omega
    cases item with
    | record fields =>
      rw [referencesIn, if_neg notDeep]
      split
      · unfold leafReference
        split
        · exact List.forall_mem_singleton.mpr (List.prefix_append _ _)
        · exact List.forall_mem_nil _
      · intro reference member
        rw [referencesInField_eq_eachItem] at member
        have inside := inside_eachItem (ih (depth + 1) (by omega)) reference member
        exact (List.prefix_append _ _).trans inside
      · exact List.forall_mem_nil _
    | _ => exact List.forall_mem_nil _

/-- The references of an attribute or a group stand inside its conditions. -/
theorem inside_referencesOf (fields : Fields) (path : Path) :
    ∀ reference ∈ referencesOf fields path, path.field "conditions" <+: reference.2 := by
  intro reference member
  rw [referencesOf, referencesInEach_eq] at member
  have each := inside_referencesIn Condition.depthLimit 1 (by omega)
  exact inside_eachItem each reference member

namespace SolutionIndex

/-! ### Indexes -/

/-- Ids, attributes and references of an index stand inside some place. -/
structure Within (place : Path) (index : SolutionIndex) : Prop where
  scripts : ∀ script ∈ index.scripts, place <+: script.2
  attributes : ∀ entry ∈ index.attributes, place <+: entry.path
  references : ∀ reference ∈ index.references, place <+: reference.path

variable {index : SolutionIndex}

theorem inside_ownedBy (owner : Owner) (fields : Fields) (inside : place <+: path) :
    ∀ reference ∈ ownedBy owner (referencesOf fields path), place <+: reference.path :=
  List.forall_mem_map.mpr fun reference member => inside.trans <|
    (List.prefix_append _ _).trans (inside_referencesOf fields path reference member)

theorem Within.addAttribute (within : Within place index) (group : Option Nat)
    (inside : place <+: path) (fields : Fields) :
    Within place (index.addAttribute group path fields) := by
  unfold SolutionIndex.addAttribute
  split
  · refine ⟨within.scripts, ?_, ?_⟩
    · exact List.forall_mem_append.mpr ⟨within.attributes, List.forall_mem_singleton.mpr inside⟩
    · exact List.forall_mem_append.mpr ⟨within.references, inside_ownedBy _ fields inside⟩
  · exact within

theorem Within.addMember (within : Within place index) (group : Nat) (inside : place <+: path)
    (item : Document) : Within place (index.addMember group path item) := by
  unfold SolutionIndex.addMember
  split
  · split
    · exact within.addAttribute (some group) inside _
    · exact within
  · exact within

theorem Within.addMembers (group : Nat) (inside : place <+: path) (items : List Document) :
    ∀ {index : SolutionIndex}, Within place index → ∀ position,
      Within place (index.addMembers group path position items) := by
  induction items with
  | nil => exact fun within _ => within
  | cons item rest ih =>
    intro index within position
    have here : place <+: path.index position := inside.trans (List.prefix_append _ _)
    exact ih (within.addMember group here item) (position + 1)

theorem Within.addGroup (within : Within place index) (inside : place <+: path) (fields : Fields) :
    Within place (index.addGroup path fields) := by
  have opened : Within place { index with groups := index.groups ++ [path] } :=
    ⟨within.scripts, within.attributes, within.references⟩
  have here : place <+: path.field "attributes" := inside.trans (List.prefix_append _ _)
  have members := Within.addMembers index.groups.length here (listOf fields "attributes") opened 0
  refine ⟨members.scripts, members.attributes, ?_⟩
  exact List.forall_mem_append.mpr ⟨members.references, inside_ownedBy _ fields inside⟩

theorem Within.addNode (within : Within place index) (inside : place <+: path) (item : Document) :
    Within place (index.addNode path item) := by
  unfold SolutionIndex.addNode
  split
  · split
    · exact within.addAttribute none inside _
    · exact within.addGroup inside _
    · exact within
  · exact within

theorem Within.addNodes (inside : place <+: path) (items : List Document) :
    ∀ {index : SolutionIndex}, Within place index → ∀ position,
      Within place (index.addNodes path position items) := by
  induction items with
  | nil => exact fun within _ => within
  | cons item rest ih =>
    intro index within position
    have here : place <+: path.index position := inside.trans (List.prefix_append _ _)
    exact ih (within.addNode here item) (position + 1)

/-- Everything in the index of a solution stands inside the solution. -/
theorem within_ofFields (path : Path) (fields : Fields) : Within path (ofFields path fields) := by
  unfold ofFields
  refine Within.addNodes (List.prefix_append _ _) _
    ⟨?_, List.forall_mem_nil _, List.forall_mem_nil _⟩ 0
  have each : ∀ path item, ∀ script ∈ scriptId path item, path <+: script.2 := by
    intro path item
    unfold scriptId
    split
    · split
      · exact List.forall_mem_singleton.mpr (List.prefix_append _ _)
      · exact List.forall_mem_nil _
    · exact List.forall_mem_nil _
  intro script member
  exact (List.prefix_append _ _).trans (inside_eachItem each script member)

/-! ### Violations -/

/-- What is wrong with the names of an index stands where they do. -/
theorem Within.inside_violations (within : Within place index) (detectCycles : Bool) :
    ∀ violation ∈ index.violations detectCycles, place <+: violation.path := by
  intro violation member
  rcases mem_violations member with scripts | attributes | references | cycles
  · obtain ⟨script, listed, _, rfl⟩ := exists_of_mem_repeatedIds scripts
    exact within.scripts script listed
  · obtain ⟨id, listed, _, rfl⟩ := exists_of_mem_repeatedIds attributes
    obtain ⟨entry, among, rfl⟩ := List.mem_map.mp listed
    exact (within.attributes entry among).trans (List.prefix_append _ _)
  · obtain ⟨reference, listed, _, _, rfl⟩ := exists_of_mem_references references
    exact within.references reference listed
  · obtain ⟨entry, listed, _, rfl⟩ := exists_of_mem_cycles cycles
    exact (within.attributes entry listed).trans (List.prefix_append _ _)

/-- What is wrong with the names in a solution, if there is a record. -/
def namesIn (detectCycles : Bool) (path : Path) (item : Document) : List Violation :=
  (ofDocument path item).flatMap fun index => index.violations detectCycles

/-- What is wrong with the names in a solution stands inside the solution. -/
theorem inside_namesIn (detectCycles : Bool) (path : Path) (item : Document) :
    ∀ violation ∈ namesIn detectCycles path item, path <+: violation.path := by
  unfold namesIn ofDocument
  cases item with
  | record fields =>
    dsimp only
    rw [List.flatMap_singleton]
    exact (within_ofFields path fields).inside_violations detectCycles
  | _ => exact List.forall_mem_nil _

end SolutionIndex

end PageAttributes.Grammar
