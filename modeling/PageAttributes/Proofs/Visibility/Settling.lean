/-
**What settles without a memory.**

Whether an attribute or a group applies can also be worked out without a session: by looking at its
restrictions, at those of its group, and again at those of every attribute that a condition reads,
as many steps deep as is allowed. What is not known after so many steps may settle after more.

* `Restrictions`, `Standing` — all that whether an attribute or a group applies depends on;
* `Condition.holdsKnowing` — whether a condition holds, as far as values are known;
* `settle` — whether something applies, worked out in so many steps;
* `settle_refines` — what has settled stays so with more steps;
* `Catalog.outcomeWithin` — what settles of a node of a catalog;
* `Catalog.knownValue_look`, `Catalog.outcomeWithin_attribute`, `Catalog.outcomeWithin_group` — what
  a node takes from others;
* `settledNames_eq_some_iff`, `Catalog.reportWithin` — the names of what applies, and a report of
  them, once everything has settled.

Nothing here knows the order of the nodes, or which of them have been decided before.
-/

import PageAttributes.Proofs.Visibility.Selection

namespace PageAttributes

/-! ### What is asked for -/

/-- The kinds of nodes and the conditions that an attribute or a group is restricted to. -/
structure Restrictions where
  nodeTypes : Option (List NodeType)
  conditions : Option (List Condition)

/-- The restrictions of an attribute or a group, and those of the group around it. -/
structure Standing where
  around : Option Restrictions
  own : Restrictions

/-- The restrictions of an attribute. -/
def Attribute.restrictions (declared : Attribute) : Restrictions :=
  ⟨declared.nodeTypes, declared.conditions⟩

/-- The restrictions of a group. -/
def AttributeGroup.restrictions (gathered : AttributeGroup) : Restrictions :=
  ⟨gathered.nodeTypes, gathered.conditions⟩

/-- Whatever is known to one is known to the other. -/
def Refines {α β : Type} (less more : α → Option β) : Prop :=
  ∀ key value, less key = some value → more key = some value

/-! ### Conditions -/

namespace Condition

mutual

/-- Whether a condition at a depth holds, as far as the values that it comes to are known. -/
def holdsKnowing (known : String → Option (Option AttributeValue)) (depth : Nat) :
    Condition → Option Bool
  | .leaf attributeId expected =>
    if depthLimit < depth then none
    else (known attributeId).bind fun actual =>
      some (actual.any fun value => value.satisfies expected)
  | .group operator members =>
    if depthLimit < depth then none
    else
      match operator with
      | .all => allHoldKnowing known (depth + 1) members
      | .any => anyHoldsKnowing known (depth + 1) members

/-- Whether all conditions at a depth hold; those after one that does not are not looked at. -/
def allHoldKnowing (known : String → Option (Option AttributeValue)) (depth : Nat) :
    List Condition → Option Bool
  | [] => some true
  | member :: rest => (holdsKnowing known depth member).bind fun holds =>
      if holds then allHoldKnowing known depth rest else some false

/-- Whether any condition at a depth holds; those after one that does are not looked at. -/
def anyHoldsKnowing (known : String → Option (Option AttributeValue)) (depth : Nat) :
    List Condition → Option Bool
  | [] => some false
  | member :: rest => (holdsKnowing known depth member).bind fun holds =>
      if holds then some true else anyHoldsKnowing known depth rest

end

variable {less more : String → Option (Option AttributeValue)}

mutual

/-- What is known of a condition stays so when more is known. -/
theorem holdsKnowing_refines (refines : Refines less more) (depth : Nat) :
    Refines (holdsKnowing less depth) (holdsKnowing more depth)
  | .leaf id expected, outcome, settled => by
    rw [holdsKnowing] at settled ⊢
    split at settled
    · cases settled
    · rename_i shallow
      obtain ⟨actual, found, same⟩ := Option.bind_eq_some_iff.mp settled
      rw [if_neg shallow, refines id actual found]
      exact same
  | .group .all members, outcome, settled => by
    rw [holdsKnowing] at settled ⊢
    split at settled
    · cases settled
    · rename_i shallow
      rw [if_neg shallow]
      exact allHoldKnowing_refines refines (depth + 1) members outcome settled
  | .group .any members, outcome, settled => by
    rw [holdsKnowing] at settled ⊢
    split at settled
    · cases settled
    · rename_i shallow
      rw [if_neg shallow]
      exact anyHoldsKnowing_refines refines (depth + 1) members outcome settled

/-- What is known of some conditions together stays so when more is known. -/
theorem allHoldKnowing_refines (refines : Refines less more) (depth : Nat) :
    Refines (allHoldKnowing less depth) (allHoldKnowing more depth)
  | [], outcome, settled => settled
  | member :: rest, outcome, settled => by
    rw [allHoldKnowing] at settled ⊢
    obtain ⟨holds, first, others⟩ := Option.bind_eq_some_iff.mp settled
    rw [holdsKnowing_refines refines depth member holds first, Option.bind_some]
    cases holds with
    | false => exact others
    | true => exact allHoldKnowing_refines refines depth rest outcome others

/-- What is known of whether any of some conditions holds stays so when more is known. -/
theorem anyHoldsKnowing_refines (refines : Refines less more) (depth : Nat) :
    Refines (anyHoldsKnowing less depth) (anyHoldsKnowing more depth)
  | [], outcome, settled => settled
  | member :: rest, outcome, settled => by
    rw [anyHoldsKnowing] at settled ⊢
    obtain ⟨holds, first, others⟩ := Option.bind_eq_some_iff.mp settled
    rw [holdsKnowing_refines refines depth member holds first, Option.bind_some]
    cases holds with
    | false => exact anyHoldsKnowing_refines refines depth rest outcome others
    | true => exact others

end

end Condition

/-! ### Steps -/

/-- Whether restrictions are met, as far as values are known. -/
def Restrictions.metKnowing (known : String → Option (Option AttributeValue))
    (kind : Option NodeType) (restrictions : Restrictions) : Option Bool :=
  if admits restrictions.nodeTypes kind then
    Condition.allHoldKnowing known 1 (restrictions.conditions.getD [])
  else some false

/-- The value that a condition reads under an id, once it is known whether what it stands for
applies. -/
def knownValue (look : String → Option Standing) (assignment : Assignment)
    (decided : Standing → Option Bool) (id : String) : Option (Option AttributeValue) :=
  (look id).bind fun standing => (decided standing).bind fun applies =>
    some (if applies then assignment.get? id else none)

/-- Whether the group around something applies, once it is known; no group is as good as one that
does. -/
def knownAround (decided : Standing → Option Bool) : Option Restrictions → Option Bool
  | none => some true
  | some outer => decided ⟨none, outer⟩

section Settle

variable (look : String → Option Standing) (assignment : Assignment) (kind : Option NodeType)

/-- Whether something applies, as far as others are known to. -/
def settleFrom (decided : Standing → Option Bool) (standing : Standing) : Option Bool :=
  (knownAround decided standing.around).bind fun inside =>
    if inside then standing.own.metKnowing (knownValue look assignment decided) kind
    else some false

/-- Whether something applies, worked out in so many steps. -/
def settle : Nat → Standing → Option Bool
  | 0 => fun _ => none
  | steps + 1 => settleFrom look assignment kind (settle steps)

variable {look assignment kind}

/-- What is known of something stays so when more is known of others. -/
theorem settleFrom_refines {less more : Standing → Option Bool} (refines : Refines less more) :
    Refines (settleFrom look assignment kind less) (settleFrom look assignment kind more) := by
  intro standing outcome settled
  have values : Refines (knownValue look assignment less) (knownValue look assignment more) := by
    intro id value found
    obtain ⟨other, named, found⟩ := Option.bind_eq_some_iff.mp found
    obtain ⟨applies, decided, same⟩ := Option.bind_eq_some_iff.mp found
    rw [knownValue, named, Option.bind_some, refines other applies decided, Option.bind_some, same]
  obtain ⟨inside, around, own⟩ := Option.bind_eq_some_iff.mp settled
  have aroundStill : knownAround more standing.around = some inside := by
    cases outer : standing.around with
    | none => rwa [outer] at around
    | some restrictions =>
      rw [outer] at around
      exact refines _ inside around
  rw [settleFrom, aroundStill, Option.bind_some]
  cases inside with
  | false => exact own
  | true =>
    simp only [if_true, Restrictions.metKnowing] at own ⊢
    split at own
    · rename_i admitted
      rw [if_pos admitted]
      exact Condition.allHoldKnowing_refines values 1 _ outcome own
    · rename_i refused
      rwa [if_neg refused]

/-- **What has settled stays so** with more steps. -/
theorem settle_refines {steps more : Nat} (le : steps ≤ more) :
    Refines (settle look assignment kind steps) (settle look assignment kind more) := by
  have next : ∀ steps, Refines (settle look assignment kind steps)
      (settle look assignment kind (steps + 1)) := by
    intro steps
    induction steps with
    | zero => exact fun _ _ settled => nomatch settled
    | succ steps ih => exact settleFrom_refines ih
  induction le with
  | refl => exact fun _ _ settled => settled
  | step _ ih => exact fun standing outcome settled => next _ standing outcome (ih _ _ settled)

end Settle

/-- The names of what applies, once this is known of everything. -/
def settledNames (decided : Standing → Option Bool) :
    List (String × Standing) → Option (List String)
  | [] => some []
  | (name, standing) :: rest => (decided standing).bind fun applies =>
      (settledNames decided rest).bind fun names => some (if applies then name :: names else names)

/-- The names of what applies are known once it is known of everything whether it applies. -/
theorem settledNames_eq_some_iff {decided : Standing → Option Bool}
    {standings : List (String × Standing)} {names : List String} :
    settledNames decided standings = some names
      ↔ (∀ entry ∈ standings, decided entry.2 ≠ none)
        ∧ (standings.filter fun entry => decided entry.2 == some true).map Prod.fst = names := by
  induction standings generalizing names with
  | nil => simp [settledNames]
  | cons entry rest ih =>
    obtain ⟨name, standing⟩ := entry
    simp only [settledNames, Option.bind_eq_some_iff, List.forall_mem_cons, ih, Option.some_inj]
    constructor
    · rintro ⟨applies, settled, others, ⟨all, rfl⟩, rfl⟩
      refine ⟨⟨by simp [settled], all⟩, ?_⟩
      rw [List.filter_cons]
      cases applies <;> simp [settled]
    · rintro ⟨⟨settled, all⟩, rfl⟩
      obtain ⟨applies, settled⟩ := Option.ne_none_iff_exists'.mp settled
      refine ⟨applies, settled, _, ⟨all, rfl⟩, ?_⟩
      rw [List.filter_cons]
      cases applies <;> simp [settled]

/-! ### Catalogs -/

namespace Catalog

/-- The id of an attribute, with all that it depends on whether the attribute applies. -/
def attributeStanding (catalog : Catalog) (entry : Option Nat × Attribute) : String × Standing :=
  (entry.2.id, ⟨(entry.1.bind fun number => catalog.groups[number]?).map
    AttributeGroup.restrictions, entry.2.restrictions⟩)

/-- The name of a group, with all that it depends on whether the group applies. -/
def groupStanding (gathered : AttributeGroup) : String × Standing :=
  (gathered.name, ⟨none, gathered.restrictions⟩)

/-- The attributes of a catalog by id, with all that it depends on whether they apply. -/
def attributeStandings (catalog : Catalog) : List (String × Standing) :=
  catalog.attributes.map catalog.attributeStanding

/-- The groups of a catalog by name, with all that it depends on whether they apply. -/
def groupStandings (catalog : Catalog) : List (String × Standing) :=
  catalog.groups.map groupStanding

/-- All that it depends on whether a node applies. -/
def standing? (catalog : Catalog) : Node → Option Standing
  | .attribute position => (catalog.attributeStandings[position]?).map Prod.snd
  | .group number => (catalog.groupStandings[number]?).map Prod.snd

/-- What an id stands for. -/
def look (catalog : Catalog) (id : String) : Option Standing :=
  (catalog.position? id).bind fun position => catalog.standing? (.attribute position)

/-- Whether a node applies, worked out in so many steps. -/
def outcomeWithin (catalog : Catalog) (assignment : Assignment) (kind : Option NodeType)
    (steps : Nat) (node : Node) : Option Bool :=
  (catalog.standing? node).bind (settle catalog.look assignment kind steps)

/-- What applies, worked out in so many steps for each node. -/
def reportWithin (catalog : Catalog) (assignment : Assignment) (kind : Option NodeType)
    (steps : Nat) : Option VisibilityReport :=
  (settledNames (settle catalog.look assignment kind steps) catalog.groupStandings).bind
    fun groups =>
      (settledNames (settle catalog.look assignment kind steps) catalog.attributeStandings).bind
        fun attributes => some ⟨groups, attributes⟩

variable {catalog : Catalog} {assignment : Assignment} {kind : Option NodeType}

/-- What has settled of a node stays so with more steps. -/
theorem outcomeWithin_refines {steps more : Nat} (le : steps ≤ more) :
    Refines (catalog.outcomeWithin assignment kind steps)
      (catalog.outcomeWithin assignment kind more) := by
  intro node outcome settled
  obtain ⟨standing, there, settled⟩ := Option.bind_eq_some_iff.mp settled
  exact Option.bind_eq_some_iff.mpr ⟨standing, there, settle_refines le standing outcome settled⟩

/-- Nothing is worked out in no steps. -/
theorem outcomeWithin_zero (node : Node) :
    catalog.outcomeWithin assignment kind 0 node = none :=
  Option.bind_fun_none _

/-- A condition reads the value of an attribute once it is known whether that attribute applies. -/
theorem knownValue_look (steps : Nat) (id : String) :
    knownValue catalog.look assignment (settle catalog.look assignment kind steps) id
      = (catalog.position? id).bind fun position =>
          (catalog.outcomeWithin assignment kind steps (.attribute position)).bind fun applies =>
            some (if applies then assignment.get? id else none) := by
  simp only [knownValue, look, outcomeWithin, Option.bind_assoc]

/-- An attribute is worked out from its group and its own restrictions. -/
theorem outcomeWithin_attribute (numbered : catalog.IsNumbered) {position : Nat}
    {group : Option Nat} {declared : Attribute}
    (there : catalog.attributes[position]? = some (group, declared)) (steps : Nat) :
    catalog.outcomeWithin assignment kind (steps + 1) (.attribute position)
      = (group.elim (some true) fun number =>
            catalog.outcomeWithin assignment kind steps (.group number)).bind fun around =>
          if around then
            declared.restrictions.metKnowing (knownValue catalog.look assignment
              (settle catalog.look assignment kind steps)) kind
          else some false := by
  simp only [outcomeWithin, standing?, attributeStandings, attributeStanding, List.getElem?_map,
    there, Option.map_some, Option.bind_some, settle, settleFrom]
  cases group with
  | none => rfl
  | some number =>
    have inside := numbered _ (List.mem_of_getElem? there) number rfl
    simp only [Option.bind_some, List.getElem?_eq_getElem inside, Option.map_some, knownAround,
      Option.elim_some, groupStandings, groupStanding, List.getElem?_map]

/-- A group is worked out from its restrictions. -/
theorem outcomeWithin_group {number : Nat} {gathered : AttributeGroup}
    (there : catalog.groups[number]? = some gathered) (steps : Nat) :
    catalog.outcomeWithin assignment kind (steps + 1) (.group number)
      = gathered.restrictions.metKnowing (knownValue catalog.look assignment
          (settle catalog.look assignment kind steps)) kind := by
  simp only [outcomeWithin, standing?, groupStandings, groupStanding, List.getElem?_map, there,
    Option.map_some, Option.bind_some, settle, settleFrom, knownAround, if_true]

end Catalog

end PageAttributes
