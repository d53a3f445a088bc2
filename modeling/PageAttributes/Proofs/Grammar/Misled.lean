/-
**References that lead nowhere, or where they must not lead, are reported leaf by leaf.**

* `Misled` — a leaf names an id that no attribute of the solution has, or the id of the attribute
  that it belongs to, or one whose first attribute stands in the group that it belongs to;
* `SolutionIndex.Lists.isSome_referenceProblem?_iff` — something is wrong with a reference exactly
  if its leaf is misled. An index compares numbers of groups, a leaf their places; no two groups
  have the same place;
* `Validator.reported_misled` — of the violations of a document, those that are referential are the
  reports of cycles and one for every misled leaf.
-/

import Mathlib.Data.List.Perm.Basic
import PageAttributes.Proofs.Grammar.Repeats

namespace PageAttributes

namespace Grammar

/-! ### Misled leaves -/

/-- The first attribute of a solution with an id. -/
def Site.first? (solution : Site) (id : String) : Option Declared :=
  solution.attributes.find? fun declared => declared.id? == some id

/-- A leaf leads nowhere, to the attribute that it belongs to, or into the group that it belongs
to. -/
inductive Misled (solution : Site) : Leaf → Prop
  | nowhere {leaf : Leaf}
      (unknown : ∀ declared ∈ solution.attributes, declared.id? ≠ some leaf.id) :
    Misled solution leaf
  | toItself {id : String} {place : Path} : Misled solution ⟨.attribute id, id, place⟩
  | intoGroup {group place : Path} {id : String} {first : Declared}
      (found : solution.first? id = some first) (inside : first.group = some group) :
    Misled solution ⟨.group group, id, place⟩

variable {solution : Site} {leaf : Leaf}

theorem Site.first?_eq_none_iff {id : String} :
    solution.first? id = none ↔ ∀ declared ∈ solution.attributes, declared.id? ≠ some id := by
  simp [Site.first?]

/-- A condition must not read an attribute that it belongs to, or that stands in the group that it
belongs to. -/
def Holder.Bars (id : String) (read : Declared) : Holder → Prop
  | .attribute own => own = id
  | .group place => read.group = some place

instance (id : String) (read : Declared) : DecidablePred (Holder.Bars id read)
  | .attribute own => inferInstanceAs (Decidable (own = id))
  | .group place => inferInstanceAs (Decidable (read.group = some place))

/-- A leaf is misled if the attribute that it leads to, if there is one, is barred. -/
theorem misled_iff :
    Misled solution leaf ↔ ∀ read ∈ solution.first? leaf.id, leaf.holder.Bars leaf.id read := by
  obtain ⟨holder, id, place⟩ := leaf
  constructor
  · intro misled read found
    cases misled with
    | nowhere unknown => exact absurd (Site.first?_eq_none_iff.mpr unknown) (by rw [found]; simp)
    | toItself => rfl
    | intoGroup foundToo inside =>
      cases found.symm.trans foundToo
      exact inside
  · intro barred
    cases found : solution.first? id with
    | none => exact .nowhere (Site.first?_eq_none_iff.mp found)
    | some read =>
      match holder, barred read found with
      | .attribute own, barredToo =>
        have itself : own = id := barredToo
        subst itself
        exact .toItself
      | .group _, inside => exact .intoGroup found inside

instance : Decidable (Misled solution leaf) := decidable_of_iff _ misled_iff.symm

/-- Of two attributes with one id the first is read, so that a group may read the id of a member
that repeats it. -/
example : ¬ Misled
    ⟨.root, [("attributes", .list [
      .record [("type", .text "attribute"), ("id", .text "a")],
      .record [("type", .text "group"), ("attributes", .list [
        .record [("type", .text "attribute"), ("id", .text "a")]])]])]⟩
    ⟨.group [.field "attributes", .index 1], "a", .root⟩ := by decide

/-! ### References of an index -/

namespace SolutionIndex

variable {index : SolutionIndex} {declared : List Declared} {places : List Path}
  {listed : List Leaf}

/-- Of two lists that tell of the same, the first entries with some property tell of the same. -/
theorem findIdx?_of_forall₂ {α β : Type} {same : α → β → Prop} {first : α → Bool}
    {second : β → Bool} {items : List α} {others : List β} (lists : List.Forall₂ same items others)
    (agree : ∀ item other, same item other → first item = second other) :
    (items.findIdx? first = none ∧ others.find? second = none)
      ∨ ∃ target item other, items.findIdx? first = some target ∧ items[target]? = some item
        ∧ others.find? second = some other ∧ same item other := by
  induction lists with
  | nil => exact Or.inl ⟨rfl, rfl⟩
  | @cons item other _ _ here _ ih =>
    rw [List.findIdx?_cons, List.find?_cons, agree item other here]
    cases second other with
    | true => exact Or.inr ⟨0, item, other, rfl, rfl, rfl, here⟩
    | false =>
      rcases ih with ⟨nothing, nowhere⟩ | ⟨target, later, read, found, there, leads, both⟩
      · exact Or.inl ⟨by rw [nothing]; rfl, nowhere⟩
      · exact Or.inr ⟨target + 1, later, read, by rw [found]; rfl, there, leads, both⟩

/-- The first attribute with an id is listed under the number that the id leads to. -/
theorem Lists.first?_eq (lists : Lists index solution.attributes places listed) (id : String) :
    (index.position? id = none ∧ solution.first? id = none)
      ∨ ∃ target entry read, index.position? id = some target
        ∧ index.attributes[target]? = some entry ∧ solution.first? id = some read
        ∧ DepictsAttribute index.groups entry read := by
  have agree : ∀ entry one, DepictsAttribute index.groups entry one →
      (entry.id == id) = (one.id? == some id) := by
    intro entry one depicts
    rw [depicts.id]
    rfl
  have named : (solution.attributes.filter fun one => one.id?.isSome).find?
      (fun one => one.id? == some id) = solution.first? id := by
    rw [List.find?_filter, Site.first?]
    congr 1
    funext one
    rw [Bool.eq_iff_iff]
    cases one.id? <;> simp
  rw [← named]
  exact findIdx?_of_forall₂ lists.attributes agree

/-- Where no two groups have the same place, numbers of groups are compared like their places. -/
theorem DepictsAttribute.group_eq_iff {entry : AttributeEntry} {read : Declared}
    (depicts : DepictsAttribute places entry read) (apart : places.Nodup) {number : Nat}
    {place : Path} (stands : places[number]? = some place) :
    entry.group = some number ↔ read.group = some place := by
  have same := depicts.group
  constructor
  · intro inGroup
    rw [inGroup, Option.map_some, stands] at same
    obtain ⟨group, inside, equal⟩ := Option.map_eq_some_iff.mp same.symm
    rw [inside, equal]
  · intro inside
    rw [inside, Option.map_some] at same
    obtain ⟨other, inGroup, standsToo⟩ := Option.map_eq_some_iff.mp same
    obtain ⟨bound, _⟩ := List.getElem?_eq_some_iff.mp standsToo
    rw [inGroup, (List.getElem?_inj bound apart).mp (standsToo.trans stands.symm)]

/-- Something is wrong with a reference exactly if its leaf is misled. -/
theorem Lists.isSome_referenceProblem?_iff (lists : Lists index solution.attributes places listed)
    (apart : places.Nodup) {reference : Reference} (depicts : DepictsLeaf index reference leaf) :
    (index.referenceProblem? reference).isSome = true ↔ Misled solution leaf := by
  rw [misled_iff]
  unfold referenceProblem?
  rw [depicts.id]
  rcases lists.first?_eq leaf.id with
    ⟨nothing, nowhere⟩ | ⟨target, entry, read, found, there, leads, depictsRead⟩
  · rw [nothing, nowhere]
    simp
  · rw [found, leads]
    have held := depicts.holder
    generalize reference.owner = owner at held ⊢
    generalize leaf.holder = holder at held ⊢
    match owner, holder, held with
    | .attribute position, .attribute own, held =>
      have named : (index.attributes[position]?).map AttributeEntry.id = some own := held
      simp [named, Holder.Bars]
    | .group number, .group place, held =>
      have same := depictsRead.group_eq_iff (lists.groups ▸ apart) held
      simp [there, same, Holder.Bars]

/-- The references with which something is wrong are those of the misled leaves. -/
theorem Lists.map_path_references (lists : Lists index solution.attributes places solution.leaves)
    (apart : places.Nodup) :
    (index.references.filterMap index.referenceViolation?).map Violation.path
      = (solution.leaves.filter fun leaf => Misled solution leaf).map Leaf.place := by
  have each := lists.leaves
  generalize index.references = references at each ⊢
  generalize solution.leaves = leaves at each ⊢
  induction each with
  | nil => rfl
  | @cons reference leaf _ _ depicts _ ih =>
    have wrong := lists.isSome_referenceProblem?_iff apart depicts
    rw [List.filterMap_cons, List.filter_cons, referenceViolation?]
    cases problem : index.referenceProblem? reference with
    | none =>
      rw [problem] at wrong
      have fine : ¬ Misled solution leaf := fun misled => Bool.false_ne_true (wrong.mpr misled)
      rw [if_neg (by simpa using fine)]
      exact ih
    | some reason =>
      rw [problem] at wrong
      have misled : Misled solution leaf := wrong.mp rfl
      rw [if_pos (by simpa using misled), List.map_cons, ← ih, ← depicts.place]
      rfl

end SolutionIndex

/-- No two groups of a solution stand at the same place. -/
theorem Site.nodup_groups (solution : Site) : solution.groups.Nodup := by
  have inside : ∀ node, ∀ place ∈ groupIn node, node.place <+: place := by
    intro node
    unfold groupIn
    split
    · exact List.forall_mem_singleton.mpr (List.prefix_refl _)
    · exact List.forall_mem_nil _
  have each : ∀ node, ((groupIn node).map id).Nodup := by
    intro node
    unfold groupIn
    split
    · exact List.nodup_singleton _
    · exact List.nodup_nil
  have all := nodup_map_under inside each solution "attributes"
  rwa [List.map_id_fun'] at all

/-! ### Leaves of a document -/

/-- Every leaf of a document, with the solution that it is in. -/
def leavesOfAll (document : Document) : List (Site × Leaf) :=
  (solutions document).flatMap fun solution => solution.leaves.map fun leaf => (solution, leaf)

theorem nodup_leavesOfAll (document : Document) :
    ((leavesOfAll document).map fun leaf => leaf.2.place).Nodup := by
  have inside : ∀ solution : Site, ∀ leaf ∈ solution.leaves.map fun leaf => (solution, leaf),
      solution.place <+: leaf.2.place := by
    intro solution
    refine List.forall_mem_map.mpr fun leaf among => ?_
    have inAttributes := inside_under inside_leavesIn solution "attributes" leaf among
    exact (List.prefix_append _ _).trans inAttributes
  have each : ∀ solution : Site,
      ((solution.leaves.map fun leaf => (solution, leaf)).map fun leaf => leaf.2.place).Nodup := by
    intro solution
    rw [List.map_map]
    exact solution.nodup_leaves
  exact nodup_map_solutions inside each document

theorem mem_leavesOfAll_iff {document : Document} :
    (solution, leaf) ∈ leavesOfAll document
      ↔ solution ∈ solutions document ∧ solution.HasLeaf leaf := by
  simp [leavesOfAll, Site.mem_leaves_iff]

/-- The places of the misled leaves of a document. -/
def misledPlaces (document : Document) : List Path :=
  ((leavesOfAll document).filter fun leaf => Misled leaf.1 leaf.2).map fun leaf => leaf.2.place

theorem mem_misledPlaces_iff {document : Document} {place : Path} :
    place ∈ misledPlaces document ↔ ∃ solution ∈ solutions document, ∃ leaf,
      solution.HasLeaf leaf ∧ Misled solution leaf ∧ place = leaf.place := by
  simp only [misledPlaces, List.mem_map, List.mem_filter, decide_eq_true_eq, Prod.exists,
    mem_leavesOfAll_iff]
  constructor
  · rintro ⟨solution, leaf, ⟨⟨among, has⟩, misled⟩, rfl⟩
    exact ⟨solution, among, leaf, has, misled, rfl⟩
  · rintro ⟨solution, among, leaf, has, misled, rfl⟩
    exact ⟨solution, leaf, ⟨⟨among, has⟩, misled⟩, rfl⟩

/-- The place of a leaf is that of a misled one exactly if the leaf is misled itself. -/
theorem place_mem_misledPlaces_iff {document : Document} (among : solution ∈ solutions document)
    (has : solution.HasLeaf leaf) : leaf.place ∈ misledPlaces document ↔ Misled solution leaf := by
  rw [mem_misledPlaces_iff]
  constructor
  · rintro ⟨other, amongToo, leafToo, hasToo, misled, same⟩
    have equal := List.inj_on_of_nodup_map (nodup_leavesOfAll document)
      (mem_leavesOfAll_iff.mpr ⟨among, has⟩) (mem_leavesOfAll_iff.mpr ⟨amongToo, hasToo⟩) same
    cases equal
    exact misled
  · exact fun misled => ⟨solution, among, leaf, has, misled, rfl⟩

/-- Something is wrong with references at the places of the misled leaves. -/
theorem map_path_references_eq (document : Document) :
    ((solutions document).flatMap fun solution =>
        solution.index.references.filterMap solution.index.referenceViolation?).map Violation.path
      = misledPlaces document := by
  have each : ∀ solution : Site, _ := fun solution =>
    (SolutionIndex.lists_index solution).map_path_references solution.nodup_groups
  rw [List.map_flatMap, misledPlaces, leavesOfAll, List.filter_flatMap, List.map_flatMap]
  simp only [each, List.filter_map, List.map_map, Function.comp_def]

/-! ### Referential violations -/

/-- What is referential in a document: what is wrong with references, and cycles. -/
theorem ofKind_referential_violations (validator : Validator) (document : Document) :
    Violations.ofKind (validator.violations document) .referential
      = (solutions document).flatMap fun solution =>
          solution.index.references.filterMap solution.index.referenceViolation?
            ++ solution.index.cycleViolations validator.detectCycles := by
  have repeats : ∀ scope : Scope, Violations.ofKind scope.repeats .referential = [] :=
    fun scope => ofKind_eq_nil (fun _ => Scope.kind_of_mem_repeats) (by decide)
  have ids : ∀ entries, Violations.ofKind (repeatedIds .solution entries) .referential = [] :=
    fun _ => ofKind_eq_nil kind_of_mem_repeatedIds (by decide)
  rw [Validator.violations, ofKind_append, ← ofKind_filter_compares (Or.inl rfl),
    filter_compares_checkSchema, crossViolations, ofKind_append, ids, ofKind_flatMap,
    solutionIndexes_eq, List.flatMap_map]
  simp [ofKind_flatMap, repeats, SolutionIndex.ofKind_referential_violations]

/-- A leaf names its id under a key of its own. -/
theorem LeafIn.exists_place {levels : Nat} {path place : Path} {item : Document} {id : String}
    (leaf : LeafIn levels path item id place) :
    ∃ around : Path, place = around.field "attributeId" := by
  induction leaf with
  | @leaf _ path => exact ⟨path, rfl⟩
  | member _ _ _ ih => exact ih

theorem Site.HasLeaf.exists_place (has : solution.HasLeaf leaf) :
    ∃ around : Path, leaf.place = around.field "attributeId" := by
  cases has with
  | inAttribute _ _ under =>
    obtain ⟨_, _, _, inner⟩ := under
    exact inner.exists_place
  | inGroup _ _ under =>
    obtain ⟨_, _, _, inner⟩ := under
    exact inner.exists_place

/-- Cycles are reported at the conditions of an attribute. -/
theorem of_mem_cycleViolations {index : SolutionIndex} {detectCycles : Bool} {violation : Violation}
    (member : violation ∈ index.cycleViolations detectCycles) :
    (∃ around : Path, violation.path = around.field "conditions")
      ∧ ∃ ids, violation.reason = .cycle ids := by
  unfold SolutionIndex.cycleViolations at member
  split at member
  · obtain ⟨cycle, _, rfl⟩ := List.mem_map.mp member
    exact ⟨⟨_, rfl⟩, _, rfl⟩
  · cases member

/-- No cycle is reported at a leaf. -/
theorem Site.HasLeaf.count_cycles (has : solution.HasLeaf leaf) (document : Document)
    (detectCycles : Bool) :
    (((solutions document).flatMap fun solution =>
      solution.index.cycleViolations detectCycles).map Violation.path).count leaf.place = 0 := by
  refine List.count_eq_zero.mpr fun member => ?_
  obtain ⟨violation, among, same⟩ := List.mem_map.mp member
  obtain ⟨_, _, cycle⟩ := List.mem_flatMap.mp among
  obtain ⟨⟨around, conditions⟩, _⟩ := of_mem_cycleViolations cycle
  obtain ⟨leafAround, named⟩ := has.exists_place
  have last := (List.append_inj' (conditions.symm.trans (same.trans named)) rfl).2
  exact absurd last (by decide)

end Grammar

namespace Validator

open Grammar

/-- **Exactly the misled leaves are reported, each once and at its own place.** In any document,
take the leaves in the conditions of its solutions: those of attributes with an id, and of groups.
At the place of a leaf that is misled there is one referential violation, at that of any other leaf
there is none; and every referential violation is the report of a cycle or stands at a misled
leaf. -/
theorem reported_misled (validator : Validator) (document : Document) :
    (∀ solution ∈ solutions document, ∀ leaf, solution.HasLeaf leaf →
      ((Violations.ofKind (validator.reported document) .referential).map Violation.path).count
          leaf.place
        = if Misled solution leaf then 1 else 0)
      ∧ ∀ violation ∈ Violations.ofKind (validator.reported document) .referential,
        (∃ ids, violation.reason = .cycle ids)
          ∨ ∃ solution ∈ solutions document, ∃ leaf, solution.HasLeaf leaf
            ∧ Misled solution leaf ∧ violation.path = leaf.place := by
  rw [ofKind_reported validator document (by decide), ofKind_referential_violations]
  have places := map_path_references_eq document
  constructor
  · intro solution among leaf has
    have once : (misledPlaces document).Nodup :=
      (nodup_leavesOfAll document).sublist (List.filter_sublist.map _)
    -- Only places are counted, so that all cycles may be put behind all references.
    have apart := (List.flatMap_append_perm (solutions document)
      (fun solution => solution.index.references.filterMap solution.index.referenceViolation?)
      fun solution => solution.index.cycleViolations validator.detectCycles).map Violation.path
    rw [← apart.count_eq, List.map_append, List.count_append, has.count_cycles, Nat.add_zero,
      places, once.count]
    simp only [place_mem_misledPlaces_iff among has]
  · intro violation member
    obtain ⟨solution, among, found⟩ := List.mem_flatMap.mp member
    rcases List.mem_append.mp found with wrong | cycle
    · right
      rw [← mem_misledPlaces_iff, ← places]
      exact List.mem_map_of_mem (List.mem_flatMap.mpr ⟨solution, among, wrong⟩)
    · exact Or.inl (of_mem_cycleViolations cycle).2

end Validator

end PageAttributes
