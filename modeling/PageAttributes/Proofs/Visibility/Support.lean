/-
**Nodes that support one another apply.**

* `Assignment.Keeps` — an assignment gives an id the value that it has in another one, if it has
  one;
* `Condition.holds_of_keeps` — a condition that holds goes on holding where the values that it reads
  are kept;
* `Catalog.applies_of_keeps` — so does a node go on applying;
* `Catalog.rule` — what should apply grows with what applies;
* `Catalog.shown` — the nodes that the resolver has decided to apply;
* `Catalog.le_shown` — nodes of which each one should apply if all of them do are shown.

No condition holds because of a value that is missing. So what should apply is a monotone function
of what applies, and the nodes that are shown are its one fixed point: the greatest one, which is
above everything that supports itself.
-/

import Mathlib.Data.Fintype.Order
import Mathlib.Order.FixedPoints
import PageAttributes.Proofs.Visibility.Selection

namespace PageAttributes

/-! ### Conditions -/

/-- An assignment gives an id the value that it has in another one, if it has one. -/
def Assignment.Keeps (more less : Assignment) (id : String) : Prop :=
  ∀ value, less.get? id = some value → more.get? id = some value

theorem Assignment.satisfies_iff {assignment : Assignment} {id : String}
    {expected : ConditionValue} :
    assignment.satisfies id expected = true
      ↔ ∃ actual, assignment.get? id = some actual ∧ actual.satisfies expected = true := by
  unfold satisfies
  cases assignment.get? id <;> simp

namespace Condition

variable {less more : Assignment}

mutual

/-- A condition that holds goes on holding where the values that it reads are kept. -/
theorem holds_of_keeps : ∀ condition : Condition, (∀ id ∈ condition.leafIds, more.Keeps less id) →
    holds less condition = true → holds more condition = true
  | .leaf id expected, kept, satisfied => by
    rw [holds, Assignment.satisfies_iff] at satisfied ⊢
    obtain ⟨actual, found, fits⟩ := satisfied
    exact ⟨actual, kept id (.head _) actual found, fits⟩
  | .group .all members, kept, satisfied => by
    rw [holds] at satisfied ⊢
    rw [leafIds] at kept
    exact allHold_of_keeps members kept satisfied
  | .group .any members, kept, satisfied => by
    rw [holds] at satisfied ⊢
    rw [leafIds] at kept
    exact anyHolds_of_keeps members kept satisfied

/-- Conditions that hold go on holding where the values that they read are kept. -/
theorem allHold_of_keeps : ∀ members : List Condition,
    (∀ id ∈ allLeafIds members, more.Keeps less id) →
      allHold less members = true → allHold more members = true
  | [], _, _ => by rw [allHold]
  | member :: rest, kept, satisfied => by
    rw [allHold, Bool.and_eq_true] at satisfied ⊢
    rw [allLeafIds] at kept
    obtain ⟨first, others⟩ := satisfied
    exact ⟨holds_of_keeps member (fun id named => kept id (List.mem_append_left _ named)) first,
      allHold_of_keeps rest (fun id named => kept id (List.mem_append_right _ named)) others⟩

/-- Where any of some conditions holds, any goes on holding where the values that they read are
kept. -/
theorem anyHolds_of_keeps : ∀ members : List Condition,
    (∀ id ∈ allLeafIds members, more.Keeps less id) →
      anyHolds less members = true → anyHolds more members = true
  | [], _, satisfied => by
    rw [anyHolds] at satisfied
    cases satisfied
  | member :: rest, kept, satisfied => by
    rw [anyHolds, Bool.or_eq_true] at satisfied ⊢
    rw [allLeafIds] at kept
    exact satisfied.imp
      (holds_of_keeps member fun id named => kept id (List.mem_append_left _ named))
      (anyHolds_of_keeps rest fun id named => kept id (List.mem_append_right _ named))

end

end Condition

/-! ### Nodes -/

/-- A restriction that admits a kind admits it also where no kind is asked for. -/
theorem admits_of_wider {allowed : Option (List NodeType)} {kind wider : Option NodeType}
    (wide : wider = kind ∨ wider = none) (admitted : admits allowed kind = true) :
    admits allowed wider = true := by
  rcases wide with rfl | rfl
  · exact admitted
  · exact admits_iff.mpr fun _ _ _ asked => nomatch asked

namespace Catalog

variable {catalog : Catalog} {assignment less more : Assignment} {kind wider : Option NodeType}
  {few many : Valuation} {node : Node}

/-- The conditions of a node that hold go on holding where what it reads goes on applying and keeps
its values. -/
theorem allHold_seen_of_keeps
    (kept : ∀ id ∈ catalog.readsOf node, ∀ position, catalog.position? id = some position →
      more.Keeps less id)
    (still : ∀ next, catalog.Depends node next → few next = true → many next = true)
    (hold : Condition.allHold (catalog.seen less few) (catalog.conditionsOf node) = true) :
    Condition.allHold (catalog.seen more many) (catalog.conditionsOf node) = true := by
  refine Condition.allHold_of_keeps _ (fun id read value found => ?_) hold
  rw [get?_seen] at found ⊢
  split at found
  · rename_i seen
    rw [isSeen, Option.any_eq_true] at seen
    obtain ⟨position, named, applies⟩ := seen
    have seenStill : catalog.isSeen many id = true := by
      rw [isSeen, Option.any_eq_true]
      exact ⟨position, named, still _ (.reads node id position read named) applies⟩
    rw [if_pos seenStill]
    exact kept id read position named value found
  · cases found

/-- **A node that should apply still should** where what it waits for goes on applying, and what it
reads keeps its value. -/
theorem applies_of_keeps (wide : wider = kind ∨ wider = none)
    (kept : ∀ id ∈ catalog.readsOf node, ∀ position, catalog.position? id = some position →
      more.Keeps less id)
    (still : ∀ next, catalog.Depends node next → few next = true → many next = true)
    (should : catalog.applies less kind few node = true) :
    catalog.applies more wider many node = true := by
  have conditions := allHold_seen_of_keeps kept still
  match node with
  | .attribute position =>
    rw [applies_attribute_iff] at should ⊢
    obtain ⟨group, declared, there, around, admitted, hold⟩ := should
    simp only [conditionsOf, there, Option.bind_some] at conditions
    refine ⟨group, declared, there, ?_, admits_of_wider wide admitted, conditions hold⟩
    rintro number rfl
    exact still _ (.inside position number declared there) (around number rfl)
  | .group number =>
    rw [applies_group_iff] at should ⊢
    obtain ⟨gathered, there, admitted, hold⟩ := should
    simp only [conditionsOf, there, Option.bind_some] at conditions
    exact ⟨gathered, there, admits_of_wider wide admitted, conditions hold⟩

/-- Which nodes should apply is a monotone function of which nodes apply. -/
def rule (catalog : Catalog) (assignment : Assignment) (kind : Option NodeType) :
    Valuation →o Valuation where
  toFun := catalog.applies assignment kind
  monotone' := by
    intro few many le node
    rw [Bool.le_iff_imp]
    refine applies_of_keeps (Or.inl rfl) (fun _ _ _ _ _ found => found) fun next _ => ?_
    exact Bool.le_iff_imp.mp (le next)

/-! ### What is shown -/

/-- The nodes that the resolver has decided to apply when it ends. -/
def shown (catalog : Catalog) (assignment : Assignment) (kind : Option NodeType) : Valuation :=
  (catalog.finalSession assignment kind).valuation

/-- What is listed are the names of the entries whose nodes apply. -/
theorem mem_listed {α : Type} {valuation : Valuation} {number : Nat → Node} {name : α → String}
    {entries : List α} {text : String} :
    text ∈ listed valuation number name 0 entries
      ↔ ∃ position entry, entries[position]? = some entry ∧ name entry = text
          ∧ valuation (number position) = true := by
  simp only [listed, List.mem_map, List.mem_filter, List.mem_zipIdx_iff_getElem?]
  constructor
  · rintro ⟨⟨entry, position⟩, ⟨there, applies⟩, same⟩
    exact ⟨position, entry, there, same, applies⟩
  · rintro ⟨position, entry, there, same, applies⟩
    exact ⟨(entry, position), ⟨there, applies⟩, same⟩

/-- Where names are distinct, the name of an entry is listed exactly if its node applies. -/
theorem name_mem_listed_iff {α : Type} {valuation : Valuation} {number : Nat → Node}
    {name : α → String} {entries : List α} (distinct : (entries.map name).Nodup) {position : Nat}
    {entry : α} (there : entries[position]? = some entry) :
    name entry ∈ listed valuation number name 0 entries ↔ valuation (number position) = true := by
  rw [mem_listed]
  refine ⟨?_, fun applies => ⟨position, entry, there, rfl, applies⟩⟩
  rintro ⟨place, other, here, same, applies⟩
  have names : (entries.map name)[place]? = (entries.map name)[position]? := by
    rw [List.getElem?_map, List.getElem?_map, here, there, Option.map_some, Option.map_some, same]
  have inside : place < (entries.map name).length := by
    rw [List.length_map]
    exact (List.getElem?_eq_some_iff.mp here).1
  rwa [← (List.getElem?_inj inside distinct).mp names]

theorem mem_attributes_report {valuation : Valuation} {id : String} :
    id ∈ (catalog.report valuation).attributes
      ↔ ∃ position entry, catalog.attributes[position]? = some entry ∧ entry.2.id = id
          ∧ valuation (.attribute position) = true := by
  show id ∈ listed valuation .attribute (fun entry : Option Nat × Attribute => entry.2.id) 0 _ ↔ _
  exact mem_listed

theorem mem_groups_report {valuation : Valuation} {name : String} :
    name ∈ (catalog.report valuation).groups
      ↔ ∃ number gathered, catalog.groups[number]? = some gathered ∧ gathered.name = name
          ∧ valuation (.group number) = true := by
  show name ∈ listed valuation .group AttributeGroup.name 0 _ ↔ _
  exact mem_listed

section Shown

variable {report : VisibilityReport}

/-- What is reported are the nodes that are shown. -/
theorem report_shown (numbered : catalog.IsNumbered)
    (resolved : catalog.resolve assignment kind = .ok report) :
    report = catalog.report (catalog.shown assignment kind) := by
  obtain ⟨_, _, listed⟩ := decided_finalSession numbered resolved
  exact (listed _ (Session.agrees_valuation _)).symm

/-- The nodes that are shown are those that should apply, given just these. -/
theorem applies_shown (numbered : catalog.IsNumbered)
    (resolved : catalog.resolve assignment kind = .ok report) (node : Node) :
    catalog.applies assignment kind (catalog.shown assignment kind) node
      = catalog.shown assignment kind node := by
  obtain ⟨invariant, complete, _⟩ := decided_finalSession numbered resolved
  exact applies_valuation invariant complete node

/-- **Nodes are shown if each one of them should apply, given just these**, whatever else may
apply. -/
theorem le_shown (numbered : catalog.IsNumbered)
    (resolved : catalog.resolve assignment kind = .ok report) {valuation : Valuation}
    (supported : ∀ node, valuation node = true →
      catalog.applies assignment kind valuation node = true)
    {node : Node} (applies : valuation node = true) :
    catalog.shown assignment kind node = true := by
  obtain ⟨invariant, complete, _⟩ := decided_finalSession numbered resolved
  have greatest : OrderHom.gfp (catalog.rule assignment kind) = catalog.shown assignment kind := by
    refine eq_valuation invariant complete fun node => ?_
    exact congrFun (OrderHom.map_gfp (catalog.rule assignment kind)) node
  have below : valuation ≤ OrderHom.gfp (catalog.rule assignment kind) := by
    refine OrderHom.le_gfp _ fun node => ?_
    rw [Bool.le_iff_imp]
    exact supported node
  rw [greatest] at below
  exact Bool.le_iff_imp.mp (below node) applies

end Shown

end Catalog

end PageAttributes
