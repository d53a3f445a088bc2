/-
**The index of an accepted solution mirrors the solution that is read.**

References are compared by the numbers of an untyped index, conditions are resolved by those of a
catalog of typed declarations. Both number the same declarations in the same order.

* `SpelledAt` — a record of a document spells a value;
* `forall₂_under`, `forall₂_declaredIn`, `forall₂_groupIn` — the records of a solution spell its
  attributes and groups, one after another;
* `Catalog.Relies`, `SolutionIndex.Describes.edge_iff_relies` — one attribute waits for another one,
  by its own conditions or through its group, exactly if there is an edge;
* `Mirrors` — an index lists the attributes, the groups and the leaves of a typed solution;
* `Validator.mirrors_of_validate` — every index of an accepted document does.
-/

import PageAttributes.Proofs.Grammar.IndexRange
import PageAttributes.Proofs.Grammar.Repeats
import PageAttributes.Proofs.Visibility.Named
import PageAttributes.Proofs.Visibility.Selection

namespace PageAttributes

open Wire Grammar

/-! ### Lists side by side -/

section Lists

variable {α β γ : Type} {first : α → β → Prop} {second : β → γ → Prop} {items : List α}
  {others : List β}

/-- Items that are all kept. -/
theorem filter_of_forall₂ {kept : α → Bool} (related : List.Forall₂ first items others)
    (keeps : ∀ item other, first item other → kept item = true) : items.filter kept = items :=
  List.filter_eq_self.mpr (forall_mem_of_forall₂ related
    (fun item other its _ => keeps item other its) fun _ _ => trivial)

/-- Three lists side by side. -/
theorem forall₂_trans {both : α → γ → Prop} {more : List γ}
    (related : List.Forall₂ first items others) (relatedToo : List.Forall₂ second others more)
    (join : ∀ item other another, first item other → second other another → both item another) :
    List.Forall₂ both items more := by
  induction related generalizing more with
  | nil =>
    cases relatedToo
    exact .nil
  | cons here _ ih =>
    cases relatedToo with
    | cons there rest => exact .cons (join _ _ _ here there) (ih rest)

end Lists

namespace Grammar

/-! ### Records that spell values -/

/-- A record of a document, with its place, spells a value. -/
structure SpelledAt {α : Type} (document : Document) (spells : Fields → α → Prop) (site : Site)
    (value : α) : Prop where
  here : document.at? site.place = some (.record site.fields)
  spelled : spells site.fields value

variable {document : Document} {site : Site} {solution : Solution}

/-- The records in a list spell its values. -/
theorem forall₂_ofDocument {α : Type} {spells : Fields → α → Prop} {path : Path}
    {before items : List Document} {values : List α}
    (here : document.at? path = some (.list (before ++ items)))
    (each : List.Forall₂ (SpellsRecord spells) items values) :
    List.Forall₂ (SpelledAt document spells)
      (eachItem Site.ofDocument path before.length items) values := by
  induction each generalizing before with
  | nil => exact .nil
  | @cons item value rest values first _ ih =>
    obtain ⟨fields, rfl, spelled⟩ := first
    have others := @ih (before ++ [.record fields])
      (by rwa [List.append_assoc, List.singleton_append])
    rw [List.length_append, List.length_singleton] at others
    exact .cons ⟨Document.at?_index_length here, spelled⟩ others

/-- The records in the list under a key spell its values. -/
theorem forall₂_under {α : Type} {spells : Fields → α → Prop} {key : String} {values : List α}
    (here : document.at? site.place = some (.record site.fields))
    (listed : SpellsList (SpellsRecord spells) site.fields key values) :
    List.Forall₂ (SpelledAt document spells) (site.under key) values := by
  obtain ⟨items, there, each⟩ := listed
  rw [Site.under, listOf_of_lookup there]
  exact @forall₂_ofDocument document _ spells _ [] items values
    ((Document.at?_field here key).trans there) each

/-! ### Attributes and groups -/

/-- A record declares an attribute. -/
def Declares (document : Document) (declared : Declared)
    (own : Option AttributeGroup × Attribute) : Prop :=
  SpelledAt document Attribute.Spells declared.site own.2

/-- At a place there is a record that spells a group. -/
def Gathers (document : Document) (place : Path) (gathered : AttributeGroup) : Prop :=
  ∃ fields, document.at? place = some (.record fields) ∧ gathered.Spells fields

theorem Declares.id? {declared : Declared} {own : Option AttributeGroup × Attribute}
    (declares : Declares document declared own) : declared.id? = some own.2.id :=
  textOf?_eq_some_iff.mpr declares.spelled.id

/-- The attributes in an entry of an attribute list. -/
theorem forall₂_declaredIn (node : AttributeNode)
    (spelled : SpelledAt document AttributeNode.Spells site node) :
    List.Forall₂ (Declares document) (declaredIn site) node.flat := by
  obtain ⟨here, spelled⟩ := spelled
  cases node with
  | single declared =>
    rw [declaredIn_of_attribute (textOf?_eq_some_iff.mpr spelled.type)]
    exact .cons ⟨here, spelled.declared⟩ .nil
  | group gathered =>
    have members := forall₂_under here spelled.2.attributes
    have kept : site.members = site.under "attributes" :=
      filter_of_forall₂ members fun _ _ its =>
        beq_iff_eq.mpr (textOf?_eq_some_iff.mpr its.spelled.type)
    rw [declaredIn_of_group (textOf?_eq_some_iff.mpr spelled.1), kept, AttributeNode.flat,
      List.forall₂_map_left_iff, List.forall₂_map_right_iff]
    exact members.imp fun member declared its => ⟨its.here, its.spelled.declared⟩

/-- The group in an entry of an attribute list. -/
theorem forall₂_groupIn (node : AttributeNode)
    (spelled : SpelledAt document AttributeNode.Spells site node) :
    List.Forall₂ (Gathers document) (groupIn site) node.group?.toList := by
  obtain ⟨here, spelled⟩ := spelled
  cases node with
  | single declared =>
    have type : textOf? site.fields "type" = some "attribute" :=
      textOf?_eq_some_iff.mpr spelled.type
    rw [groupIn, Site.isOfType, type, if_neg (by decide)]
    exact .nil
  | group gathered =>
    have type : textOf? site.fields "type" = some "group" := textOf?_eq_some_iff.mpr spelled.1
    rw [groupIn, Site.isOfType, type, if_pos (by decide)]
    exact .cons ⟨site.fields, here, spelled.2⟩ .nil

section Solutions

variable (spelled : SpelledAt document Solution.Spells site solution)
include spelled

/-- The attributes of a solution, those in its groups among them. -/
theorem forall₂_attributes : List.Forall₂ (Declares document) site.attributes solution.flat :=
  List.rel_flatMap (forall₂_under spelled.here spelled.spelled.attributes)
    fun _ node => forall₂_declaredIn node

/-- The groups of a solution. -/
theorem forall₂_groups : List.Forall₂ (Gathers document) site.groups solution.groups := by
  rw [Solution.groups_eq, List.filterMap_eq_flatMap_toList]
  exact List.rel_flatMap (forall₂_under spelled.here spelled.spelled.attributes)
    fun _ node => forall₂_groupIn node

end Solutions

end Grammar

/-! ### Edges -/

namespace Catalog

variable {catalog : Catalog}

/-- One attribute waits for another one, by its own conditions or through its group. -/
def Relies (catalog : Catalog) (source target : Nat) : Prop :=
  catalog.Depends (.attribute source) (.attribute target)
    ∨ ∃ number, catalog.Depends (.attribute source) (.group number)
      ∧ catalog.Depends (.group number) (.attribute target)

/-- A node waits for an attribute exactly if its conditions read the id of it. -/
theorem depends_attribute_iff {node : Node} {target : Nat} :
    catalog.Depends node (.attribute target)
      ↔ ∃ id ∈ catalog.readsOf node, catalog.position? id = some target := by
  constructor
  · intro depends
    cases depends with
    | reads _ id _ read found => exact ⟨id, read, found⟩
  · rintro ⟨id, read, found⟩
    exact .reads node id target read found

/-- An attribute waits for a group exactly if it stands in it. -/
theorem depends_group_iff {source number : Nat} :
    catalog.Depends (.attribute source) (.group number)
      ↔ (catalog.attributes[source]?).map Prod.fst = some (some number) := by
  rw [Option.map_eq_some_iff]
  constructor
  · intro depends
    cases depends with
    | inside _ _ declared there => exact ⟨_, there, rfl⟩
  · rintro ⟨⟨_, declared⟩, there, rfl⟩
    exact .inside source number declared there

end Catalog

namespace Grammar

/-- **The table of dependencies is what the resolver follows from attribute to attribute.** -/
theorem SolutionIndex.Describes.edge_iff_relies {index : SolutionIndex} {catalog : Catalog}
    (describes : Describes index catalog.outline) (sound : catalog.outline.Sound)
    {source target : Nat} : Edge index.dependencies source target ↔ catalog.Relies source target := by
  have ids : catalog.outline.ids = catalog.attributes.map fun entry => entry.2.id :=
    List.map_map
  have numbered : ∀ id, catalog.position? id = some target
      ↔ catalog.outline.ids[target]? = some id := by
    intro id
    rw [ids, Catalog.position?_eq_some_iff (ids ▸ sound.unique)]
  have declared : catalog.outline.attributes[source]?
      = (catalog.attributes[source]?).map fun entry => entry.2.declaration entry.1 :=
    List.getElem?_map
  have own : ∀ id, id ∈ catalog.readsOf (.attribute source)
      ↔ ∃ entry, catalog.attributes[source]? = some entry
        ∧ id ∈ (entry.2.declaration entry.1).reads := by
    intro id
    rw [Catalog.readsOf, Catalog.conditionsOf]
    cases catalog.attributes[source]? with
    | none => simp [Condition.allLeafIds]
    | some entry => simp [Attribute.declaration]
  rw [describes.edge_iff sound, Catalog.Relies, declared]
  simp only [Catalog.depends_attribute_iff, Catalog.depends_group_iff, own, numbered]
  cases catalog.attributes[source]? with
  | none => simp
  | some entry =>
    obtain ⟨group, one⟩ := entry
    cases group with
    | none => simp [Attribute.declaration, Outline.groupReads, and_comm]
    | some number =>
      simp [Attribute.declaration, Catalog.groupReads_outline, or_and_right, exists_or, and_comm]

/-! ### Mirrors -/

/-- An attribute in an index, and the attribute of a solution with the group around it: they have the
same id, the one stands where the other is spelled, and the number of its group is that of the group
around it. -/
structure MirrorsAttribute (document : Document) (groups : List AttributeGroup)
    (entry : AttributeEntry) (own : Option AttributeGroup × Attribute) : Prop where
  id : entry.id = own.2.id
  place : ∃ fields, document.at? entry.path = some (.record fields) ∧ own.2.Spells fields
  group : (entry.group.map fun number => groups[number]?) = own.1.map some

/-- The index of a solution says what the typed solution says: its attributes and groups in their
order, the leaves of the conditions of each of them in theirs, and which attributes wait for which
others. -/
structure Mirrors (document : Document) (index : SolutionIndex) (solution : Solution) : Prop where
  attributes : List.Forall₂ (MirrorsAttribute document solution.groups) index.attributes solution.flat
  /-- The groups have the numbers of the catalog, that is, in the order of their declaration. -/
  numbers : index.attributes.map AttributeEntry.group
    = (Catalog.ofSolution solution).attributes.map Prod.fst
  groups : List.Forall₂ (Gathers document) index.groups solution.groups
  own : ∀ position, index.readsFrom (.attribute position)
    = Condition.allLeafIds (((solution.flat[position]?).bind fun own => own.2.conditions).getD [])
  gathered : ∀ number, index.readsFrom (.group number)
    = Condition.allLeafIds (((solution.groups[number]?).bind AttributeGroup.conditions).getD [])
  length : index.dependencies.length = solution.flat.length
  edges : ∀ source target,
    Edge index.dependencies source target ↔ (Catalog.ofSolution solution).Relies source target

/-- The group of an attribute in a catalog, looked up by its number, is the group around it. -/
theorem forall₂_ofSolution (solution : Solution) :
    List.Forall₂ (fun (entry : Option Nat × Attribute) (own : Option AttributeGroup × Attribute) =>
        (entry.1.map fun number => solution.groups[number]?) = own.1.map some)
      (Catalog.ofSolution solution).attributes solution.flat := by
  rw [← Catalog.map_ofSolution, List.forall₂_map_right_iff, List.forall₂_same]
  intro entry member
  cases inGroup : entry.1 with
  | none => rfl
  | some number =>
    have inside := Catalog.isNumbered_ofSolution solution entry member number inGroup
    rw [Option.map_some, Option.bind_some, List.getElem?_eq_getElem inside, Option.map_some]
    exact congrArg some (List.getElem?_eq_getElem inside)

/-- The attributes of an index stand where those of the solution are spelled. -/
theorem forall₂_index_attributes (spelled : SpelledAt document Solution.Spells site solution) :
    List.Forall₂ (fun entry own => entry.id = own.2.id
        ∧ ∃ fields, document.at? entry.path = some (.record fields) ∧ own.2.Spells fields)
      site.index.attributes solution.flat := by
  have declares := forall₂_attributes spelled
  have kept : site.attributes.filter (fun one => one.id?.isSome) = site.attributes :=
    filter_of_forall₂ declares fun _ _ declares => by rw [declares.id?, Option.isSome_some]
  have lists := (SolutionIndex.lists_index site).attributes
  rw [kept] at lists
  refine forall₂_trans lists declares fun entry declared own depicts declares => ⟨?_, ?_⟩
  · exact Option.some.inj (depicts.id.symm.trans declares.id?)
  · rw [depicts.place]
    exact ⟨declared.site.fields, declares.here, declares.spelled⟩

namespace SolutionIndex.Describes

variable {index : SolutionIndex} (describes : Describes index (Catalog.ofSolution solution).outline)
include describes

/-- The groups have the numbers of the catalog. -/
theorem map_group : index.attributes.map AttributeEntry.group
    = (Catalog.ofSolution solution).attributes.map Prod.fst := by
  have groups := congrArg (List.map Prod.snd) describes.attributes
  rw [Catalog.outline, List.map_map, List.map_map, List.map_map] at groups
  exact groups

/-- What the conditions of an attribute read. -/
theorem readsFrom_attribute (position : Nat) : index.readsFrom (.attribute position)
    = Condition.allLeafIds
        (((solution.flat[position]?).bind fun own => own.2.conditions).getD []) := by
  rw [describes.reads, Outline.readsOf, Catalog.outline, List.getElem?_map,
    ← Catalog.map_ofSolution, List.getElem?_map]
  cases (Catalog.ofSolution solution).attributes[position]? with
  | none => simp [Condition.allLeafIds]
  | some entry => rfl

/-- What the conditions of a group read. -/
theorem readsFrom_group (number : Nat) : index.readsFrom (.group number)
    = Condition.allLeafIds
        (((solution.groups[number]?).bind AttributeGroup.conditions).getD []) := by
  rw [describes.reads, Outline.readsOf, Catalog.outline, Catalog.ofSolution, List.getElem?_map]
  cases solution.groups[number]? with
  | none => simp [Condition.allLeafIds]
  | some gathered => rfl

end SolutionIndex.Describes

/-- **The index of a record mirrors the solution that the record spells**, if its shape and its names
are valid. -/
theorem mirrors_of_spelledAt {strict detectCycles : Bool}
    (spelled : SpelledAt document Solution.Spells site solution)
    (valid : ValidSolution strict site.fields) (names : ValidNames detectCycles site.fields) :
    Mirrors document site.index solution := by
  have outline := Solution.outline_of_spells spelled.spelled
  have describes : site.index.Describes (Catalog.ofSolution solution).outline :=
    outline ▸ SolutionIndex.describes_ofFields valid site.place
  have placed := forall₂_index_attributes spelled
  have numbered : List.Forall₂ (fun entry catalogued => entry.group = catalogued.1)
      site.index.attributes (Catalog.ofSolution solution).attributes := by
    rw [← List.forall₂_map_right_iff, ← List.forall₂_map_left_iff, List.forall₂_eq_eq_eq]
    exact describes.map_group
  have grouped := forall₂_trans numbered (forall₂_ofSolution solution)
    fun entry catalogued own same inGroup => same ▸ inGroup
  constructor
  · exact placed.mp (fun _ _ here inGroup => ⟨here.1, here.2, inGroup⟩) grouped
  · exact describes.map_group
  · rw [(SolutionIndex.lists_index site).groups]
    exact forall₂_groups spelled
  · exact describes.readsFrom_attribute
  · exact describes.readsFrom_group
  · rw [SolutionIndex.length_dependencies, placed.length_eq]
  · exact fun _ _ => describes.edge_iff_relies (outline ▸ names.sound)

/-- The solutions of a document whose shape and names are valid, side by side with those of the
schema that it spells. -/
theorem forall₂_mirrors {strict detectCycles : Bool} {fields : Fields} {schema : Schema}
    (valid : ValidSchema strict fields) (names : WellNamed detectCycles (.record fields))
    (spelled : schema.Spells fields) :
    List.Forall₂ (Mirrors (.record fields)) (solutionIndexes (.record fields)) schema.solutions := by
  obtain ⟨items, listed, each⟩ := spelled.solutions
  obtain ⟨others, same, shapes⟩ := valid.solutions
  cases listed.symm.trans same
  obtain ⟨_, ⟨⟩, _, wellNamed⟩ := names
  rw [listOf_of_lookup listed] at wellNamed
  have spelledEach : List.Forall₂ (SpellsRecord fun its solution => Solution.Spells its solution
      ∧ ValidSolution strict its ∧ ValidNames detectCycles its) items schema.solutions := by
    have all : ∀ item ∈ items, IsRecord (ValidSolution strict) item
        ∧ IsRecord (ValidNames detectCycles) item :=
      fun item member => ⟨shapes item member, wellNamed item member⟩
    refine ((List.forall₂_and_left _ _).mpr ⟨all, each⟩).imp ?_
    rintro _ solution ⟨⟨⟨its, rfl, valid⟩, ⟨_, ⟨⟩, named⟩⟩, ⟨_, ⟨⟩, spelled⟩⟩
    exact ⟨its, rfl, spelled, valid, named⟩
  have sites := @forall₂_under (.record fields) ⟨.root, fields⟩ _ _ "solutions" _ rfl
    ⟨items, listed, spelledEach⟩
  rw [solutionIndexes_eq, solutions, Site.ofDocument, List.flatMap_singleton,
    List.forall₂_map_left_iff]
  exact sites.imp fun site solution spelled =>
    mirrors_of_spelledAt ⟨spelled.here, spelled.spelled.1⟩ spelled.spelled.2.1 spelled.spelled.2.2

end Grammar

namespace Validator

variable {validator : Validator} {document : Document} {schema : Schema}

/-- **The indexes of an accepted document mirror the solutions of its schema**, one by one. No record
of the document may have a key twice, but its fields may stand in any order. -/
theorem mirrors_of_validate (unique : document.HasUniqueKeys)
    (accepted : validator.validate document = .ok schema) :
    List.Forall₂ (Mirrors document) (solutionIndexes document) schema.solutions := by
  obtain ⟨nothing, readable⟩ := accepted_of_validate accepted
  obtain ⟨shape, names⟩ := (validator.violations_eq_nil_iff document).mp nothing
  obtain ⟨fields, rfl, valid⟩ := shape
  obtain ⟨again, spelled⟩ := Schema.exists_spells valid
  cases readable.symm.trans (Schema.ofDocument_of_spells .tree unique spelled)
  exact forall₂_mirrors valid names spelled

/-- The index of a page with an attribute of its own and with groups. -/
theorem mirrors_of_validate_doublePage : ∃ index, solutionIndexes doublePage = [index]
    ∧ index.attributes.map (fun entry => (entry.id, entry.group))
      = [("mode", none), ("width", some 0), ("height", some 1), ("shade", some 2)]
    ∧ index.readsFrom (.group 0) = ["mode"] ∧ Mirrors doublePage index doubleSolution := by
  have mirrored := mirrors_of_validate isCanonical_doublePage.hasUniqueKeys validate_doublePage
  exact ⟨_, rfl, rfl, rfl, (List.forall₂_cons.mp mirrored).1⟩

end Validator

end PageAttributes
