/-
**The index of a well-shaped solution spells its outline.**

* `map_referencesOf` — without their places the references in conditions are the ids of the leaves;
* `SolutionIndex.Describes` — an index and an outline say the same: the same attributes in the same
  groups, and for every owner the same references;
* `SolutionIndex.describes_ofFields` — the index of a well-shaped solution describes its outline.

Attributes and groups are numbered while the index still grows. What carries the induction is that
an owner beyond those listed so far has no references: the numbers that are given next are unused.
-/

import PageAttributes.Grammar.Index
import PageAttributes.Proofs.Document.Lookup
import PageAttributes.Proofs.Grammar.Items
import PageAttributes.Proofs.Grammar.Rules

namespace PageAttributes.Grammar

variable {strict : Bool}

/-! ### References and leaves -/

theorem referencesInField_eq (depth : Nat) (path : Path) (fields : Fields) :
    referencesInField depth path fields
      = ((fields.lookup "conditions").map (referencesInMembers depth path)).getD [] := by
  induction fields with
  | nil => rw [referencesInField, List.lookup_nil]; rfl
  | cons field rest ih =>
    obtain ⟨key, value⟩ := field
    rw [referencesInField, lookup_field, ih]
    split <;> rfl

theorem referencesInEach_eq (depth position : Nat) (path : Path) (items : List Document) :
    referencesInEach depth path position items
      = eachItem (referencesIn depth) path position items := by
  induction items generalizing position with
  | nil => rw [referencesInEach, eachItem]
  | cons item rest ih => rw [referencesInEach, eachItem, ih]

/-- The references in a group of conditions are those in its members. -/
theorem referencesInField_eq_eachItem (depth : Nat) (path : Path) (fields : Fields) :
    referencesInField depth path fields
      = eachItem (referencesIn depth) path 0 (listOf fields "conditions") := by
  rw [referencesInField_eq, listOf]
  cases fields.lookup "conditions" with
  | none => rfl
  | some found =>
    cases found with
    | list items => exact referencesInEach_eq ..
    | _ => rfl

/-- A condition nested too deep is not looked at. -/
theorem referencesIn_deep {depth : Nat} (deep : Condition.depthLimit < depth) (path : Path)
    (item : Document) : referencesIn depth path item = [] := by
  cases item <;> simp [referencesIn, deep]

/-- Without their places the references in a condition are the ids of its leaves. -/
theorem map_referencesIn (levels : Nat) :
    ∀ depth, Condition.depthLimit + 1 - depth = levels → ∀ document,
      ValidCondition strict levels document →
        ∀ path, (referencesIn depth path document).map Prod.fst = leafIds document := by
  induction levels with
  | zero => exact fun _ _ _ valid => nomatch valid
  | succ levels ih =>
    intro depth left document valid path
    have notDeep : ¬ Condition.depthLimit < depth := by omega
    cases valid with
    | leaf _ fields type _ attributeId _ =>
      obtain ⟨id, named⟩ := attributeId
      simp [referencesIn, leafIds, notDeep, textOf?, type, named, leafReference]
    | group _ fields members type _ _ listed _ each =>
      have inner := ih (depth + 1) (by omega)
      simp only [referencesIn, leafIds, if_neg notDeep, textOf?, type, referencesInField_eq,
        leafIdsUnder_eq, listed, Option.map_some, Option.getD_some, referencesInMembers, leafIdsOf,
        referencesInEach_eq, leafIdsOfEach_eq]
      exact map_eachItem fun member inside => inner member (each member inside)

/-- Without their places the references of an attribute or a group are the ids that it reads. -/
theorem map_referencesOf {fields : Fields} (valid : ValidRestrictions strict fields) (path : Path) :
    (referencesOf fields path).map Prod.fst = readsOf fields := by
  rw [referencesOf, readsOf, referencesInEach_eq, leafIdsOfEach_eq]
  refine map_eachItem fun item member => ?_
  cases listed : fields.lookup "conditions" with
  | none => simp [listOf, listed] at member
  | some found =>
    obtain ⟨items, rfl, each⟩ := valid.conditions found listed
    rw [listOf, listed] at member
    exact map_referencesIn Condition.depthLimit 1 (by omega) item (each item member)

/-! ### Owners -/

/-- The ids that the conditions of an owner read. -/
def Outline.readsOf (outline : Outline) : Owner → List String
  | .attribute position => ((outline.attributes[position]?).map Declaration.reads).getD []
  | .group number => (outline.groups[number]?).getD []

namespace SolutionIndex

/-- The ids that the references of an owner name. -/
def readsFrom (index : SolutionIndex) (owner : Owner) : List String :=
  (index.references.filter fun reference => reference.owner == owner).map Reference.attributeId

theorem map_ownedBy {owner other : Owner} (references : List (String × Path)) :
    ((ownedBy owner references).filter fun reference => reference.owner == other).map
        Reference.attributeId
      = if owner = other then references.map Prod.fst else [] := by
  unfold ownedBy
  by_cases same : owner = other
  · simp [same, List.filter_map, Function.comp_def]
  · simp [same, List.filter_map, Function.comp_def]

/-! ### What stays -/

/-- What an index holds before any attribute is added. -/
def head (index : SolutionIndex) : Path × Option String × List (String × Path) :=
  (index.path, index.id, index.scripts)

@[simp] theorem head_addAttribute (index : SolutionIndex) (group : Option Nat) (path : Path)
    (fields : Fields) : (index.addAttribute group path fields).head = index.head := by
  unfold SolutionIndex.addAttribute
  split <;> rfl

@[simp] theorem head_addMember (index : SolutionIndex) (group : Nat) (path : Path)
    (item : Document) : (index.addMember group path item).head = index.head := by
  unfold addMember
  split
  · split
    · exact head_addAttribute ..
    · rfl
  · rfl

@[simp] theorem head_addMembers (group : Nat) (path : Path) (items : List Document) :
    ∀ (index : SolutionIndex) (position : Nat),
      (index.addMembers group path position items).head = index.head := by
  induction items with
  | nil => exact fun _ _ => rfl
  | cons item rest ih =>
    intro index position
    rw [SolutionIndex.addMembers, ih, head_addMember]

@[simp] theorem head_addNode (index : SolutionIndex) (path : Path) (item : Document) :
    (index.addNode path item).head = index.head := by
  unfold addNode
  split
  · split
    · exact head_addAttribute ..
    · exact head_addMembers ..
    · rfl
  · rfl

@[simp] theorem head_addNodes (path : Path) (items : List Document) :
    ∀ (index : SolutionIndex) (position : Nat),
      (index.addNodes path position items).head = index.head := by
  induction items with
  | nil => exact fun _ _ => rfl
  | cons item rest ih =>
    intro index position
    rw [SolutionIndex.addNodes, ih, head_addNode]

/-- The names of a solution and of its scripts are found before its attributes. -/
theorem head_ofFields (path : Path) (fields : Fields) :
    (ofFields path fields).head = (path, textOf? fields "id",
      eachItem scriptId (path.field "scripts") 0 (listOf fields "scripts")) := by
  rw [ofFields, head_addNodes, head]

/-! ### The outline -/

/-- An index and an outline say the same. -/
structure Describes (index : SolutionIndex) (outline : Outline) : Prop where
  attributes : index.attributes.map (fun entry => (entry.id, entry.group))
    = outline.attributes.map fun declared => (declared.id, declared.group)
  groups : index.groups.length = outline.groups.length
  reads : ∀ owner, index.readsFrom owner = outline.readsOf owner

variable {index : SolutionIndex} {attributes : List Declaration} {groups : List (List String)}

theorem Describes.length (describes : Describes index ⟨attributes, groups⟩) :
    index.attributes.length = attributes.length := by
  have lengths := congrArg List.length describes.attributes
  rwa [List.length_map, List.length_map] at lengths

/-- A list with one more item at its end. -/
theorem getElem?_concat {α : Type} (items : List α) (last : α) (position : Nat) :
    (items ++ [last])[position]?
      = if items.length = position then some last else items[position]? := by
  by_cases same : items.length = position
  · rw [if_pos same, ← same, List.getElem?_concat_length]
  · rw [if_neg same]
    by_cases inside : position < items.length
    · rw [List.getElem?_append_left inside]
    · rw [List.getElem?_eq_none (by rw [List.length_append, List.length_singleton]; omega),
        List.getElem?_eq_none (by omega)]

/-- An attribute with an id is listed next, with what its conditions read. -/
theorem Describes.addAttribute {fields : Fields} (describes : Describes index ⟨attributes, groups⟩)
    (valid : ValidRestrictions strict fields) (group : Option Nat) (path : Path) :
    Describes (index.addAttribute group path fields)
      ⟨attributes ++ declarationOf group fields, groups⟩ := by
  unfold SolutionIndex.addAttribute declarationOf
  cases textOf? fields "id" with
  | none => simpa using describes
  | some id =>
    have number := describes.length
    refine ⟨?_, describes.groups, fun owner => ?_⟩
    · simp only [List.map_append, describes.attributes, List.map_cons, List.map_nil]
    · have before := describes.reads owner
      simp only [readsFrom, List.filter_append, List.map_append, map_ownedBy,
        map_referencesOf valid] at before ⊢
      rw [before]
      match owner with
      | .group other => simp [Outline.readsOf]
      | .attribute position =>
        simp only [Outline.readsOf, getElem?_concat, Owner.attribute.injEq, number]
        split
        · rename_i same
          simp [← same]
        · simp

/-- The members of a group that are attributes are listed next. -/
theorem Describes.addMembers (group : Nat) (path : Path) (items : List Document)
    (valid : ∀ item ∈ items, IsRecord (ValidMember strict) item) :
    ∀ {index : SolutionIndex} {attributes : List Declaration} (position : Nat),
      Describes index ⟨attributes, groups⟩ →
        Describes (index.addMembers group path position items)
          ⟨attributes ++ items.flatMap (memberDeclaration group), groups⟩ := by
  induction items with
  | nil =>
    intro index attributes position describes
    simpa [SolutionIndex.addMembers] using describes
  | cons item rest ih =>
    intro index attributes position describes
    obtain ⟨fields, rfl, type, declared⟩ := valid item (.head _)
    have isAttribute : textOf? fields "type" = some "attribute" := by rw [textOf?, type]
    have next := describes.addAttribute declared.restrictions (some group) (path.index position)
    have others := ih (fun item member => valid item (.tail _ member)) (position + 1) next
    rw [SolutionIndex.addMembers, addMember, if_pos isAttribute, List.flatMap_cons,
      memberDeclaration, if_pos isAttribute, ← List.append_assoc]
    exact others

/-- A group is listed with its members, and at the end with what its conditions read. -/
theorem Describes.addGroup {fields : Fields} (describes : Describes index ⟨attributes, groups⟩)
    (valid : ValidGroup strict fields) (path : Path) :
    Describes (index.addGroup path fields)
      ⟨attributes ++ (listOf fields "attributes").flatMap (memberDeclaration groups.length),
        groups ++ [readsOf fields]⟩ := by
  obtain ⟨members, listed, _, each⟩ := valid.members
  have number := describes.groups
  have opened : Describes { index with groups := index.groups ++ [path] }
      ⟨attributes, groups ++ [[]]⟩ := by
    refine ⟨describes.attributes, by simp [number], fun owner => ?_⟩
    have before := describes.reads owner
    simp only [readsFrom] at before ⊢
    rw [before]
    match owner with
    | .attribute position => rfl
    | .group other =>
      simp only [Outline.readsOf, getElem?_concat]
      split
      · rename_i same
        simp [← same]
      · rfl
  have gathered := opened.addMembers groups.length (path.field "attributes") members each 0
  unfold SolutionIndex.addGroup
  simp only [number, listOf, listed]
  refine ⟨gathered.attributes, gathered.groups.trans (by simp), fun owner => ?_⟩
  have before := gathered.reads owner
  simp only [readsFrom, List.filter_append, List.map_append, map_ownedBy,
    map_referencesOf valid.restrictions] at before ⊢
  rw [before]
  match owner with
  | .attribute position => simp [Outline.readsOf]
  | .group other =>
    simp only [Outline.readsOf, getElem?_concat, Owner.group.injEq]
    split <;> simp

/-- The entries of an attribute list are listed one after another. -/
theorem Describes.addNodes (path : Path) (items : List Document)
    (valid : ∀ item ∈ items, IsRecord (ValidNode strict) item) :
    ∀ {index : SolutionIndex} {attributes : List Declaration} {groups : List (List String)}
      (position : Nat), Describes index ⟨attributes, groups⟩ →
        Describes (index.addNodes path position items)
          ⟨attributes ++ declarations groups.length items, groups ++ gatheredReads items⟩ := by
  induction items with
  | nil =>
    intro index attributes groups position describes
    simpa [SolutionIndex.addNodes, declarations, gatheredReads] using describes
  | cons item rest ih =>
    intro index attributes groups position describes
    have restValid := fun item member => valid item (List.mem_cons_of_mem _ member)
    obtain ⟨fields, rfl, node⟩ := valid item (.head _)
    rw [SolutionIndex.addNodes]
    cases node with
    | single type declared =>
      have isAttribute : textOf? fields "type" = some "attribute" := by rw [textOf?, type]
      have next := describes.addAttribute declared.restrictions none (path.index position)
      have others := ih restValid (position + 1) next
      simp only [addNode, declarations, gatheredReads, isAttribute]
      simpa using others
    | group type gathered =>
      have isGroup : textOf? fields "type" = some "group" := by rw [textOf?, type]
      have next := describes.addGroup gathered (path.index position)
      have others := ih restValid (position + 1) next
      simp only [addNode, declarations, gatheredReads, isGroup]
      simpa using others

/-- **The index of a well-shaped solution describes its outline.** -/
theorem describes_ofFields {fields : Fields} (valid : ValidSolution strict fields) (path : Path) :
    Describes (ofFields path fields) (Outline.ofFields fields) := by
  obtain ⟨nodes, listed, each⟩ := valid.attributes
  have empty : Describes
      { path := path
        id := textOf? fields "id"
        scripts := eachItem scriptId (path.field "scripts") 0 (listOf fields "scripts")
        attributes := []
        groups := []
        references := [] } ⟨[], []⟩ :=
    ⟨rfl, rfl, fun owner => by cases owner <;> rfl⟩
  have whole := empty.addNodes (path.field "attributes") nodes each 0
  unfold ofFields Outline.ofFields
  simp only [listOf, listed]
  exact whole

end SolutionIndex

end PageAttributes.Grammar
