/-
**Everything in an index points at its part of the document.**

* `isThere_referencesOf` — the references in conditions stand where the leaves name their ids;
* `SolutionIndex.Placed` — attributes stand where their records are, the members of a group inside
  it, and whatever owns a reference has conditions;
* `SolutionIndex.Placed.addAttribute`, `SolutionIndex.Placed.addGroup`,
  `SolutionIndex.Placed.addNodes` — an index stays placed while it grows. What was listed before
  keeps its number, since an index grows at its end;
* `SolutionIndex.placed_ofFields` — the index of a solution is placed;
* `exists_of_mem_solutionIndexes` — every index of a document is that of a record in it.
-/

import PageAttributes.Proofs.Grammar.Index
import PageAttributes.Proofs.Grammar.Places

namespace PageAttributes.Grammar

variable {document : Document} {path : Path} {fields : Fields}

/-! ### References -/

/-- The references in a condition stand where its leaves name their ids. -/
theorem isThere_referencesIn (levels : Nat) :
    ∀ depth, Condition.depthLimit + 1 - depth = levels → ∀ path item,
      document.at? path = some item →
        ∀ reference ∈ referencesIn depth path item, IsThere document reference.2 := by
  induction levels with
  | zero =>
    intro depth left path item here
    rw [referencesIn_deep (by omega)]
    exact List.forall_mem_nil _
  | succ levels ih =>
    intro depth left path item here
    have notDeep : ¬ Condition.depthLimit < depth := by omega
    cases item with
    | record fields =>
      rw [referencesIn, if_neg notDeep]
      split
      · unfold leafReference
        split
        · rename_i id named
          exact List.forall_mem_singleton.mpr (isThere_text here named)
        · exact List.forall_mem_nil _
      · rw [referencesInField_eq_eachItem]
        exact forall_mem_eachItem_field here (ih (depth + 1) (by omega))
      · exact List.forall_mem_nil _
    | _ => exact List.forall_mem_nil _

/-- The references of an attribute or a group stand where the leaves name their ids, and where there
are some there are conditions. -/
theorem isThere_referencesOf (here : document.at? path = some (.record fields)) :
    ∀ reference ∈ referencesOf fields path, IsThere document reference.2
      ∧ HasField document path "conditions" := by
  have each := @isThere_referencesIn document Condition.depthLimit 1 (by omega)
  have there := @forall_mem_eachItem_field document _ _ "conditions" _ _ _ here each
  intro reference member
  rw [referencesOf, referencesInEach_eq] at member
  refine ⟨there reference member, fields, here, ?_⟩
  cases found : fields.lookup "conditions" with
  | none =>
    rw [listOf, found] at member
    cases member
  | some _ => rfl

namespace SolutionIndex

/-! ### Places in an index -/

/-- An attribute stands where its record is, and if it is in a group, then inside it. -/
structure PlacesEntry (document : Document) (groups : List Path) (entry : AttributeEntry) :
    Prop where
  id : HasField document entry.path "id"
  inside : ∀ number, entry.group = some number → ∃ group position, groups[number]? = some group
    ∧ entry.path = (Path.field group "attributes").index position

/-- The place of an owner, which has to have conditions. -/
def PlacesOwner (document : Document) (index : SolutionIndex) : Owner → Prop
  | .attribute position => ∃ entry, index.attributes[position]? = some entry
      ∧ HasField document entry.path "conditions"
  | .group number => ∃ group, index.groups[number]? = some group
      ∧ HasField document group "conditions"

/-- Everything in an index points at its part of a document. -/
structure Placed (document : Document) (index : SolutionIndex) : Prop where
  attributes : ∀ entry ∈ index.attributes, PlacesEntry document index.groups entry
  references : ∀ reference ∈ index.references,
    IsThere document reference.path ∧ PlacesOwner document index reference.owner

/-- An index that lists what another one does, and maybe more behind it. -/
structure Extends (before after : SolutionIndex) : Prop where
  attributes : before.attributes <+: after.attributes
  groups : before.groups <+: after.groups

variable {index after : SolutionIndex}

theorem getElem?_of_prefix {α : Type} {before after : List α} (more : before <+: after)
    {position : Nat} {item : α} (listed : before[position]? = some item) :
    after[position]? = some item := by
  obtain ⟨rest, rfl⟩ := more
  obtain ⟨inside, _⟩ := List.getElem?_eq_some_iff.mp listed
  rw [List.getElem?_append_left inside, listed]

/-- The group of an attribute keeps its number. -/
theorem PlacesEntry.extend {groups more : List Path} {entry : AttributeEntry}
    (extends_ : groups <+: more) (places : PlacesEntry document groups entry) :
    PlacesEntry document more entry := by
  refine ⟨places.id, fun number inGroup => ?_⟩
  obtain ⟨group, position, listed, same⟩ := places.inside number inGroup
  exact ⟨group, position, getElem?_of_prefix extends_ listed, same⟩

/-- An owner keeps its number. -/
theorem PlacesOwner.extend {owner : Owner} (extends_ : Extends index after)
    (places : PlacesOwner document index owner) : PlacesOwner document after owner := by
  match owner, places with
  | .attribute _, ⟨entry, listed, conditioned⟩ =>
    exact ⟨entry, getElem?_of_prefix extends_.attributes listed, conditioned⟩
  | .group _, ⟨group, listed, conditioned⟩ =>
    exact ⟨group, getElem?_of_prefix extends_.groups listed, conditioned⟩

theorem Placed.references_extend (placed : Placed document index)
    (extends_ : Extends index after) : ∀ reference ∈ index.references,
      IsThere document reference.path ∧ PlacesOwner document after reference.owner :=
  fun reference member => (placed.references reference member).imp_right (.extend extends_)

/-- The references of an owner that is listed. -/
theorem forall_mem_ownedBy (here : document.at? path = some (.record fields)) {owner : Owner}
    (listed : HasField document path "conditions" → PlacesOwner document index owner) :
    ∀ reference ∈ ownedBy owner (referencesOf fields path),
      IsThere document reference.path ∧ PlacesOwner document index reference.owner := by
  refine List.forall_mem_map.mpr fun reference member => ?_
  exact (isThere_referencesOf here reference member).imp_right listed

/-! ### Growing -/

/-- An attribute at its place. -/
theorem Placed.addAttribute (placed : Placed document index) {group : Option Nat}
    (here : document.at? path = some (.record fields))
    (inside : ∀ number, group = some number → ∃ place position,
      index.groups[number]? = some place ∧ path = (Path.field place "attributes").index position) :
    Placed document (index.addAttribute group path fields) := by
  unfold SolutionIndex.addAttribute
  split
  · rename_i id named
    constructor
    · refine List.forall_mem_append.mpr ⟨placed.attributes, List.forall_mem_singleton.mpr ?_⟩
      refine ⟨⟨fields, here, ?_⟩, inside⟩
      rw [textOf?_eq_some_iff.mp named]
      rfl
    · refine List.forall_mem_append.mpr ⟨placed.references_extend ?_, forall_mem_ownedBy here ?_⟩
      · exact ⟨List.prefix_append _ _, List.prefix_refl _⟩
      · exact fun conditioned => ⟨_, List.getElem?_concat_length, conditioned⟩
  · exact placed

@[simp] theorem groups_addAttribute (index : SolutionIndex) (group : Option Nat) (path : Path)
    (fields : Fields) : (index.addAttribute group path fields).groups = index.groups := by
  unfold SolutionIndex.addAttribute
  split <;> rfl

@[simp] theorem groups_addMember (index : SolutionIndex) (group : Nat) (path : Path)
    (item : Document) : (index.addMember group path item).groups = index.groups := by
  unfold addMember
  split
  · split
    · exact groups_addAttribute ..
    · rfl
  · rfl

@[simp] theorem groups_addMembers (group : Nat) (path : Path) (items : List Document) :
    ∀ (index : SolutionIndex) (position : Nat),
      (index.addMembers group path position items).groups = index.groups := by
  induction items with
  | nil => exact fun _ _ => rfl
  | cons item rest ih =>
    intro index position
    rw [SolutionIndex.addMembers, ih, groups_addMember]

/-- The members of a group at their places. -/
theorem Placed.addMembers {number : Nat} {group : Path} {items : List Document} :
    ∀ {index : SolutionIndex} {before : List Document}, Placed document index →
      index.groups[number]? = some group →
      document.at? (group.field "attributes") = some (.list (before ++ items)) →
      Placed document (index.addMembers number (group.field "attributes") before.length items) := by
  induction items with
  | nil => exact fun placed _ _ => placed
  | cons item rest ih =>
    intro index before placed listed here
    have there := Document.at?_index_length here
    have next : Placed document
        (index.addMember number ((group.field "attributes").index before.length) item) := by
      unfold addMember
      split
      · split
        · refine placed.addAttribute there fun _ same => ?_
          cases same
          exact ⟨group, before.length, listed, rfl⟩
        · exact placed
      · exact placed
    have others := @ih _ (before ++ [item]) next (by rwa [groups_addMember])
      (by rwa [List.append_assoc, List.singleton_append])
    rw [List.length_append, List.length_singleton] at others
    exact others

/-- A group at its place, with its members. -/
theorem Placed.addGroup (placed : Placed document index)
    (here : document.at? path = some (.record fields)) :
    Placed document (index.addGroup path fields) := by
  have opened : Placed document { index with groups := index.groups ++ [path] } := by
    refine ⟨fun entry member => ?_, placed.references_extend ?_⟩
    · exact (placed.attributes entry member).extend (List.prefix_append _ _)
    · exact ⟨List.prefix_refl _, List.prefix_append _ _⟩
  have listed : (index.groups ++ [path])[index.groups.length]? = some path :=
    List.getElem?_concat_length
  have gathered : Placed document
      ({ index with groups := index.groups ++ [path] }.addMembers index.groups.length
        (path.field "attributes") 0 (listOf fields "attributes")) := by
    rcases at?_listOf here "attributes" with nothing | there
    · rw [nothing]
      exact opened
    · exact opened.addMembers listed there
  refine ⟨gathered.attributes, List.forall_mem_append.mpr ⟨?_, forall_mem_ownedBy here ?_⟩⟩
  · exact gathered.references_extend ⟨List.prefix_refl _, List.prefix_refl _⟩
  · intro conditioned
    refine ⟨path, ?_, conditioned⟩
    unfold SolutionIndex.addGroup
    dsimp only
    rw [groups_addMembers]
    exact listed

/-- The entries of an attribute list at their places. -/
theorem Placed.addNodes {items : List Document} :
    ∀ {index : SolutionIndex} {before : List Document}, Placed document index →
      document.at? path = some (.list (before ++ items)) →
      Placed document (index.addNodes path before.length items) := by
  induction items with
  | nil => exact fun placed _ => placed
  | cons item rest ih =>
    intro index before placed here
    have there := Document.at?_index_length here
    have next : Placed document (index.addNode (path.index before.length) item) := by
      unfold addNode
      split
      · split
        · exact placed.addAttribute there fun _ same => nomatch same
        · exact placed.addGroup there
        · exact placed
      · exact placed
    have others := @ih _ (before ++ [item]) next (by rwa [List.append_assoc, List.singleton_append])
    rw [List.length_append, List.length_singleton] at others
    exact others

/-- The index of a solution at its place. -/
theorem placed_ofFields (here : document.at? path = some (.record fields)) :
    Placed document (ofFields path fields) := by
  have empty : Placed document
      { path := path
        id := textOf? fields "id"
        scripts := eachItem scriptId (path.field "scripts") 0 (listOf fields "scripts")
        attributes := []
        groups := []
        references := [] } := ⟨List.forall_mem_nil _, List.forall_mem_nil _⟩
  unfold ofFields
  rcases at?_listOf here "attributes" with nothing | there
  · rw [nothing]
    exact empty
  · exact empty.addNodes there

theorem path_ofFields (path : Path) (fields : Fields) : (ofFields path fields).path = path :=
  congrArg (fun head => head.1) (head_ofFields path fields)

theorem id_ofFields (path : Path) (fields : Fields) :
    (ofFields path fields).id = textOf? fields "id" :=
  congrArg (fun head => head.2.1) (head_ofFields path fields)

theorem scripts_ofFields (path : Path) (fields : Fields) : (ofFields path fields).scripts
    = eachItem scriptId (path.field "scripts") 0 (listOf fields "scripts") :=
  congrArg (fun head => head.2.2) (head_ofFields path fields)

/-- The ids of scripts stand where they are. -/
theorem isThere_scripts (here : document.at? path = some (.record fields)) :
    ∀ script ∈ (ofFields path fields).scripts, IsThere document script.2 := by
  rw [scripts_ofFields]
  refine forall_mem_eachItem_field here fun path item there => ?_
  unfold scriptId
  split
  · split
    · rename_i id named
      exact List.forall_mem_singleton.mpr (isThere_text there named)
    · exact List.forall_mem_nil _
  · exact List.forall_mem_nil _

end SolutionIndex

/-! ### Documents -/

/-- **Every index of a document is that of a record in it.** -/
theorem exists_of_mem_solutionIndexes : ∀ index ∈ solutionIndexes document, ∃ path fields,
    document.at? path = some (.record fields) ∧ index = SolutionIndex.ofFields path fields := by
  unfold solutionIndexes
  cases document with
  | record fields =>
    have here : (Document.record fields).at? Path.root = some (.record fields) := rfl
    refine forall_mem_eachItem_field here fun path item there => ?_
    unfold SolutionIndex.ofDocument
    split
    · exact List.forall_mem_singleton.mpr ⟨path, _, there, rfl⟩
    · exact List.forall_mem_nil _
  | _ => exact List.forall_mem_nil _

end PageAttributes.Grammar
