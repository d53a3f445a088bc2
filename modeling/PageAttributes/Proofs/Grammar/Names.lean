/-
**The names of a document are compared as the rules say.**

* `repeatedIds_eq_nil_iff` — no id is used a second time exactly if the ids are unique;
* `SolutionIndex.filterMap_referenceViolation?_eq_nil_iff` — nothing is wrong with the references
  exactly if every condition reads attributes that it may read;
* `SolutionIndex.findCycles_dependencies_eq_nil_iff` — no cycle is found exactly if no attribute
  reads itself over others;
* `crossViolations_eq_nil_iff` — the names of a well-shaped document are accepted exactly if it is
  well-named.

An index refers to attributes by number, its outline by id. Where ids are unique the two are the
same, and paths among the numbers are paths among the ids.
-/

import PageAttributes.Grammar.References
import PageAttributes.Proofs.Grammar.Cycles
import PageAttributes.Proofs.Grammar.Index
import PageAttributes.Proofs.Grammar.Shape

namespace PageAttributes.Grammar

variable {strict detectCycles : Bool} {outline : Outline} {index : SolutionIndex}

/-! ### Unique ids -/

theorem repeatedAfter_eq_nil_iff {scope : IdScope} {seen entries : List (String × Path)} :
    repeatedAfter scope seen entries = []
      ↔ Unseen (seen.map Prod.fst) (entries.map Prod.fst) := by
  induction entries generalizing seen with
  | nil => simp [repeatedAfter, Unseen]
  | cons entry rest ih =>
    obtain ⟨id, path⟩ := entry
    rw [List.map_cons, unseen_cons, repeatedAfter, ← lookup_eq_none_iff_not_mem]
    cases earlier : seen.lookup id with
    | some first => simp
    | none => simp [ih]

/-- No id is used a second time exactly if the ids are unique. -/
theorem repeatedIds_eq_nil_iff {scope : IdScope} {entries : List (String × Path)} :
    repeatedIds scope entries = [] ↔ (entries.map Prod.fst).Nodup := by
  rw [repeatedIds, repeatedAfter_eq_nil_iff, List.map_nil, unseen_nil_left]

/-- The ids of scripts, without their places. -/
theorem map_scriptId (path : Path) (position : Nat) (items : List Document) :
    (eachItem SolutionIndex.scriptId path position items).map Prod.fst = textsUnder "id" items := by
  induction items generalizing position with
  | nil => rfl
  | cons item rest ih =>
    rw [eachItem, List.map_append, ih, textsUnder, textsUnder, List.filterMap_cons]
    cases item with
    | record fields => cases known : textOf? fields "id" <;> simp [SolutionIndex.scriptId, known]
    | _ => rfl

/-! ### What a condition may read -/

/-- Outlines say of an owner which attributes it may read: those of the solution, but not itself or
its members. -/
def Outline.MayRead (outline : Outline) : Owner → String → Prop
  | .attribute position, id => id ∈ outline.ids ∧
      ∀ declared, outline.attributes[position]? = some declared → id ≠ declared.id
  | .group number, id => id ∈ outline.ids ∧
      ∀ declared ∈ outline.attributes, declared.group = some number → id ≠ declared.id

/-- An outline is sound exactly if its ids are unique and every owner reads what it may read. -/
theorem Outline.sound_iff :
    outline.Sound
      ↔ outline.ids.Nodup ∧ ∀ owner, ∀ id ∈ outline.readsOf owner, outline.MayRead owner id := by
  constructor
  · rintro ⟨unique, own, gathered⟩
    refine ⟨unique, fun owner id read => ?_⟩
    match owner with
    | .group number => exact gathered number id read
    | .attribute position =>
      unfold Outline.readsOf at read
      cases there : outline.attributes[position]? with
      | none => simp [there] at read
      | some declared =>
        simp only [there, Option.map_some, Option.getD_some] at read
        obtain ⟨known, other⟩ := own declared (List.mem_of_getElem? there) id read
        refine ⟨known, fun same equal => ?_⟩
        cases there.symm.trans equal
        exact other
  · rintro ⟨unique, allowed⟩
    refine ⟨unique, fun declared member id read => ?_, fun number => allowed (.group number)⟩
    obtain ⟨position, there⟩ := List.mem_iff_getElem?.mp member
    have may := allowed (.attribute position) id (by simpa [Outline.readsOf, there] using read)
    exact ⟨may.1, may.2 declared there⟩

/-- Where ids are unique, an attribute stands wherever its id stands. -/
theorem Outline.getElem?_of_id (unique : outline.ids.Nodup) {declared : Declaration}
    {position : Nat} (member : declared ∈ outline.attributes)
    (stands : outline.ids[position]? = some declared.id) :
    outline.attributes[position]? = some declared := by
  rw [Outline.ids, List.getElem?_map, Option.map_eq_some_iff] at stands
  obtain ⟨named, there, same⟩ := stands
  rw [there, List.inj_on_of_nodup_map unique (List.mem_of_getElem? there) member same]

/-- Where ids are unique, the attribute with an id is in a group exactly if some attribute with that
id is. -/
theorem Outline.group_of_id (unique : outline.ids.Nodup) {id : String} {target : Nat}
    (stands : outline.ids[target]? = some id) (number : Nat) :
    (outline.attributes[target]?).bind Declaration.group = some number
      ↔ ∃ declared ∈ outline.attributes, declared.group = some number ∧ id = declared.id := by
  constructor
  · intro inGroup
    obtain ⟨named, there, inGroup⟩ := Option.bind_eq_some_iff.mp inGroup
    rw [Outline.ids, List.getElem?_map, there] at stands
    exact ⟨named, List.mem_of_getElem? there, inGroup, (Option.some.inj stands).symm⟩
  · rintro ⟨declared, listed, inGroup, rfl⟩
    rwa [Outline.getElem?_of_id unique listed stands, Option.bind_some]

/-- Whatever is read is an attribute. -/
theorem Outline.mem_ids_of_reads (sound : outline.Sound) {reader id : String}
    (reads : outline.Reads reader id) : id ∈ outline.ids := by
  obtain ⟨declared, member, _, own | gathered⟩ := reads
  · exact (sound.own declared member id own).1
  · cases inGroup : declared.group with
    | none => simp [inGroup, Outline.groupReads] at gathered
    | some number =>
      rw [inGroup] at gathered
      exact (sound.gathered number id gathered).1

namespace SolutionIndex

/-! ### Numbers and ids -/

theorem Describes.ids (describes : Describes index outline) :
    index.attributes.map AttributeEntry.id = outline.ids := by
  have firsts := congrArg (List.map Prod.fst) describes.attributes
  rw [List.map_map, List.map_map] at firsts
  exact firsts

theorem Describes.attributeIds (describes : Describes index outline) :
    index.attributeIds.map Prod.fst = outline.ids := by
  rw [← describes.ids, SolutionIndex.attributeIds, List.map_map]
  rfl

theorem Describes.entry_id (describes : Describes index outline) (position : Nat) :
    (index.attributes[position]?).map AttributeEntry.id
      = (outline.attributes[position]?).map Declaration.id := by
  rw [← List.getElem?_map, describes.ids, Outline.ids, List.getElem?_map]

theorem Describes.entry_group (describes : Describes index outline) (position : Nat) :
    (index.attributes[position]?).map AttributeEntry.group
      = (outline.attributes[position]?).map Declaration.group := by
  have seconds := congrArg (List.map Prod.snd) describes.attributes
  simp only [List.map_map, Function.comp_def] at seconds
  rw [← List.getElem?_map, ← List.getElem?_map]
  exact congrArg (fun groups => groups[position]?) seconds

theorem Describes.group_bind (describes : Describes index outline) (position : Nat) :
    (index.attributes[position]?).bind AttributeEntry.group
      = (outline.attributes[position]?).bind Declaration.group := by
  have groups := congrArg Option.join (describes.entry_group position)
  simpa only [← Option.bind_id_eq_join, Option.bind_map, Function.id_comp] using groups

/-- Ids that are unique lead to the numbers under which they stand. -/
theorem Describes.position?_eq_some_iff (describes : Describes index outline)
    (unique : outline.ids.Nodup) {id : String} {position : Nat} :
    index.position? id = some position ↔ outline.ids[position]? = some id := by
  rw [← findIdx?_eq_some_iff_of_nodup unique, ← describes.ids, List.findIdx?_map]
  rfl

theorem Describes.position?_eq_none_iff (describes : Describes index outline) {id : String} :
    index.position? id = none ↔ id ∉ outline.ids := by
  rw [← describes.ids, SolutionIndex.position?, List.findIdx?_eq_none_iff]
  simp

/-! ### References -/

/-- Nothing is wrong with a reference exactly if its owner may read the attribute. -/
theorem Describes.referenceProblem?_eq_none_iff (describes : Describes index outline)
    (unique : outline.ids.Nodup) (reference : Reference) :
    index.referenceProblem? reference = none
      ↔ outline.MayRead reference.owner reference.attributeId := by
  obtain ⟨id, path, owner⟩ := reference
  unfold referenceProblem?
  cases found : index.position? id with
  | none =>
    have unknown := describes.position?_eq_none_iff.mp found
    obtain position | number := owner <;> simp [Outline.MayRead, unknown]
  | some target =>
    have stands := (describes.position?_eq_some_iff unique).mp found
    have known : id ∈ outline.ids := List.mem_of_getElem? stands
    match owner with
    | .attribute position =>
      simp only [Outline.MayRead, known, true_and, describes.entry_id position]
      cases outline.attributes[position]? <;> simp [eq_comm]
    | .group number =>
      have inGroup := Outline.group_of_id unique stands number
      rw [← describes.group_bind target] at inGroup
      simp only [Outline.MayRead, known, true_and, inGroup]
      simp

/-- Nothing is wrong with the references exactly if every owner reads what it may read. -/
theorem Describes.filterMap_referenceViolation?_eq_nil_iff (describes : Describes index outline)
    (unique : outline.ids.Nodup) :
    index.references.filterMap index.referenceViolation? = []
      ↔ ∀ owner, ∀ id ∈ outline.readsOf owner, outline.MayRead owner id := by
  simp only [List.filterMap_eq_nil_iff, referenceViolation?, Option.map_eq_none_iff,
    describes.referenceProblem?_eq_none_iff unique, ← describes.reads, readsFrom, List.mem_map,
    List.mem_filter, beq_iff_eq]
  constructor
  · rintro allowed owner id ⟨reference, ⟨member, rfl⟩, rfl⟩
    exact allowed reference member
  · exact fun allowed reference member => allowed _ _ ⟨reference, ⟨member, rfl⟩, rfl⟩

/-! ### Cycles -/

/-- Where nothing is wrong with the references, the targets of an owner are the numbers of the
attributes that it reads. -/
theorem Describes.mem_targetsOf_iff (describes : Describes index outline) (sound : outline.Sound)
    (owner : Owner) {target : Nat} :
    target ∈ index.targetsOf owner
      ↔ ∃ id ∈ outline.readsOf owner, outline.ids[target]? = some id := by
  have allowed := (Outline.sound_iff.mp sound).2
  rw [← describes.filterMap_referenceViolation?_eq_nil_iff sound.unique,
    List.filterMap_eq_nil_iff] at allowed
  have leads : ∀ reference ∈ index.references,
      index.target? reference = index.position? reference.attributeId := by
    intro reference member
    have fine := Option.map_eq_none_iff.mp (allowed reference member)
    rw [target?, if_pos (by rw [fine]; rfl)]
  rw [targetsOf, List.mem_filterMap, ← describes.reads, readsFrom]
  constructor
  · rintro ⟨reference, member, found⟩
    rw [leads reference (List.mem_of_mem_filter member)] at found
    exact ⟨reference.attributeId, List.mem_map_of_mem member,
      (describes.position?_eq_some_iff sound.unique).mp found⟩
  · rintro ⟨id, read, stands⟩
    obtain ⟨reference, member, rfl⟩ := List.mem_map.mp read
    refine ⟨reference, member, ?_⟩
    rw [leads reference (List.mem_of_mem_filter member)]
    exact (describes.position?_eq_some_iff sound.unique).mpr stands

/-- An attribute depends on those that its own conditions and those of its group read. -/
theorem Describes.mem_dependenciesOf_iff (describes : Describes index outline)
    (sound : outline.Sound) {position target : Nat} {entry : AttributeEntry} :
    target ∈ index.dependenciesOf position entry
      ↔ ∃ id, outline.ids[target]? = some id
          ∧ (id ∈ outline.readsOf (.attribute position) ∨ id ∈ outline.groupReads entry.group) := by
  rw [dependenciesOf, List.mem_eraseDups, List.mem_append, describes.mem_targetsOf_iff sound]
  simp only [and_or_left, exists_or]
  refine or_congr (exists_congr fun _ => and_comm) ?_
  cases entry.group with
  | none => simp [Outline.groupReads]
  | some number =>
    exact (describes.mem_targetsOf_iff sound (.group number)).trans
      (exists_congr fun _ => and_comm)

theorem Describes.edge_iff (describes : Describes index outline) (sound : outline.Sound)
    {source target : Nat} :
    Edge index.dependencies source target
      ↔ ∃ declared id, outline.attributes[source]? = some declared ∧ outline.ids[target]? = some id
          ∧ (id ∈ declared.reads ∨ id ∈ outline.groupReads declared.group) := by
  have group := describes.entry_group source
  unfold Edge dependencies
  rw [List.getElem?_mapIdx]
  cases there : outline.attributes[source]? with
  | none =>
    rw [there, Option.map_none, Option.map_eq_none_iff] at group
    simp [group]
  | some declared =>
    rw [there, Option.map_some, Option.map_eq_some_iff] at group
    obtain ⟨entry, here, inGroup⟩ := group
    have own : outline.readsOf (.attribute source) = declared.reads := by
      rw [Outline.readsOf, there, Option.map_some, Option.getD_some]
    rw [here, Option.map_some, Option.getD_some, describes.mem_dependenciesOf_iff sound, own,
      inGroup]
    simp

/-- **No cycle is found exactly if no attribute reads itself over others.** -/
theorem Describes.findCycles_dependencies_eq_nil_iff (describes : Describes index outline)
    (sound : outline.Sound) : findCycles index.dependencies = [] ↔ outline.Acyclic := by
  rw [findCycles_eq_nil_iff]
  constructor
  · intro acyclic id cycle
    refine acyclic _ (cycle.lift outline.ids.idxOf fun reader read reads => ?_)
    have known := outline.mem_ids_of_reads sound reads
    obtain ⟨declared, member, rfl, which⟩ := reads
    have stands := List.getElem?_idxOf (List.mem_map_of_mem (f := Declaration.id) member)
    exact (describes.edge_iff sound).mpr ⟨declared, read,
      Outline.getElem?_of_id sound.unique member stands, List.getElem?_idxOf known, which⟩
  · intro acyclic position cycle
    refine acyclic _ (cycle.lift (fun number => (outline.ids[number]?).getD "")
      fun source target edge => ?_)
    obtain ⟨declared, id, there, stands, which⟩ := (describes.edge_iff sound).mp edge
    show outline.Reads ((outline.ids[source]?).getD "") ((outline.ids[target]?).getD "")
    rw [stands, Outline.ids, List.getElem?_map, there]
    exact ⟨declared, List.mem_of_getElem? there, rfl, which⟩

/-! ### Documents -/

/-- Nothing is wrong with the names in a well-shaped solution exactly if they are valid. -/
theorem violations_ofFields_eq_nil_iff {fields : Fields} (valid : ValidSolution strict fields)
    (path : Path) :
    (ofFields path fields).violations detectCycles = [] ↔ ValidNames detectCycles fields := by
  have describes := describes_ofFields valid path
  have scripts : (ofFields path fields).scripts.map Prod.fst
      = textsUnder "id" (listOf fields "scripts") := by
    rw [show (ofFields path fields).scripts = _ from congrArg (·.2.2) (head_ofFields path fields),
      map_scriptId]
  rw [violations, List.append_eq_nil_iff, List.append_eq_nil_iff, List.append_eq_nil_iff,
    repeatedIds_eq_nil_iff, repeatedIds_eq_nil_iff, describes.attributeIds, scripts]
  constructor
  · rintro ⟨⟨⟨scripts, unique⟩, references⟩, cycles⟩
    have sound := Outline.sound_iff.mpr ⟨unique,
      (describes.filterMap_referenceViolation?_eq_nil_iff unique).mp references⟩
    refine ⟨scripts, sound, fun detect => ?_⟩
    rw [if_pos detect, List.map_eq_nil_iff] at cycles
    exact (describes.findCycles_dependencies_eq_nil_iff sound).mp cycles
  · rintro ⟨scripts, sound, acyclic⟩
    refine ⟨⟨⟨scripts, sound.unique⟩, ?_⟩, ?_⟩
    · exact (describes.filterMap_referenceViolation?_eq_nil_iff sound.unique).mpr
        (Outline.sound_iff.mp sound).2
    · split
      · rename_i detect
        rw [(describes.findCycles_dependencies_eq_nil_iff sound).mpr (acyclic detect), List.map_nil]
      · rfl

end SolutionIndex

/-- The ids of solutions, without their places. -/
theorem map_solutionIds (path : Path) (position : Nat) (items : List Document) :
    ((eachItem SolutionIndex.ofDocument path position items).filterMap fun index =>
        index.id.map fun id => (id, index.path.field "id")).map Prod.fst
      = textsUnder "id" items := by
  induction items generalizing position with
  | nil => rfl
  | cons item rest ih =>
    rw [eachItem, List.filterMap_append, List.map_append, ih, textsUnder, textsUnder,
      List.filterMap_cons]
    cases item with
    | record fields =>
      have named := congrArg (·.2.1) (SolutionIndex.head_ofFields (path.index position) fields)
      simp only [SolutionIndex.head] at named
      cases known : textOf? fields "id" <;>
        simp [SolutionIndex.ofDocument, named, known]
    | _ => rfl

/-- **Nothing is wrong with the names of a well-shaped document exactly if they are valid.** -/
theorem crossViolations_eq_nil_iff {document : Document} (shape : WellShaped strict document) :
    crossViolations detectCycles document = [] ↔ WellNamed detectCycles document := by
  obtain ⟨fields, rfl, valid⟩ := shape
  obtain ⟨items, listed, each⟩ := valid.solutions
  have inside := listOf_of_lookup listed
  have decides : ∀ item ∈ items, ∀ path,
      ((SolutionIndex.ofDocument path item).flatMap fun index => index.violations detectCycles) = []
        ↔ IsRecord (ValidNames detectCycles) item := by
    intro item member path
    obtain ⟨solution, rfl, valid⟩ := each item member
    rw [SolutionIndex.ofDocument, List.flatMap_singleton,
      SolutionIndex.violations_ofFields_eq_nil_iff valid]
    simp [IsRecord]
  rw [crossViolations, List.append_eq_nil_iff, repeatedIds_eq_nil_iff, solutionIds, solutionIndexes,
    map_solutionIds, flatMap_eachItem, solutionItems, inside, eachItem_eq_nil_iff_of_mem decides,
    ← inside]
  simp [WellNamed, IsRecord]

end PageAttributes.Grammar
