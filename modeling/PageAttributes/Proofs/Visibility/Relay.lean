/-
**Groups count in a chain of dependencies.**

A relay is a solution in which every attribute stands in a group of its own, and every group but the
last one reads the attribute of the next group.

* `Validator.validate_relay` — a relay is accepted, however long it is;
* `Solution.length_le_of_reads_relay` — how long a chain of its attributes is, where groups do not
  count;
* `Solution.resolve_relay` — a relay of more than 128 attributes cannot be resolved, since as many
  groups wait as attributes.
-/

import PageAttributes.Proofs.Visibility.Depth

namespace PageAttributes

open Grammar Wire

/-! ### Chains of attributes -/

namespace Grammar.Outline

variable {outline : Outline}

/-- All but the first attribute of a chain are declared. -/
theorem mem_ids_of_isChain (sound : outline.Sound) {first : String} {rest : List String}
    (chain : (first :: rest).IsChain outline.Reads) : ∀ id ∈ rest, id ∈ outline.ids := by
  induction rest generalizing first with
  | nil => exact List.forall_mem_nil _
  | cons second rest ih =>
    obtain ⟨reads, chain⟩ := List.isChain_cons_cons.mp chain
    exact List.forall_mem_cons.mpr ⟨mem_ids_of_reads sound reads, ih chain⟩

/-- A chain of attributes that read one another has at most one more member than there are
attributes. -/
theorem length_le_of_isChain (sound : outline.Sound) (acyclic : outline.Acyclic)
    {chain : List String} (linked : chain.IsChain outline.Reads) :
    chain.length ≤ outline.ids.length + 1 := by
  cases chain with
  | nil => exact Nat.zero_le _
  | cons first rest =>
    have distinct := (List.nodup_cons.mp (nodup_of_isChain acyclic linked)).2
    have among := mem_ids_of_isChain sound linked
    rw [List.length_cons]
    exact Nat.succ_le_succ (distinct.subperm among).length_le

end Grammar.Outline

/-! ### Relays -/

/-- The id of an attribute of a relay: it has as many letters as attributes come up to it. -/
def relayId (number : Nat) : String := String.ofList (List.replicate (number + 1) 'a')

theorem length_relayId (number : Nat) : (relayId number).length = number + 1 := by
  rw [relayId, String.length_ofList, List.length_replicate]

theorem relayId_injective {first second : Nat} (same : relayId first = relayId second) :
    first = second := by
  have lengths := congrArg String.length same
  rw [length_relayId, length_relayId] at lengths
  exact Nat.succ.inj lengths

/-- What a group of a relay reads: the attribute of the next group, if there is one. -/
def relayReads (last number : Nat) : List String :=
  if number < last then [relayId (number + 1)] else []

/-- An attribute of a relay. -/
def relayAttribute (number : Nat) : Attribute :=
  ⟨relayId number, "Stage", "Stage", "data-stage", none, none, none, .checkbox⟩

/-- A group of a relay. -/
def relayGroup (last number : Nat) : AttributeGroup where
  name := relayId number
  attributes := [relayAttribute number]
  nodeTypes := none
  conditions := some ((relayReads last number).map fun id => .leaf id (.text "on"))

/-- Attributes in groups of their own, of which every group reads the attribute of the next one. -/
def Solution.relay (last : Nat) : Solution where
  id := "relay"
  name := "Relay"
  scripts := []
  attributes := (List.range (last + 1)).map fun number => .group (relayGroup last number)

/-- The schema of a page with a relay. -/
def Schema.relay (last : Nat) : Schema := ⟨"page", "Page", [Solution.relay last]⟩

/-! ### Documents -/

/-- A condition that reads an attribute, as a document. -/
def relayCondition (id : String) : Document :=
  .record [("attributeId", .text id), ("attributeValue", .text "on"), ("type", .text "condition")]

/-- The fields of an attribute of a relay. -/
def relayAttributeFields (number : Nat) : Fields :=
  [("attributeName", .text "data-stage"), ("description", .text "Stage"),
    ("id", .text (relayId number)), ("name", .text "Stage"), ("optionsType", .text "checkbox"),
    ("type", .text "attribute")]

/-- The fields of a group of a relay. -/
def relayGroupFields (last number : Nat) : Fields :=
  [("attributes", .list [.record (relayAttributeFields number)]),
    ("conditions", .list ((relayReads last number).map relayCondition)),
    ("name", .text (relayId number)), ("type", .text "group")]

/-- The fields of a relay. -/
def relayFields (last : Nat) : Fields :=
  [("attributes", .list ((List.range (last + 1)).map fun number =>
      .record (relayGroupFields last number))),
    ("id", .text "relay"), ("name", .text "Relay"), ("scripts", .list [])]

/-- The fields of a page with a relay. -/
def relayPageFields (last : Nat) : Fields :=
  [("id", .text "page"), ("name", .text "Page"), ("solutions", .list [.record (relayFields last)])]

theorem validCondition_relay {id : String} :
    ValidCondition true Condition.depthLimit (relayCondition id) := by
  refine .leaf 127 _ rfl ?_ ⟨id, rfl⟩ ⟨_, rfl, .inl ⟨"on", rfl⟩⟩
  simp [OnlyKeys, leafKeys]

theorem validAttribute_relay (number : Nat) :
    ValidAttribute true (relayAttributeFields number) where
  keys := by simp [OnlyKeys, relayAttributeFields, attributeKeys]
  id := ⟨_, rfl⟩
  name := ⟨_, rfl⟩
  description := ⟨_, rfl⟩
  attributeName := ⟨_, rfl⟩
  required := mayHave_of_lookup_eq_none rfl
  restrictions := ⟨mayHave_of_lookup_eq_none rfl, mayHave_of_lookup_eq_none rfl⟩
  input := ⟨.checkbox, rfl, rfl, rfl⟩

theorem validGroup_relay (last number : Nat) : ValidGroup true (relayGroupFields last number) where
  keys := by simp [OnlyKeys, relayGroupFields, groupKeys]
  name := ⟨_, rfl⟩
  members := by
    refine ⟨_, rfl, List.cons_ne_nil _ _, ?_⟩
    rw [List.forall_mem_singleton]
    exact ⟨_, rfl, rfl, validAttribute_relay number⟩
  restrictions := by
    refine ⟨mayHave_of_lookup_eq_none rfl, fun found held => ?_⟩
    cases held
    refine ⟨_, rfl, List.forall_mem_map.mpr fun id _ => validCondition_relay⟩

theorem validSchema_relay (last : Nat) : ValidSchema true (relayPageFields last) := by
  have relay : ValidSolution true (relayFields last) := by
    refine ⟨?_, ⟨_, rfl⟩, ⟨_, rfl⟩, ⟨[], rfl, List.forall_mem_nil _⟩, ⟨_, rfl, ?_⟩⟩
    · simp [OnlyKeys, relayFields, solutionKeys]
    · exact List.forall_mem_map.mpr fun number _ => ⟨_, rfl, .group rfl (validGroup_relay last number)⟩
  refine ⟨?_, ⟨_, rfl⟩, ⟨_, rfl⟩, ⟨_, rfl, ?_⟩⟩
  · simp [OnlyKeys, relayPageFields, schemaKeys]
  · rw [List.forall_mem_singleton]
    exact ⟨_, rfl, relay⟩

theorem spells_relay (last : Nat) : (Schema.relay last).Spells (relayPageFields last) := by
  have single (number : Nat) :
      (relayAttribute number).SpellsEntry (relayAttributeFields number) :=
    ⟨rfl, rfl, rfl, rfl, rfl, rfl, ⟨rfl, rfl⟩, rfl, rfl, rfl⟩
  have condition (id : String) : Condition.Spells (relayCondition id) (.leaf id (.text "on")) :=
    ⟨rfl, rfl, rfl⟩
  have group (number : Nat) : (relayGroup last number).Spells (relayGroupFields last number) := by
    refine ⟨rfl, ⟨_, rfl, .cons ⟨_, rfl, single number⟩ .nil⟩, rfl, ⟨_, rfl, ?_⟩⟩
    rw [List.forall₂_map_left_iff, List.forall₂_map_right_iff]
    exact List.forall₂_same.mpr fun id _ => condition id
  have relay : (Solution.relay last).Spells (relayFields last) := by
    refine ⟨rfl, rfl, ⟨[], rfl, .nil⟩, ⟨_, rfl, ?_⟩⟩
    rw [Solution.relay, List.forall₂_map_left_iff, List.forall₂_map_right_iff]
    exact List.forall₂_same.mpr fun number _ => ⟨_, rfl, rfl, group number⟩
  exact ⟨rfl, rfl, ⟨_, rfl, .cons ⟨_, rfl, relay⟩ .nil⟩⟩

theorem isCanonical_relay (last : Nat) : (Document.record (relayPageFields last)).IsCanonical := by
  have conditions (number : Nat) :
      Document.AreCanonical ((relayReads last number).map relayCondition) := by
    rw [Document.areCanonical_iff]
    refine List.forall_mem_map.mpr fun id _ => ?_
    simp +decide [relayCondition, Document.IsCanonical, Document.HaveCanonical, Keyed.Sorted]
  have groups : Document.AreCanonical ((List.range (last + 1)).map fun number =>
      .record (relayGroupFields last number)) := by
    rw [Document.areCanonical_iff]
    refine List.forall_mem_map.mpr fun number _ => ?_
    simp +decide [relayGroupFields, relayAttributeFields, Document.IsCanonical,
      Document.AreCanonical, Document.HaveCanonical, Keyed.Sorted, conditions]
  simp +decide [relayPageFields, relayFields, Document.IsCanonical, Document.AreCanonical,
    Document.HaveCanonical, Keyed.Sorted, groups]

/-! ### What a relay reads -/

namespace Solution

theorem numbered_relay (last first count : Nat) :
    Catalog.numbered first ((List.range' first count).map fun number =>
        .group (relayGroup last number))
      = (List.range' first count).map fun number => (some number, relayAttribute number) := by
  induction count generalizing first with
  | zero => rfl
  | succ count ih =>
    rw [List.range'_succ, List.map_cons, List.map_cons, Catalog.numbered, ih]
    rfl

theorem attributes_relay (last : Nat) : (Catalog.ofSolution (relay last)).attributes
    = (List.range (last + 1)).map fun number => (some number, relayAttribute number) := by
  rw [List.range_eq_range', ← numbered_relay last, ← List.range_eq_range']
  rfl

theorem groups_relay (last : Nat) :
    (Catalog.ofSolution (relay last)).groups = (List.range (last + 1)).map (relayGroup last) := by
  rw [Catalog.ofSolution, groups_eq, relay, List.filterMap_map]
  exact List.filterMap_eq_map_iff_forall_eq_some.mpr fun number _ => rfl

theorem getElem?_attributes_relay {last number : Nat} (within : number ≤ last) :
    (Catalog.ofSolution (relay last)).attributes[number]?
      = some (some number, relayAttribute number) := by
  rw [attributes_relay, List.getElem?_map, List.getElem?_range (Nat.lt_succ_of_le within)]
  rfl

theorem getElem?_groups_relay {last number : Nat} (within : number ≤ last) :
    (Catalog.ofSolution (relay last)).groups[number]? = some (relayGroup last number) := by
  rw [groups_relay, List.getElem?_map, List.getElem?_range (Nat.lt_succ_of_le within)]
  rfl

/-- The number of an id is the number of its attribute. -/
theorem position?_relay {last number : Nat} (within : number ≤ last) :
    (Catalog.ofSolution (relay last)).position? (relayId number) = some number := by
  rw [Catalog.position?, attributes_relay, List.findIdx?_eq_some_iff_getElem]
  refine ⟨by simpa using Nat.lt_succ_of_le within, by simp [relayAttribute], ?_⟩
  intro earlier before
  simp only [List.getElem_map, List.getElem_range, relayAttribute, beq_iff_eq]
  intro same
  exact Nat.ne_of_lt before (relayId_injective same)

/-- The attributes of a relay read nothing of their own. -/
theorem outline_relay (last : Nat) : (Catalog.ofSolution (relay last)).outline
    = ⟨(List.range (last + 1)).map fun number => ⟨relayId number, some number, []⟩,
      (List.range (last + 1)).map (relayReads last)⟩ := by
  have leaves (ids : List String) :
      Condition.allLeafIds (ids.map fun id => .leaf id (.text "on")) = ids := by
    induction ids with
    | nil => rfl
    | cons id rest ih => rw [List.map_cons, Condition.allLeafIds, ih]; rfl
  rw [Catalog.outline, attributes_relay, groups_relay, List.map_map, List.map_map]
  congr 1
  exact List.map_congr_left fun number _ => leaves (relayReads last number)

theorem ids_relay (last : Nat) : (Catalog.ofSolution (relay last)).outline.ids
    = (List.range (last + 1)).map relayId := by
  rw [outline_relay, Outline.ids, List.map_map]
  rfl

/-- A group reads the attribute of the next one. -/
theorem mem_groupReads_relay {last number : Nat} {id : String}
    (read : id ∈ (Catalog.ofSolution (relay last)).outline.groupReads (some number)) :
    number < last ∧ id = relayId (number + 1) := by
  rw [outline_relay, Outline.groupReads, List.getElem?_map] at read
  cases there : (List.range (last + 1))[number]? with
  | none =>
    rw [there] at read
    cases read
  | some same =>
    rw [there] at read
    obtain ⟨inside, rfl⟩ := List.getElem?_eq_some_iff.mp there
    simpa [relayReads] using read

/-- An attribute reads the next one, which has a longer id. -/
theorem length_lt_of_reads_relay {last : Nat} {reader id : String}
    (reads : (Catalog.ofSolution (relay last)).outline.Reads reader id) :
    reader.length < id.length := by
  obtain ⟨declared, member, rfl, read⟩ := reads
  rw [outline_relay] at member
  obtain ⟨number, _, rfl⟩ := List.mem_map.mp member
  rcases read with own | gathered
  · cases own
  · obtain ⟨_, rfl⟩ := mem_groupReads_relay gathered
    rw [length_relayId, length_relayId]
    exact Nat.lt_succ_self _

theorem sound_relay (last : Nat) : (Catalog.ofSolution (relay last)).outline.Sound where
  unique := by
    rw [ids_relay]
    exact List.nodup_range.map fun _ _ same => relayId_injective same
  own := by
    intro declared member
    rw [outline_relay] at member
    obtain ⟨number, _, rfl⟩ := List.mem_map.mp member
    exact List.forall_mem_nil _
  gathered := by
    intro number id read
    obtain ⟨within, rfl⟩ := mem_groupReads_relay read
    refine ⟨?_, fun declared member inside same => ?_⟩
    · rw [ids_relay]
      exact List.mem_map_of_mem (List.mem_range.mpr (Nat.succ_lt_succ within))
    · rw [outline_relay] at member
      obtain ⟨other, _, rfl⟩ := List.mem_map.mp member
      cases inside
      exact Nat.succ_ne_self number (relayId_injective same)

theorem acyclic_relay (last : Nat) : (Catalog.ofSolution (relay last)).outline.Acyclic := by
  have longer : ∀ {reader id : String},
      Relation.TransGen (Catalog.ofSolution (relay last)).outline.Reads reader id →
        reader.length < id.length := by
    intro reader id path
    induction path with
    | single reads => exact length_lt_of_reads_relay reads
    | tail _ reads ih => exact ih.trans (length_lt_of_reads_relay reads)
  exact fun id loop => Nat.lt_irrefl _ (longer loop)

/-- A chain of attributes that read one another has at most one more member than the relay. -/
theorem length_le_of_reads_relay {last : Nat} {chain : List String}
    (linked : chain.IsChain (Catalog.ofSolution (relay last)).outline.Reads) :
    chain.length ≤ last + 2 := by
  have count := Outline.length_le_of_isChain (sound_relay last) (acyclic_relay last) linked
  rwa [ids_relay, List.length_map, List.length_range] at count

/-! ### How a relay is resolved -/

/-- The nodes that wait behind a group of a relay. -/
def relayBehind (number : Nat) : Nat → List Node
  | 0 => []
  | more + 1 =>
    .attribute (number + 1) :: .group (number + 1) :: relayBehind (number + 1) more

theorem length_relayBehind (number more : Nat) : (relayBehind number more).length = 2 * more := by
  induction more generalizing number with
  | zero => rfl
  | succ more ih =>
    rw [relayBehind, List.length_cons, List.length_cons, ih]
    rfl

theorem lt_of_mem_relayBehind {number more : Nat} {node : Node}
    (member : node ∈ relayBehind number more) :
    ∃ position, number < position ∧ (node = .attribute position ∨ node = .group position) := by
  induction more generalizing number with
  | zero => cases member
  | succ more ih =>
    rw [relayBehind] at member
    rcases List.mem_cons.mp member with rfl | member
    · exact ⟨number + 1, Nat.lt_succ_self number, Or.inl rfl⟩
    · rcases List.mem_cons.mp member with rfl | member
      · exact ⟨number + 1, Nat.lt_succ_self number, Or.inr rfl⟩
      · obtain ⟨position, later, same⟩ := ih member
        exact ⟨position, Nat.lt_of_succ_lt later, same⟩

theorem nodup_relayBehind (number more : Nat) : (.group number :: relayBehind number more).Nodup := by
  induction more generalizing number with
  | zero => exact List.nodup_singleton _
  | succ more ih =>
    refine List.nodup_cons.mpr ⟨fun again => ?_, List.nodup_cons.mpr ⟨fun again => ?_, ih _⟩⟩
    · obtain ⟨position, later, same⟩ := lt_of_mem_relayBehind again
      rcases same with same | same
      · cases same
      · cases same
        exact Nat.lt_irrefl number later
    · rcases List.mem_cons.mp again with same | again
      · cases same
      · obtain ⟨position, later, same⟩ := lt_of_mem_relayBehind again
        rcases same with same | same
        · cases same
          exact Nat.lt_irrefl _ later
        · cases same

/-- To decide a group of a relay is to decide the next attribute, and then the group around it. -/
theorem isChain_relayBehind {last number more : Nat} (within : number + more ≤ last)
    (assignment : Assignment) (kind : Option NodeType) :
    (.group number :: relayBehind number more).IsChain
      ((Catalog.ofSolution (relay last)).Starts assignment kind) := by
  induction more generalizing number with
  | zero => exact List.isChain_singleton _
  | succ more ih =>
    have inside : number < last := by omega
    have conditions : (relayGroup last number).conditions
        = some [.leaf (relayId (number + 1)) (.text "on")] := by
      rw [relayGroup, relayReads, if_pos inside]
      rfl
    have around := getElem?_attributes_relay (Nat.succ_le_of_lt inside)
    have gathered := getElem?_groups_relay (Nat.le_of_lt inside)
    have found := position?_relay (Nat.succ_le_of_lt inside)
    refine List.isChain_cons_cons.mpr ⟨?_, List.isChain_cons_cons.mpr ⟨?_, ih (by omega)⟩⟩
    · exact Catalog.starts_reads gathered conditions rfl found
    · exact Catalog.starts_inside around

/-- **A relay of more than 128 attributes cannot be resolved**, under whatever assignment. -/
theorem resolve_relay {last : Nat} (long : 128 ≤ last) (assignment : Assignment)
    (kind : Option NodeType) : (relay last).resolve assignment kind = .error (.tooDeep 256) := by
  have nonempty : (Catalog.ofSolution (relay last)).groups ≠ [] := by
    rw [groups_relay]
    simp
  refine Catalog.resolve_of_long_chain nonempty
    (isChain_relayBehind (Nat.le_of_eq (Nat.zero_add last)) assignment kind)
    (nodup_relayBehind 0 last) ?_
  rw [length_relayBehind, chainLimit]
  omega

end Solution

namespace Validator

/-- **A relay is accepted**, however long it is. -/
theorem validate_relay (last : Nat) :
    validate ⟨true, true⟩ (.record (relayPageFields last)) = .ok (Schema.relay last) := by
  have wellNamed : (Schema.relay last).IsWellNamed true := by
    refine ⟨List.nodup_singleton _, ?_⟩
    rw [Schema.relay, List.forall_mem_singleton]
    exact ⟨List.nodup_nil, Solution.sound_relay last, fun _ => Solution.acyclic_relay last⟩
  have names := (Schema.wellNamed_iff (spells_relay last)).mpr wellNamed
  exact validate_of_conforms ⟨⟨_, rfl, validSchema_relay last⟩, names⟩
    (isCanonical_relay last).hasUniqueKeys (spells_relay last)

/-- In an accepted relay of 129 attributes no chain of attributes that read one another has more than
256 members, and yet too many nodes wait for one another. -/
theorem exists_tooDeep_relay :
    validate ⟨true, true⟩ (.record (relayPageFields 128)) = .ok (Schema.relay 128)
      ∧ Solution.relay 128 ∈ (Schema.relay 128).solutions
      ∧ (∀ chain : List String,
        chain.IsChain (Catalog.ofSolution (Solution.relay 128)).outline.Reads → chain.length ≤ 256)
      ∧ (Solution.relay 128).resolve .empty none = .error (.tooDeep 256) := by
  refine ⟨validate_relay 128, .head _, fun chain linked => ?_, ?_⟩
  · exact (Solution.length_le_of_reads_relay linked).trans (by decide)
  · exact Solution.resolve_relay (Nat.le_refl 128) .empty none

end Validator

end PageAttributes
