/-
**Documents without the keys that mean nothing.**

* `pruneSchema` — a document with the keys of the grammar and no others, at every level; the keys of
  a condition or an entry are those of its type;
* `WellShaped.prune` — where unknown keys were the only ones too many, the pruned document is
  well-shaped in the strict sense;
* `pruneSchema_eq_self` — a document that is well-shaped in the strict sense has nothing to prune.
-/

import PageAttributes.Proofs.Document.Canonical
import PageAttributes.Proofs.Grammar.Shape

namespace PageAttributes.Grammar

/-! ### Parts of documents -/

/-- The fields with known keys. What is under some of the keys is pruned in turn. -/
def pruneFields (known : List String) (nested : List (String × (Document → Document)))
    (fields : Fields) : Fields :=
  (fields.filter fun field => known.contains field.1).map fun field =>
    (field.1, (nested.lookup field.1).getD id field.2)

/-- A list with every item pruned. -/
def pruneItems (prune : Document → Document) : Document → Document
  | .list items => .list (items.map prune)
  | other => other

/-- A record with its fields pruned. -/
def pruneRecord (prune : Fields → Fields) : Document → Document
  | .record fields => .record (prune fields)
  | other => other

/-! ### Conditions -/

/-- The keys of a condition, by its type. What is no condition keeps all keys. -/
def conditionKeys (fields : Fields) : List String :=
  match textOf? fields "type" with
  | some "condition" => leafKeys
  | some "group" => conditionGroupKeys
  | _ => fields.map Prod.fst

mutual

/-- A condition without unknown keys. -/
def pruneCondition : Document → Document
  | .record fields => .record (pruneConditionFields (conditionKeys fields) fields)
  | other => other

/-- The known fields of a condition. -/
def pruneConditionFields (known : List String) : List (String × Document) → List (String × Document)
  | [] => []
  | (key, value) :: rest =>
    if known.contains key then
      (key, if key = "conditions" then pruneConditions value else value)
        :: pruneConditionFields known rest
    else pruneConditionFields known rest

/-- Conditions without unknown keys. -/
def pruneConditions : Document → Document
  | .list items => .list (pruneEachCondition items)
  | other => other

/-- Each of some conditions without unknown keys. -/
def pruneEachCondition : List Document → List Document
  | [] => []
  | item :: rest => pruneCondition item :: pruneEachCondition rest

end

/-! ### Attributes, scripts and solutions -/

/-- A choice without unknown keys. -/
def pruneChoice : Fields → Fields := pruneFields choiceKeys []

/-- An attribute without unknown keys. -/
def pruneAttribute : Fields → Fields :=
  pruneFields attributeKeys
    [("conditions", pruneConditions), ("options", pruneItems (pruneRecord pruneChoice))]

/-- A group without unknown keys. -/
def pruneGroup : Fields → Fields :=
  pruneFields groupKeys
    [("attributes", pruneItems (pruneRecord pruneAttribute)), ("conditions", pruneConditions)]

/-- An entry of an attribute list without unknown keys, by its type. -/
def pruneNode (fields : Fields) : Fields :=
  match textOf? fields "type" with
  | some "attribute" => pruneAttribute fields
  | some "group" => pruneGroup fields
  | _ => fields

/-- A script without unknown keys. -/
def pruneScript : Fields → Fields := pruneFields scriptKeys []

/-- A solution without unknown keys. -/
def pruneSolution : Fields → Fields :=
  pruneFields solutionKeys
    [("scripts", pruneItems (pruneRecord pruneScript)),
      ("attributes", pruneItems (pruneRecord pruneNode))]

/-- A schema without unknown keys. -/
def pruneSchema : Document → Document :=
  pruneRecord (pruneFields schemaKeys [("solutions", pruneItems (pruneRecord pruneSolution))])

/-! ### Fields -/

variable {strict : Bool} {fields : Fields} {key : String} {known : List String}
  {nested : List (String × (Document → Document))}

/-- Known keys lead to what they led to, pruned; no others lead anywhere. -/
theorem lookup_pruneFields (known : List String) (nested : List (String × (Document → Document)))
    (fields : Fields) (key : String) :
    (pruneFields known nested fields).lookup key
      = if known.contains key then (fields.lookup key).map ((nested.lookup key).getD id)
        else none := by
  rw [pruneFields, lookup_map fun key => (nested.lookup key).getD id, lookup_filter]
  split <;> rfl

/-- What is not pruned in turn stays under its known key. -/
theorem lookup_pruneFields_of_plain (member : key ∈ known) (plain : nested.lookup key = none) :
    (pruneFields known nested fields).lookup key = fields.lookup key := by
  rw [lookup_pruneFields, if_pos (List.contains_iff_mem.mpr member), plain]
  exact Option.map_id_apply

/-- Nothing is found that was not there. -/
theorem lookup_pruneFields_eq_none (missing : fields.lookup key = none) :
    (pruneFields known nested fields).lookup key = none := by
  rw [lookup_pruneFields, missing]
  split <;> rfl

theorem sorted_pruneFields (sorted : Keyed.Sorted fields) :
    Keyed.Sorted (pruneFields known nested fields) := by
  refine List.pairwise_map.mpr ?_
  exact List.Pairwise.filter _ sorted

/-- Only known keys are left. -/
theorem onlyKeys_pruneFields : OnlyKeys strict known (pruneFields known nested fields) := by
  rintro - field member
  obtain ⟨given, kept, rfl⟩ := List.mem_map.mp member
  exact List.contains_iff_mem.mp (List.mem_filter.mp kept).2

/-- Fields with known keys stay, if what is pruned in turn stays. -/
theorem pruneFields_eq_self (unique : (fields.map Prod.fst).Nodup)
    (keys : OnlyKeys true known fields)
    (stays : ∀ entry ∈ nested, ∀ value, fields.lookup entry.1 = some value →
      entry.2 value = value) : pruneFields known nested fields = fields := by
  have all : fields.filter (fun field => known.contains field.1) = fields :=
    List.filter_eq_self.mpr fun field member => List.contains_iff_mem.mpr (keys rfl field member)
  rw [pruneFields, all]
  refine (List.map_congr_left fun field member => ?_).trans (List.map_id fields)
  obtain ⟨key, value⟩ := field
  show (key, (nested.lookup key).getD id value) = (key, value)
  cases there : nested.lookup key with
  | none => rfl
  | some prune =>
    have same := stays (key, prune) (mem_of_lookup there) value (lookup_of_mem unique member)
    exact congrArg (Prod.mk key) same

/-! ### Rules for fields -/

theorem HasText.prune (text : HasText fields key) (member : key ∈ known)
    (plain : nested.lookup key = none) : HasText (pruneFields known nested fields) key := by
  obtain ⟨value, there⟩ := text
  exact ⟨value, by rw [lookup_pruneFields_of_plain member plain, there]⟩

theorem MayHave.prune {fits : Document → Prop} (may : MayHave fields key fits) (member : key ∈ known)
    (plain : nested.lookup key = none) : MayHave (pruneFields known nested fields) key fits := by
  intro found there
  rw [lookup_pruneFields_of_plain member plain] at there
  exact may found there

theorem HasList.prune {fits fitsToo : Document → Prop} {prune : Document → Document}
    (listed : HasList fields key fits) (member : key ∈ known)
    (prunes : nested.lookup key = some (pruneItems prune))
    (each : ∀ item, fits item → fitsToo (prune item)) :
    HasList (pruneFields known nested fields) key fitsToo := by
  obtain ⟨items, there, fit⟩ := listed
  refine ⟨items.map prune, ?_, List.forall_mem_map.mpr fun item inside => each item (fit item inside)⟩
  rw [lookup_pruneFields, if_pos (List.contains_iff_mem.mpr member), there, prunes]
  rfl

theorem HasItems.prune {fits fitsToo : Document → Prop} {prune : Document → Document}
    (listed : HasItems fields key fits) (member : key ∈ known)
    (prunes : nested.lookup key = some (pruneItems prune))
    (each : ∀ item, fits item → fitsToo (prune item)) :
    HasItems (pruneFields known nested fields) key fitsToo := by
  obtain ⟨items, there, nonempty, fit⟩ := listed
  have whole : HasList fields key fits := ⟨items, there, fit⟩
  obtain ⟨others, thereToo, fitToo⟩ := whole.prune member prunes each
  refine ⟨others, thereToo, ?_, fitToo⟩
  rintro rfl
  rw [lookup_pruneFields, if_pos (List.contains_iff_mem.mpr member), there, prunes] at thereToo
  have empty : items.map prune = [] := Document.list.inj (Option.some.inj thereToo)
  exact nonempty (List.map_eq_nil_iff.mp empty)

theorem IsRecord.prune {fits fitsToo : Fields → Prop} {prune : Fields → Fields} {document : Document}
    (whole : IsRecord fits document) (each : ∀ fields, fits fields → fitsToo (prune fields)) :
    IsRecord fitsToo (pruneRecord prune document) := by
  obtain ⟨fields, rfl, fit⟩ := whole
  exact ⟨prune fields, rfl, each fields fit⟩

/-- A list stays if every item stays. -/
theorem pruneItems_eq_self {prune : Document → Document} {items : List Document}
    (stays : ∀ item ∈ items, prune item = item) : pruneItems prune (.list items) = .list items := by
  rw [pruneItems, List.map_congr_left stays, List.map_id']

/-! ### Conditions -/

theorem pruneConditionFields_eq (known : List String) (fields : Fields) :
    pruneConditionFields known fields
      = pruneFields known [("conditions", pruneConditions)] fields := by
  induction fields with
  | nil => rw [pruneConditionFields]; rfl
  | cons field rest ih =>
    obtain ⟨key, value⟩ := field
    have here : (if key = "conditions" then pruneConditions value else value)
        = ([("conditions", pruneConditions)].lookup key).getD id value := by
      rw [lookup_field, List.lookup_nil]
      by_cases same : key = "conditions"
      · rw [if_pos same, if_pos same.symm, Option.getD_some]
      · rw [if_neg same, if_neg (Ne.symm same), Option.getD_none, id]
    rw [pruneConditionFields, ih, here, pruneFields, pruneFields, List.filter_cons]
    split <;> rfl

theorem pruneEachCondition_eq (items : List Document) :
    pruneEachCondition items = items.map pruneCondition := by
  induction items with
  | nil => rw [pruneEachCondition, List.map_nil]
  | cons item rest ih => rw [pruneEachCondition, List.map_cons, ih]

theorem pruneConditions_eq : pruneConditions = pruneItems pruneCondition := by
  funext document
  cases document with
  | list items => rw [pruneConditions, pruneItems, pruneEachCondition_eq]
  | _ => rfl

theorem pruneCondition_record (fields : Fields) :
    pruneCondition (.record fields) = .record
      (pruneFields (conditionKeys fields) [("conditions", pruneItems pruneCondition)] fields) := by
  rw [pruneCondition, pruneConditionFields_eq, pruneConditions_eq]

theorem conditionKeys_leaf (type : fields.lookup "type" = some (.text "condition")) :
    conditionKeys fields = leafKeys := by
  have same : textOf? fields "type" = some "condition" := textOf?_eq_some_iff.mpr type
  simp only [conditionKeys, same]

theorem conditionKeys_group (type : fields.lookup "type" = some (.text "group")) :
    conditionKeys fields = conditionGroupKeys := by
  have same : textOf? fields "type" = some "group" := textOf?_eq_some_iff.mpr type
  simp only [conditionKeys, same]

/-- A pruned condition keeps the rules and has no unknown keys. -/
theorem ValidCondition.prune {levels : Nat} {document : Document}
    (valid : ValidCondition strict levels document) :
    ValidCondition true levels (pruneCondition document) := by
  induction valid with
  | leaf levels fields type _ attributeId expected =>
    rw [pruneCondition_record, conditionKeys_leaf type]
    refine .leaf levels _ ?_ onlyKeys_pruneFields (attributeId.prune (by decide) rfl) ?_
    · rw [lookup_pruneFields_of_plain (by decide) rfl, type]
    · rw [lookup_pruneFields_of_plain (by decide) rfl]
      exact expected
  | group levels fields items type _ operator listed nonempty _ ih =>
    rw [pruneCondition_record, conditionKeys_group type]
    have valid : HasItems fields "conditions"
        fun item => ValidCondition true levels (pruneCondition item) :=
      ⟨items, listed, nonempty, ih⟩
    have pruned : HasItems
        (pruneFields conditionGroupKeys [("conditions", pruneItems pruneCondition)] fields)
        "conditions" (ValidCondition true levels) :=
      valid.prune (by decide) rfl fun _ valid => valid
    obtain ⟨others, listed, nonempty, valid⟩ := pruned
    refine .group levels _ others ?_ onlyKeys_pruneFields ?_ listed nonempty valid
    · rw [lookup_pruneFields_of_plain (by decide) rfl, type]
    · rw [lookup_pruneFields_of_plain (by decide) rfl]
      exact operator

/-- A condition without unknown keys has nothing to prune. -/
theorem ValidCondition.prune_eq_self {levels : Nat} {document : Document}
    (valid : ValidCondition true levels document) (unique : document.HasUniqueKeys) :
    pruneCondition document = document := by
  induction valid with
  | leaf levels fields type keys =>
    rw [pruneCondition_record, conditionKeys_leaf type]
    refine congrArg Document.record (pruneFields_eq_self unique.1 keys ?_)
    rw [List.forall_mem_singleton]
    intro value there
    have known := keys rfl _ (mem_of_lookup there)
    simp [leafKeys] at known
  | group levels fields items type keys _ listed _ _ ih =>
    rw [pruneCondition_record, conditionKeys_group type]
    refine congrArg Document.record (pruneFields_eq_self unique.1 keys ?_)
    rw [List.forall_mem_singleton]
    intro value there
    cases listed.symm.trans there
    have inside := unique.ofLookup listed
    exact pruneItems_eq_self fun item member => ih item member (inside.ofMem member)

/-! ### Restrictions -/

theorem ValidRestrictions.prune (valid : ValidRestrictions strict fields)
    (kinds : "nodeTypes" ∈ known) (plain : nested.lookup "nodeTypes" = none)
    (prunes : nested.lookup "conditions" = some pruneConditions) :
    ValidRestrictions true (pruneFields known nested fields) := by
  refine ⟨valid.nodeTypes.prune kinds plain, fun found there => ?_⟩
  rw [lookup_pruneFields, prunes] at there
  obtain ⟨_, there⟩ := Option.ite_none_right_eq_some.mp there
  obtain ⟨given, listed, rfl⟩ := Option.map_eq_some_iff.mp there
  obtain ⟨items, rfl, each⟩ := valid.conditions given listed
  refine ⟨items.map pruneCondition, by rw [pruneConditions_eq]; rfl, ?_⟩
  exact List.forall_mem_map.mpr fun item member => (each item member).prune

theorem ValidRestrictions.prune_eq_self (valid : ValidRestrictions true fields)
    (unique : (Document.record fields).HasUniqueKeys) (found : Document)
    (there : fields.lookup "conditions" = some found) : pruneConditions found = found := by
  obtain ⟨items, rfl, each⟩ := valid.conditions found there
  have inside := unique.ofLookup there
  rw [pruneConditions_eq]
  exact pruneItems_eq_self fun item member =>
    (each item member).prune_eq_self (inside.ofMem member)

/-! ### Inputs -/

theorem ValidChoice.prune (valid : ValidChoice strict fields) :
    ValidChoice true (pruneChoice fields) where
  keys := onlyKeys_pruneFields
  name := valid.name.prune (by decide) rfl
  description := valid.description.prune (by decide) rfl
  value := valid.value.prune (by decide) rfl

/-- Records that keep what is under a key keep their texts under it. -/
theorem textsUnder_prune {prune : Fields → Fields} {items : List Document}
    (keeps : ∀ fields, Document.record fields ∈ items →
      (prune fields).lookup key = fields.lookup key) :
    textsUnder key (items.map (pruneRecord prune)) = textsUnder key items := by
  rw [textsUnder, textsUnder, List.filterMap_map]
  refine List.filterMap_congr fun item member => ?_
  cases item with
  | record fields => simp only [Function.comp_apply, pruneRecord, textOf?, keeps fields member]
  | _ => rfl

theorem ValidInput.prune {kind : InputKind} (valid : ValidInput strict fields kind) :
    ValidInput true (pruneAttribute fields) kind := by
  cases kind with
  | checkbox =>
    exact ⟨lookup_pruneFields_eq_none valid.1, lookup_pruneFields_eq_none valid.2⟩
  | dropdown =>
    obtain ⟨may, items, unique⟩ := valid
    have pruned : HasItems (pruneAttribute fields) "options" (IsRecord (ValidChoice true)) :=
      items.prune (by decide) rfl fun item whole => whole.prune fun _ valid => valid.prune
    refine ⟨may.prune (by decide) rfl, pruned, ?_⟩
    obtain ⟨choices, listed, _⟩ := items
    have listedToo : (pruneAttribute fields).lookup "options"
        = some (.list (choices.map (pruneRecord pruneChoice))) := by
      rw [pruneAttribute, lookup_pruneFields, listed]
      rfl
    rw [listOf_of_lookup listed] at unique
    rw [listOf_of_lookup listedToo, textsUnder_prune]
    · exact unique
    · exact fun fields _ => lookup_pruneFields_of_plain (by decide) rfl
  | textInput => exact ⟨valid.1.prune (by decide) rfl, lookup_pruneFields_eq_none valid.2⟩
  | integerInput => exact ⟨valid.1.prune (by decide) rfl, lookup_pruneFields_eq_none valid.2⟩
  | floatInput => exact ⟨valid.1.prune (by decide) rfl, lookup_pruneFields_eq_none valid.2⟩

/-- A record of a list stays if its fields do. -/
theorem IsRecord.prune_eq_self {fits : Fields → Prop} {prune : Fields → Fields}
    {document : Document} (whole : IsRecord fits document) (unique : document.HasUniqueKeys)
    (stays : ∀ fields, fits fields → (Document.record fields).HasUniqueKeys →
      prune fields = fields) : pruneRecord prune document = document := by
  obtain ⟨fields, rfl, fit⟩ := whole
  exact congrArg Document.record (stays fields fit unique)

/-- The records of a list stay if their fields do. -/
theorem HasList.prune_eq_self {fits : Fields → Prop} {prune : Fields → Fields}
    (listed : HasList fields key (IsRecord fits)) (unique : (Document.record fields).HasUniqueKeys)
    (stays : ∀ fields, fits fields → (Document.record fields).HasUniqueKeys →
      prune fields = fields)
    (found : Document) (there : fields.lookup key = some found) :
    pruneItems (pruneRecord prune) found = found := by
  obtain ⟨items, here, each⟩ := listed
  cases here.symm.trans there
  have inside := unique.ofLookup here
  exact pruneItems_eq_self fun item member =>
    (each item member).prune_eq_self (inside.ofMem member) stays

theorem ValidChoice.prune_eq_self (valid : ValidChoice true fields)
    (unique : (Document.record fields).HasUniqueKeys) : pruneChoice fields = fields :=
  pruneFields_eq_self unique.1 valid.keys (List.forall_mem_nil _)

theorem ValidInput.prune_eq_self {kind : InputKind} (valid : ValidInput true fields kind)
    (unique : (Document.record fields).HasUniqueKeys) (found : Document)
    (there : fields.lookup "options" = some found) :
    pruneItems (pruneRecord pruneChoice) found = found := by
  cases kind with
  | dropdown =>
    exact (hasItems_iff.mp valid.2.items).1.prune_eq_self unique
      (fun _ valid unique => valid.prune_eq_self unique) found there
  | _ => cases valid.2.symm.trans there

/-! ### Attributes and groups -/

theorem ValidAttribute.prune (valid : ValidAttribute strict fields) :
    ValidAttribute true (pruneAttribute fields) where
  keys := onlyKeys_pruneFields
  id := valid.id.prune (by decide) rfl
  name := valid.name.prune (by decide) rfl
  description := valid.description.prune (by decide) rfl
  attributeName := valid.attributeName.prune (by decide) rfl
  required := valid.required.prune (by decide) rfl
  restrictions := valid.restrictions.prune (by decide) rfl rfl
  input := by
    obtain ⟨kind, type, fits⟩ := valid.input
    refine ⟨kind, ?_, fits.prune⟩
    rw [pruneAttribute, lookup_pruneFields_of_plain (by decide) rfl, type]

theorem ValidAttribute.prune_eq_self (valid : ValidAttribute true fields)
    (unique : (Document.record fields).HasUniqueKeys) : pruneAttribute fields = fields := by
  obtain ⟨kind, _, fits⟩ := valid.input
  refine pruneFields_eq_self unique.1 valid.keys ?_
  rw [List.forall_mem_cons, List.forall_mem_singleton]
  exact ⟨valid.restrictions.prune_eq_self unique, fits.prune_eq_self unique⟩

theorem ValidMember.prune (valid : ValidMember strict fields) :
    ValidMember true (pruneAttribute fields) := by
  refine ⟨?_, valid.declared.prune⟩
  rw [pruneAttribute, lookup_pruneFields_of_plain (by decide) rfl, valid.type]

theorem ValidGroup.prune (valid : ValidGroup strict fields) :
    ValidGroup true (pruneGroup fields) where
  keys := onlyKeys_pruneFields
  name := valid.name.prune (by decide) rfl
  members := valid.members.prune (by decide) rfl fun _ whole => whole.prune fun _ valid => valid.prune
  restrictions := valid.restrictions.prune (by decide) rfl rfl

theorem ValidGroup.prune_eq_self (valid : ValidGroup true fields)
    (unique : (Document.record fields).HasUniqueKeys) : pruneGroup fields = fields := by
  refine pruneFields_eq_self unique.1 valid.keys ?_
  rw [List.forall_mem_cons, List.forall_mem_singleton]
  have members := (hasItems_iff.mp valid.members).1.prune_eq_self unique
    fun _ valid unique => valid.declared.prune_eq_self unique
  exact ⟨members, valid.restrictions.prune_eq_self unique⟩

theorem pruneNode_attribute (type : fields.lookup "type" = some (.text "attribute")) :
    pruneNode fields = pruneAttribute fields := by
  have same : textOf? fields "type" = some "attribute" := textOf?_eq_some_iff.mpr type
  simp only [pruneNode, same]

theorem pruneNode_group (type : fields.lookup "type" = some (.text "group")) :
    pruneNode fields = pruneGroup fields := by
  have same : textOf? fields "type" = some "group" := textOf?_eq_some_iff.mpr type
  simp only [pruneNode, same]

theorem pruneNode_other (single : textOf? fields "type" ≠ some "attribute")
    (group : textOf? fields "type" ≠ some "group") : pruneNode fields = fields := by
  unfold pruneNode
  split
  · exact (single ‹_›).elim
  · exact (group ‹_›).elim
  · rfl

theorem ValidNode.prune (valid : ValidNode strict fields) : ValidNode true (pruneNode fields) := by
  cases valid with
  | single type declared =>
    rw [pruneNode_attribute type]
    refine .single ?_ declared.prune
    rw [pruneAttribute, lookup_pruneFields_of_plain (by decide) rfl, type]
  | group type gathered =>
    rw [pruneNode_group type]
    refine .group ?_ gathered.prune
    rw [pruneGroup, lookup_pruneFields_of_plain (by decide) rfl, type]

theorem ValidNode.prune_eq_self (valid : ValidNode true fields)
    (unique : (Document.record fields).HasUniqueKeys) : pruneNode fields = fields := by
  cases valid with
  | single type declared => rw [pruneNode_attribute type, declared.prune_eq_self unique]
  | group type gathered => rw [pruneNode_group type, gathered.prune_eq_self unique]

/-! ### Scripts and solutions -/

theorem ValidScript.prune (valid : ValidScript strict fields) :
    ValidScript true (pruneScript fields) where
  keys := onlyKeys_pruneFields
  id := valid.id.prune (by decide) rfl
  source := by
    rw [pruneScript, lookup_pruneFields_of_plain (by decide) rfl]
    exact valid.source
  deferred := valid.deferred.prune (by decide) rfl
  asynchronous := valid.asynchronous.prune (by decide) rfl
  location := by
    rw [pruneScript, lookup_pruneFields_of_plain (by decide) rfl]
    exact valid.location

theorem ValidScript.prune_eq_self (valid : ValidScript true fields)
    (unique : (Document.record fields).HasUniqueKeys) : pruneScript fields = fields :=
  pruneFields_eq_self unique.1 valid.keys (List.forall_mem_nil _)

theorem ValidSolution.prune (valid : ValidSolution strict fields) :
    ValidSolution true (pruneSolution fields) where
  keys := onlyKeys_pruneFields
  id := valid.id.prune (by decide) rfl
  name := valid.name.prune (by decide) rfl
  scripts := valid.scripts.prune (by decide) rfl fun _ whole => whole.prune fun _ valid => valid.prune
  attributes :=
    valid.attributes.prune (by decide) rfl fun _ whole => whole.prune fun _ valid => valid.prune

theorem ValidSolution.prune_eq_self (valid : ValidSolution true fields)
    (unique : (Document.record fields).HasUniqueKeys) : pruneSolution fields = fields := by
  refine pruneFields_eq_self unique.1 valid.keys ?_
  rw [List.forall_mem_cons, List.forall_mem_singleton]
  have scripts := valid.scripts.prune_eq_self unique
    fun _ valid unique => valid.prune_eq_self unique
  have nodes := valid.attributes.prune_eq_self unique
    fun _ valid unique => valid.prune_eq_self unique
  exact ⟨scripts, nodes⟩

/-- **A pruned document has the same shape, and no unknown keys.** -/
theorem WellShaped.prune {document : Document} (shape : WellShaped strict document) :
    WellShaped true (pruneSchema document) := by
  refine IsRecord.prune shape fun fields valid => ?_
  exact {
    keys := onlyKeys_pruneFields
    id := valid.id.prune (by decide) rfl
    name := valid.name.prune (by decide) rfl
    solutions :=
      valid.solutions.prune (by decide) rfl fun _ whole => whole.prune fun _ valid => valid.prune }

/-- **A well-shaped document without unknown keys has nothing to prune.** -/
theorem pruneSchema_eq_self {document : Document} (shape : WellShaped true document)
    (unique : document.HasUniqueKeys) : pruneSchema document = document := by
  refine IsRecord.prune_eq_self shape unique fun fields valid unique => ?_
  refine pruneFields_eq_self unique.1 valid.keys ?_
  rw [List.forall_mem_singleton]
  exact valid.solutions.prune_eq_self unique fun _ valid unique => valid.prune_eq_self unique

end PageAttributes.Grammar
