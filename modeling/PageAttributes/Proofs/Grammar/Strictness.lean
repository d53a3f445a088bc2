/-
**What a validator that refuses unknown keys finds beyond others.**

* `checkSchema_prune`, `Validator.validate_pruneSchema` — in a document without unknown keys it finds
  the same as one that passes over them, whatever else is wrong with the document.

Every check is compared with itself on a pruned part. Only the checks of keys tell the two validators
apart, and in a pruned record those find nothing.
-/

import PageAttributes.Grammar.Validator
import PageAttributes.Proofs.Grammar.Pruning

namespace PageAttributes

namespace Grammar

variable {strict : Bool} {fields : Fields} {key : String} {known : List String}
  {nested : List (String × (Document → Document))} {path : Path}

/-! ### Fields -/

/-- All keys of a pruned record are known. -/
@[simp] theorem checkKeys_pruneFields :
    checkKeys strict known (pruneFields known nested fields) path = [] :=
  checkKeys_eq_nil_iff.mpr onlyKeys_pruneFields

/-- What is not pruned in turn was there before. -/
theorem textOf?_of_pruneFields {value : String} (plain : nested.lookup key = none)
    (there : textOf? (pruneFields known nested fields) key = some value) :
    textOf? fields key = some value := by
  rw [textOf?_eq_some_iff] at there ⊢
  rw [lookup_pruneFields, plain] at there
  obtain ⟨_, there⟩ := Option.ite_none_right_eq_some.mp there
  obtain ⟨found, there, rfl⟩ := Option.map_eq_some_iff.mp there
  exact there

theorem textOf?_pruneFields (member : key ∈ known) (plain : nested.lookup key = none) :
    textOf? (pruneFields known nested fields) key = textOf? fields key := by
  rw [textOf?, textOf?, lookup_pruneFields_of_plain member plain]

/-- The items of a pruned list are pruned. -/
theorem listOf_pruneFields {prune : Document → Document} (member : key ∈ known)
    (prunes : nested.lookup key = some (pruneItems prune)) :
    listOf (pruneFields known nested fields) key = (listOf fields key).map prune := by
  rw [listOf, listOf, lookup_pruneFields, if_pos (List.contains_iff_mem.mpr member), prunes]
  cases fields.lookup key with
  | none => rfl
  | some found => cases found <;> rfl

/-- Two checks find the same in some pruned items if they do in every single one. -/
theorem eachItem_prune {α : Type} {check checkToo : Path → Document → List α}
    {prune : Document → Document}
    (same : ∀ path item, check path (prune item) = checkToo path (prune item)) (path : Path)
    (position : Nat) (items : List Document) :
    eachItem check path position (items.map prune)
      = eachItem checkToo path position (items.map prune) := by
  induction items generalizing position with
  | nil => rfl
  | cons item rest ih => rw [List.map_cons, eachItem, eachItem, same, ih]

/-- Two checks find the same in the pruned list under a key if they do in every item. -/
theorem eachItem_listOf_prune {check checkToo : Path → Document → List Violation}
    {prune : Document → Document} (member : key ∈ known)
    (prunes : nested.lookup key = some (pruneItems prune))
    (same : ∀ path item, check path (prune item) = checkToo path (prune item)) (path : Path) :
    eachItem check path 0 (listOf (pruneFields known nested fields) key)
      = eachItem checkToo path 0 (listOf (pruneFields known nested fields) key) := by
  rw [listOf_pruneFields member prunes]
  exact eachItem_prune same path 0 _

/-- Two checks find the same in what may be a pruned record if they do in every pruned record. -/
theorem inRecord_prune {check checkToo : Fields → List Violation} {prune : Fields → Fields}
    (same : ∀ fields, check (prune fields) = checkToo (prune fields)) (path : Path)
    (document : Document) :
    inRecord check path (pruneRecord prune document)
      = inRecord checkToo path (pruneRecord prune document) := by
  cases document with
  | record fields => exact same fields
  | _ => rfl

/-! ### Conditions -/

/-- A pruned condition that is a record is checked alike, if its members are. -/
theorem checkConditionRecord_prune {members : List Violation} :
    checkConditionRecord strict path (pruneFields (conditionKeys fields)
        [("conditions", pruneConditions)] fields) members
      = checkConditionRecord false path (pruneFields (conditionKeys fields)
        [("conditions", pruneConditions)] fields) members := by
  unfold checkConditionRecord
  congr 1
  split
  · rename_i type
    have keys := conditionKeys_leaf (textOf?_eq_some_iff.mp (textOf?_of_pruneFields rfl type))
    simp only [checkLeaf, keys, checkKeys_pruneFields]
  · rename_i type
    have keys := conditionKeys_group (textOf?_eq_some_iff.mp (textOf?_of_pruneFields rfl type))
    simp only [checkConditionGroup, keys, checkKeys_pruneFields]
  · rfl
  · rfl

mutual

theorem checkCondition_prune : ∀ (document : Document) (depth : Nat) (path : Path),
    checkCondition strict depth path (pruneCondition document)
      = checkCondition false depth path (pruneCondition document)
  | .record fields, depth, path => by
    rw [pruneCondition, checkCondition, checkCondition, checkMembersField_prune fields]
    split
    · rfl
    · rw [pruneConditionFields_eq]
      exact checkConditionRecord_prune
  | .null, _, _ => rfl
  | .flag _, _, _ => rfl
  | .number _, _, _ => rfl
  | .text _, _, _ => rfl
  | .list _, _, _ => rfl

theorem checkMembersField_prune : ∀ (fields : List (String × Document)) (known : List String)
    (depth : Nat) (path : Path),
    checkMembersField strict depth path (pruneConditionFields known fields)
      = checkMembersField false depth path (pruneConditionFields known fields)
  | [], _, _, _ => rfl
  | (key, value) :: rest, known, depth, path => by
    rw [pruneConditionFields]
    split
    · rw [checkMembersField, checkMembersField, checkMembersField_prune rest known depth path]
      split
      · exact checkMembers_prune value depth path
      · rfl
    · exact checkMembersField_prune rest known depth path

theorem checkMembers_prune : ∀ (document : Document) (depth : Nat) (path : Path),
    checkMembers strict depth path (pruneConditions document)
      = checkMembers false depth path (pruneConditions document)
  | .list [], _, _ => rfl
  | .list (first :: rest), depth, path => by
    rw [pruneConditions, pruneEachCondition, checkMembers, checkMembers,
      checkCondition_prune first, checkEach_prune rest]
  | .null, _, _ => rfl
  | .flag _, _, _ => rfl
  | .number _, _, _ => rfl
  | .text _, _, _ => rfl
  | .record _, _, _ => rfl

theorem checkEach_prune : ∀ (items : List Document) (depth : Nat) (path : Path) (position : Nat),
    checkEach strict depth path position (pruneEachCondition items)
      = checkEach false depth path position (pruneEachCondition items)
  | [], _, _, _ => rfl
  | item :: rest, depth, path, position => by
    rw [pruneEachCondition, checkEach, checkEach, checkCondition_prune item, checkEach_prune rest]

end

/-- Pruned conditions under their key are checked alike. -/
theorem checkConditions_prune (member : "conditions" ∈ known)
    (prunes : nested.lookup "conditions" = some pruneConditions) :
    checkConditions strict (pruneFields known nested fields) path
      = checkConditions false (pruneFields known nested fields) path := by
  rw [pruneConditions_eq] at prunes
  rw [checkConditions, checkConditions, listOf_pruneFields member prunes, ← pruneEachCondition_eq,
    checkEach_prune]

/-! ### Attributes and groups -/

theorem checkChoices_prune {seen : List (String × Path)} {position : Nat} {items : List Document} :
    checkChoices strict path seen position (items.map (pruneRecord pruneChoice))
      = checkChoices false path seen position (items.map (pruneRecord pruneChoice)) := by
  induction items generalizing seen position with
  | nil => rfl
  | cons item rest ih =>
    rw [List.map_cons]
    cases item with
    | record fields =>
      simp only [pruneRecord, pruneChoice, checkChoices, checkKeys_pruneFields] at ih ⊢
      split <;> rw [ih]
    | _ => simp only [pruneRecord, checkChoices, ih]

theorem checkInput_prune :
    checkInput strict (pruneAttribute fields) path
      = checkInput false (pruneAttribute fields) path := by
  have choices : checkOptions strict (pruneAttribute fields) path
      = checkOptions false (pruneAttribute fields) path := by
    unfold checkOptions
    rw [pruneAttribute, listOf_pruneFields (by decide) rfl, checkChoices_prune]
  have kinds (kind : InputKind) : checkInputKind strict (pruneAttribute fields) path kind
      = checkInputKind false (pruneAttribute fields) path kind := by
    cases kind with
    | dropdown => rw [checkInputKind, checkInputKind, choices]
    | _ => rfl
  simp only [checkInput, kinds]

theorem checkAttribute_prune :
    checkAttribute strict path (pruneAttribute fields)
      = checkAttribute false path (pruneAttribute fields) := by
  have keys (strict : Bool) : checkKeys strict attributeKeys (pruneAttribute fields) path = [] :=
    checkKeys_pruneFields
  have conditions : checkConditions strict (pruneAttribute fields) path
      = checkConditions false (pruneAttribute fields) path :=
    checkConditions_prune (by decide) rfl
  rw [checkAttribute, checkAttribute, keys, keys, conditions, checkInput_prune]

theorem checkMember_prune (path : Path) (item : Document) :
    checkMember strict path (pruneRecord pruneAttribute item)
      = checkMember false path (pruneRecord pruneAttribute item) :=
  inRecord_prune (fun fields => by simp only [@checkAttribute_prune strict]) path item

theorem checkGroup_prune :
    checkGroup strict path (pruneGroup fields) = checkGroup false path (pruneGroup fields) := by
  have keys (strict : Bool) : checkKeys strict groupKeys (pruneGroup fields) path = [] :=
    checkKeys_pruneFields
  have conditions : checkConditions strict (pruneGroup fields) path
      = checkConditions false (pruneGroup fields) path :=
    checkConditions_prune (by decide) rfl
  have members : eachItem (checkMember strict) (path.field "attributes") 0
        (listOf (pruneGroup fields) "attributes")
      = eachItem (checkMember false) (path.field "attributes") 0
        (listOf (pruneGroup fields) "attributes") :=
    eachItem_listOf_prune (by decide) rfl checkMember_prune _
  rw [checkGroup, checkGroup, keys, keys, conditions, members]

theorem checkNode_prune (path : Path) (item : Document) :
    checkNode strict path (pruneRecord pruneNode item)
      = checkNode false path (pruneRecord pruneNode item) := by
  refine inRecord_prune (fun fields => ?_) path item
  congr 1
  by_cases single : textOf? fields "type" = some "attribute"
  · have type : textOf? (pruneAttribute fields) "type" = some "attribute" := by
      rw [pruneAttribute, textOf?_pruneFields (by decide) rfl, single]
    rw [pruneNode_attribute (textOf?_eq_some_iff.mp single)]
    simp only [type, checkAttribute_prune]
  by_cases group : textOf? fields "type" = some "group"
  · have type : textOf? (pruneGroup fields) "type" = some "group" := by
      rw [pruneGroup, textOf?_pruneFields (by decide) rfl, group]
    rw [pruneNode_group (textOf?_eq_some_iff.mp group)]
    simp only [type, checkGroup_prune]
  -- What is neither stays as it is, and is not looked into.
  rw [pruneNode_other single group]
  split
  · exact (single ‹_›).elim
  · exact (group ‹_›).elim
  · rfl
  · rfl

/-! ### Scripts, solutions and schemas -/

theorem checkScript_prune (path : Path) (item : Document) :
    checkScript strict path (pruneRecord pruneScript item)
      = checkScript false path (pruneRecord pruneScript item) :=
  inRecord_prune (fun fields => by simp only [pruneScript, checkKeys_pruneFields]) path item

theorem checkSolution_prune (path : Path) (item : Document) :
    checkSolution strict path (pruneRecord pruneSolution item)
      = checkSolution false path (pruneRecord pruneSolution item) := by
  refine inRecord_prune (fun fields => ?_) path item
  have scripts : eachItem (checkScript strict) (path.field "scripts") 0
        (listOf (pruneSolution fields) "scripts")
      = eachItem (checkScript false) (path.field "scripts") 0
        (listOf (pruneSolution fields) "scripts") :=
    eachItem_listOf_prune (by decide) rfl checkScript_prune _
  have nodes : eachItem (checkNode strict) (path.field "attributes") 0
        (listOf (pruneSolution fields) "attributes")
      = eachItem (checkNode false) (path.field "attributes") 0
        (listOf (pruneSolution fields) "attributes") :=
    eachItem_listOf_prune (by decide) rfl checkNode_prune _
  rw [scripts, nodes]
  simp only [pruneSolution, checkKeys_pruneFields]

/-- **In a document without unknown keys nothing more is found if unknown keys are refused.** -/
theorem checkSchema_prune (strict : Bool) (document : Document) :
    checkSchema strict (pruneSchema document) = checkSchema false (pruneSchema document) := by
  refine inRecord_prune (fun fields => ?_) .root document
  rw [eachItem_listOf_prune (by decide) rfl checkSolution_prune]
  simp only [checkKeys_pruneFields]

end Grammar

namespace Validator

/-- **A document without unknown keys is validated alike by a validator that refuses them.** -/
theorem validate_pruneSchema (validator : Validator) (strict : Bool) (document : Document) :
    validate ⟨strict, validator.detectCycles⟩ (Grammar.pruneSchema document)
      = validator.validate (Grammar.pruneSchema document) := by
  have same : violations ⟨strict, validator.detectCycles⟩ (Grammar.pruneSchema document)
      = validator.violations (Grammar.pruneSchema document) := by
    unfold violations
    rw [Grammar.checkSchema_prune, Grammar.checkSchema_prune validator.strict]
  rw [validate, validate, same]

end Validator

end PageAttributes
