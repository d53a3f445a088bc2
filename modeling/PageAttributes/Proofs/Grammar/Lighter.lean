/-
**A pruned document has no more in it than it had.**

* `lighter_pruneFields`, `lighter_pruneItems`, `lighter_pruneRecord` — pruning parts of a document;
* `lighter_pruneCondition` — conditions, by induction over the document;
* `lighter_pruneSchema` — whole schemas.
-/

import PageAttributes.Proofs.Document.Lighter
import PageAttributes.Proofs.Grammar.Pruning

namespace PageAttributes.Grammar

open Document

/-! ### Parts of documents -/

/-- Fields that are left out make a record lighter, and so do values that are pruned. -/
theorem lighter_pruneFields {known : List String}
    {nested : List (String × (Document → Document))}
    (each : ∀ entry ∈ nested, ∀ value, (entry.2 value).Lighter value) (fields : Fields) :
    (record (pruneFields known nested fields)).Lighter (record fields) := by
  refine lighter_record fun field member => ?_
  obtain ⟨given, kept, rfl⟩ := List.mem_map.mp member
  refine ⟨given, List.mem_of_mem_filter kept, ?_⟩
  dsimp only
  cases found : nested.lookup given.1 with
  | none => exact .refl _
  | some prune => exact each _ (mem_of_lookup found) given.2

theorem lighter_pruneItems {prune : Document → Document}
    (each : ∀ item, (prune item).Lighter item) (document : Document) :
    (pruneItems prune document).Lighter document := by
  cases document with
  | list items =>
    refine lighter_list fun item member => ?_
    obtain ⟨given, inside, rfl⟩ := List.mem_map.mp member
    exact ⟨given, inside, each given⟩
  | _ => exact .refl _

theorem lighter_pruneRecord {prune : Fields → Fields}
    (each : ∀ fields, (record (prune fields)).Lighter (record fields)) (document : Document) :
    (pruneRecord prune document).Lighter document := by
  cases document with
  | record fields => exact each fields
  | _ => exact .refl _

/-- A list of records. -/
theorem lighter_pruneRecords {prune : Fields → Fields}
    (each : ∀ fields, (record (prune fields)).Lighter (record fields)) (document : Document) :
    (pruneItems (pruneRecord prune) document).Lighter document :=
  lighter_pruneItems (lighter_pruneRecord each) document

/-! ### Conditions -/

mutual

/-- A condition without unknown keys has no more in it than before. -/
theorem lighter_pruneCondition : ∀ document, (pruneCondition document).Lighter document
  | .null => .refl _
  | .flag _ => .refl _
  | .number _ => .refl _
  | .text _ => .refl _
  | .list _ => .refl _
  | .record fields => lighter_record (lighter_pruneConditionFields (conditionKeys fields) fields)

theorem lighter_pruneConditionFields (known : List String) : ∀ fields : List (String × Document),
    ∀ field ∈ pruneConditionFields known fields, ∃ other ∈ fields, field.2.Lighter other.2
  | [] => List.forall_mem_nil _
  | (key, value) :: rest => by
    have behind : ∀ field ∈ pruneConditionFields known rest,
        ∃ other ∈ (key, value) :: rest, field.2.Lighter other.2 := fun field member => by
      obtain ⟨other, among, lighter⟩ := lighter_pruneConditionFields known rest field member
      exact ⟨other, .tail _ among, lighter⟩
    rw [pruneConditionFields]
    split
    · refine List.forall_mem_cons.mpr ⟨⟨(key, value), .head _, ?_⟩, behind⟩
      dsimp only
      split
      · exact lighter_pruneConditions value
      · exact .refl _
    · exact behind

theorem lighter_pruneConditions : ∀ document, (pruneConditions document).Lighter document
  | .null => .refl _
  | .flag _ => .refl _
  | .number _ => .refl _
  | .text _ => .refl _
  | .list items => lighter_list (lighter_pruneEachCondition items)
  | .record _ => .refl _

theorem lighter_pruneEachCondition : ∀ items : List Document,
    ∀ item ∈ pruneEachCondition items, ∃ other ∈ items, item.Lighter other
  | [] => List.forall_mem_nil _
  | first :: rest => List.forall_mem_cons.mpr ⟨⟨first, .head _, lighter_pruneCondition first⟩,
      fun item member => by
        obtain ⟨other, among, lighter⟩ := lighter_pruneEachCondition rest item member
        exact ⟨other, .tail _ among, lighter⟩⟩

end

/-! ### Attributes, solutions and schemas -/

theorem lighter_pruneAttribute (fields : Fields) :
    (record (pruneAttribute fields)).Lighter (record fields) := by
  have choices := lighter_pruneRecords (@lighter_pruneFields choiceKeys [] (List.forall_mem_nil _))
  refine lighter_pruneFields ?_ fields
  rw [List.forall_mem_cons, List.forall_mem_singleton]
  exact ⟨lighter_pruneConditions, choices⟩

theorem lighter_pruneNode (fields : Fields) :
    (record (pruneNode fields)).Lighter (record fields) := by
  unfold pruneNode
  split
  · exact lighter_pruneAttribute fields
  · refine lighter_pruneFields ?_ fields
    rw [List.forall_mem_cons, List.forall_mem_singleton]
    exact ⟨lighter_pruneRecords lighter_pruneAttribute, lighter_pruneConditions⟩
  · exact .refl _

theorem lighter_pruneSolution (fields : Fields) :
    (record (pruneSolution fields)).Lighter (record fields) := by
  have scripts := lighter_pruneRecords (@lighter_pruneFields scriptKeys [] (List.forall_mem_nil _))
  refine lighter_pruneFields ?_ fields
  rw [List.forall_mem_cons, List.forall_mem_singleton]
  exact ⟨scripts, lighter_pruneRecords lighter_pruneNode⟩

/-- **A pruned schema is nested no deeper than before, and holds no other numbers.** -/
theorem lighter_pruneSchema (document : Document) : (pruneSchema document).Lighter document := by
  refine lighter_pruneRecord (fun fields => lighter_pruneFields ?_ fields) document
  rw [List.forall_mem_singleton]
  exact lighter_pruneRecords lighter_pruneSolution

end PageAttributes.Grammar
