/-
**What attributes start with.**

* `Attribute.defaultUnder` — what a declaration contributes to an id;
* `Assignment.get?_foldl_addDefault` — of the declarations of an id the first one that has a default
  gives the value;
* `findSome?_eq_bind_iff` — the first entry of some kind gives the first value of that kind exactly
  if it has a value or no other one has;
* `Assignment.defaults_spec` — what an id starts with, and when that is the default of the attribute
  that the id stands for.

An attribute without a default leaves its id free. So where an id is declared twice, a later
declaration can give a value to an id that stands for a checkbox.
-/

import PageAttributes.Evaluation.Assignment
import PageAttributes.Proofs.Document.Canonical

namespace PageAttributes

/-! ### Lists -/

section Lists

variable {α β : Type}

/-- The first chosen entry gives the first value of a chosen entry exactly if it has a value or no
chosen entry has one. -/
theorem findSome?_eq_bind_iff (chosen : α → Bool) (value : α → Option β) (entries : List α) :
    (entries.findSome? fun entry => if chosen entry then value entry else none)
        = (entries.find? chosen).bind value
      ↔ ∀ first, entries.find? chosen = some first → value first = none →
          ∀ entry ∈ entries, chosen entry = true → value entry = none := by
  induction entries with
  | nil => simp
  | cons entry rest ih =>
    by_cases here : chosen entry = true
    · rw [List.findSome?_cons, if_pos here, List.find?_cons_of_pos here, Option.bind_some]
      cases given : value entry with
      | some result => simp [given]
      | none => simp [given]
    · rw [List.findSome?_cons, if_neg here, List.find?_cons_of_neg here]
      simp [ih, here]

end Lists

/-! ### Assignments -/

/-- What a declaration contributes to an id. -/
def Attribute.defaultUnder (id : String) (declared : Attribute) : Option AttributeValue :=
  if declared.id = id then declared.input.initialValue? else none

namespace Assignment

variable {assignment : Assignment}

@[simp] theorem get?_empty (id : String) : empty.get? id = none := rfl

/-- A value is found under the id that it was given to; other ids keep theirs. -/
theorem get?_set (assignment : Assignment) (id other : String) (value : AttributeValue) :
    (assignment.set id value).get? other = if id = other then some value else assignment.get? other :=
  Keyed.lookup_put id other value assignment.values

/-- A value that is there already stays. -/
theorem get?_setIfUnset (assignment : Assignment) (id other : String) (value : AttributeValue) :
    (assignment.setIfUnset id value).get? other
      = (assignment.get? other).or (if id = other then some value else none) := by
  unfold setIfUnset
  by_cases same : id = other
  · subst same
    cases found : assignment.get? id with
    | some held => simp [found]
    | none => simp [get?_set]
  · rw [if_neg same, Option.or_none]
    split
    · rfl
    · rw [get?_set, if_neg same]

/-- A declaration contributes to its own id, unless that has a value already. -/
theorem get?_addDefault (assignment : Assignment) (declared : Attribute) (id : String) :
    (assignment.addDefault declared).get? id
      = (assignment.get? id).or (declared.defaultUnder id) := by
  unfold addDefault Attribute.defaultUnder
  cases declared.input.initialValue? with
  | none => simp
  | some value => simp [get?_setIfUnset]

/-- **Of some declarations the first one that contributes to an id gives its value.** -/
theorem get?_foldl_addDefault (declarations : List Attribute) (assignment : Assignment)
    (id : String) :
    (declarations.foldl addDefault assignment).get? id
      = (assignment.get? id).or (declarations.findSome? (Attribute.defaultUnder id)) := by
  induction declarations generalizing assignment with
  | nil => rw [List.foldl_nil, List.findSome?_nil, Option.or_none]
  | cons declared rest ih =>
    rw [List.foldl_cons, ih, get?_addDefault, Option.or_assoc, List.findSome?_cons]
    cases declared.defaultUnder id <;> rfl

/-- **What an id starts with** is the default of its first declaration that has one. That is the
default of the attribute that the id stands for, the first one that declares it, exactly unless this
attribute has no default and a later declaration of the id has one; in particular it is where no id
is declared twice. -/
theorem defaults_spec (solution : Solution) (id : String) :
    (defaults solution).get? id
        = (solution.flat.map Prod.snd).findSome? (fun declared =>
            if declared.id = id then declared.input.initialValue? else none)
      ∧ ((defaults solution).get? id
            = (solution.findAttribute? id).bind (fun declared => declared.input.initialValue?)
          ↔ ∀ first, solution.findAttribute? id = some first → first.input.initialValue? = none →
              ∀ entry ∈ solution.flat, entry.2.id = id → entry.2.input.initialValue? = none)
      ∧ (((solution.flat.map fun entry => entry.2.id).Nodup) →
          (defaults solution).get? id
            = (solution.findAttribute? id).bind fun declared => declared.input.initialValue?) := by
  have given : (defaults solution).get? id
      = (solution.flat.map Prod.snd).findSome? (Attribute.defaultUnder id) := by
    rw [defaults, get?_foldl_addDefault, get?_empty, Option.none_or]
  have exactly : (defaults solution).get? id
        = (solution.findAttribute? id).bind (fun declared => declared.input.initialValue?)
      ↔ ∀ first, solution.findAttribute? id = some first → first.input.initialValue? = none →
          ∀ entry ∈ solution.flat, entry.2.id = id → entry.2.input.initialValue? = none := by
    have found := findSome?_eq_bind_iff (fun declared : Attribute => declared.id == id)
      (fun declared => declared.input.initialValue?) (solution.flat.map Prod.snd)
    simp only [List.forall_mem_map, beq_iff_eq] at found
    rw [given]
    exact found
  refine ⟨given, exactly, fun distinct => exactly.mpr ?_⟩
  intro first isFirst without entry member same
  have unique : ((solution.flat.map Prod.snd).map Attribute.id).Nodup := by
    rw [List.map_map]
    exact distinct
  have isThere : solution.findAttribute? id = some entry.2 :=
    (find?_eq_some_iff_of_nodup unique).mpr ⟨List.mem_map_of_mem member, same⟩
  rw [isFirst] at isThere
  cases isThere
  exact without

end Assignment

/-- A solution in which a checkbox and a text share an id. -/
def Solution.repeatedId : Solution where
  id := "layout"
  name := "Layout"
  scripts := []
  attributes := [
    .single ⟨"wide", "Wide", "Wide", "data-wide", none, none, none, .checkbox⟩,
    .single ⟨"wide", "Wide", "Wide", "data-wide", none, none, none, .textInput (some "yes")⟩]

/-- The id stands for the checkbox, which has no default, and starts with the text. -/
theorem Assignment.defaults_repeatedId :
    (Solution.repeatedId.findAttribute? "wide").map Attribute.input = some .checkbox
      ∧ (defaults .repeatedId).get? "wide" = some (.text "yes")
      ∧ (defaults .repeatedId).get? "wide"
        ≠ (Solution.repeatedId.findAttribute? "wide").bind fun declared =>
            declared.input.initialValue? := by
  decide

end PageAttributes
