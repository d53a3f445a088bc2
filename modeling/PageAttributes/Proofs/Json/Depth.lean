/-
**What is read is nested less deep than the reader allows.**

* `Gives` — whatever a reading gives has a property;
* `Shallow` — in so many steps nothing is read that is nested too deep, be it a value, a list or a
  record;
* `shallow_value`, `shallow_items`, `shallow_fields` — one step more;
* `nesting_of_readAll` — so it is for whole texts.
-/

import PageAttributes.Json.Reader
import PageAttributes.Proofs.Document.Lighter

namespace PageAttributes.Json

open Document

/-! ### Readings -/

/-- Whatever a reading gives has a property. -/
def Gives (reading : Reading Document) (property : Document → Prop) : Prop :=
  ∀ document rest, reading = .ok (document, rest) → property document

variable {property : Document → Prop}

theorem gives_ok {document : Document} {rest : List Symbol} (holds : property document) :
    Gives (.ok (document, rest)) property := by
  intro _ _ given
  cases given
  exact holds

theorem gives_error {halted : Break} : Gives (.error halted) property := by
  intro _ _ given
  cases given

theorem gives_atOnce_error {before : Document} {halt : Halt} :
    Gives (Break.atOnce before (.error halt)) property := gives_error

/-- What is made of a part of the text. -/
theorem gives_atOnce_map {α : Type} {before : Document} {result : Except Halt α}
    {make : α → Document × List Symbol} (holds : ∀ part, property (make part).1) :
    Gives (Break.atOnce before (result.map make)) property := by
  cases result with
  | error halt => exact gives_atOnce_error
  | ok part => exact gives_ok (holds part)

/-! ### One step -/

/-- What is read in so many steps is nested less deep than is allowed. A list or a record may be as
deep as its parts may, and one deeper. -/
structure Shallow (steps : Nat) : Prop where
  value : ∀ {depth attention symbols}, 0 < depth →
    Gives (readValue steps depth attention symbols) fun document => document.nesting < depth
  items : ∀ {depth attention before symbols}, 0 < depth → (∀ item ∈ before, item.nesting < depth) →
    Gives (readItems steps depth attention before symbols)
      fun document => document.nesting < depth + 1
  fields : ∀ {depth attention before symbols}, 0 < depth →
    (∀ field ∈ before, field.2.nesting < depth) →
    Gives (readFields steps depth attention before symbols)
      fun document => document.nesting < depth + 1

variable {steps depth : Nat} {attention : Attention} {symbols : List Symbol}

theorem shallow_zero : Shallow 0 := by
  refine ⟨fun _ => ?_, fun _ _ => ?_, fun _ _ => ?_⟩
  · unfold readValue
    exact gives_atOnce_error
  · unfold readItems
    exact gives_atOnce_error
  · unfold readFields
    exact gives_atOnce_error

/-- What may be one deeper than what stands inside of a list or a record. -/
theorem Gives.enclosed {reading : Reading Document}
    (gives : Gives reading fun document => document.nesting < depth - 1 + 1) (room : ¬ depth ≤ 1) :
    Gives reading fun document => document.nesting < depth := by
  intro document rest given
  have inside := gives document rest given
  omega

theorem shallow_value (shallow : Shallow steps) (room : 0 < depth) :
    Gives (readValue (steps + 1) depth attention symbols)
      fun document => document.nesting < depth := by
  have scalar : ∀ {document : Document}, document.nesting = 0 → document.nesting < depth := by
    intro document flat
    rw [flat]
    exact room
  unfold readValue
  split
  · exact gives_atOnce_map fun _ => scalar rfl
  · split
    · exact gives_atOnce_error
    · split
      · exact gives_atOnce_map fun _ => scalar rfl
      · exact gives_atOnce_map fun _ => scalar rfl
      · exact gives_atOnce_map fun _ => scalar rfl
      · exact gives_atOnce_map fun _ => scalar rfl
      · exact gives_atOnce_map fun _ => scalar rfl
      · split
        · exact gives_atOnce_error
        · rename_i roomy
          split
          · exact gives_ok (Nat.lt_of_not_le roomy)
          · exact gives_atOnce_error
          · refine (shallow.items ?_ (List.forall_mem_nil _)).enclosed roomy
            omega
      · split
        · exact gives_atOnce_error
        · rename_i roomy
          split
          · exact gives_ok (Nat.lt_of_not_le roomy)
          · exact gives_atOnce_error
          · refine (shallow.fields ?_ (List.forall_mem_nil _)).enclosed roomy
            omega
      · split
        · exact gives_atOnce_map fun _ => scalar rfl
        · exact gives_atOnce_error
      · exact gives_atOnce_error

/-- A list is one deeper than its items. -/
theorem nesting_list_reverse {items : List Document} (room : 0 < depth)
    (each : ∀ item ∈ items, item.nesting < depth) :
    (Document.list items.reverse).nesting < depth + 1 := by
  obtain ⟨bound, rfl⟩ := Nat.exists_eq_succ_of_ne_zero (Nat.ne_of_gt room)
  refine Nat.lt_succ_of_le (nesting_list_le_iff.mpr fun item member => ?_)
  exact Nat.le_of_lt_succ (each item (List.mem_reverse.mp member))

theorem nesting_record_reverse {fields : List (String × Document)} (room : 0 < depth)
    (each : ∀ field ∈ fields, field.2.nesting < depth) :
    (Document.record fields.reverse).nesting < depth + 1 := by
  obtain ⟨bound, rfl⟩ := Nat.exists_eq_succ_of_ne_zero (Nat.ne_of_gt room)
  refine Nat.lt_succ_of_le (nesting_record_le_iff.mpr fun field member => ?_)
  exact Nat.le_of_lt_succ (each field (List.mem_reverse.mp member))

theorem shallow_items (shallow : Shallow steps) {before : List Document} (room : 0 < depth)
    (each : ∀ item ∈ before, item.nesting < depth) :
    Gives (readItems (steps + 1) depth attention before symbols)
      fun document => document.nesting < depth + 1 := by
  unfold readItems
  split
  · exact gives_error
  · rename_i item rest read
    have all : ∀ other ∈ item :: before, other.nesting < depth :=
      List.forall_mem_cons.mpr ⟨shallow.value room item rest read, each⟩
    dsimp only
    split
    · exact gives_ok (nesting_list_reverse room all)
    · split
      · exact gives_atOnce_error
      · exact shallow.items room all
    · exact gives_atOnce_error
    · exact gives_error

theorem shallow_fields (shallow : Shallow steps) {before : List (String × Document)}
    (room : 0 < depth) (each : ∀ field ∈ before, field.2.nesting < depth) :
    Gives (readFields (steps + 1) depth attention before symbols)
      fun document => document.nesting < depth + 1 := by
  unfold readFields
  split
  · split
    · exact gives_atOnce_error
    · rename_i key rest _
      dsimp only
      split
      · split
        · exact gives_error
        · rename_i value rest read
          have all : ∀ field ∈ (key, value) :: before, field.2.nesting < depth :=
            List.forall_mem_cons.mpr ⟨shallow.value room value rest read, each⟩
          split
          · exact gives_ok (nesting_record_reverse room all)
          · split
            · exact gives_atOnce_error
            · exact gives_atOnce_error
            · exact shallow.fields room all
          · exact gives_atOnce_error
          · exact gives_atOnce_error
      · exact gives_error
      · exact gives_error
  · exact gives_atOnce_error

/-- So it is for any number of steps. -/
theorem shallow (steps : Nat) : Shallow steps := by
  induction steps with
  | zero => exact shallow_zero
  | succ steps ih => exact ⟨shallow_value ih, shallow_items ih, shallow_fields ih⟩

/-! ### Whole texts -/

/-- **What is read of a text is nested less deep than is allowed.** -/
theorem nesting_of_readAll {document : Document} (room : 0 < depth)
    (read : readAll depth symbols = .ok document) : document.nesting < depth := by
  unfold readAll Json.read at read
  split at read
  · rename_i found whole
    cases read
    split at whole
    · cases whole
    · rename_i given rest value
      split at whole
      · cases whole
        have inside := (shallow _).value room found rest value
        exact Nat.lt_of_le_of_lt (lighter_canonical found).nesting inside
      · cases whole
  · cases read

end PageAttributes.Json
