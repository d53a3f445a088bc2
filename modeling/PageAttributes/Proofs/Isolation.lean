/-
**Solutions are validated on their own.**

* `filter_standsIn_eachItem` — among what is said about the items of a list, what stands in one of
  them is what is said about that one;
* `filter_concerns_violations` — what is reported inside a solution comes from that solution alone,
  if ids of solutions that were used before are left out;
* `Validator.filter_reported` — so it stays when the other solutions, and the other fields of the
  document, are changed in any way.
-/

import PageAttributes.Proofs.Grammar.Within

namespace PageAttributes

/-- The reason is that the id of a solution was used before. -/
def Reason.repeatsSolution : Reason → Bool
  | .repeatedId .solution _ _ => true
  | _ => false

namespace Grammar

/-! ### Places of solutions -/

/-- The place of a solution. -/
def solutionPlace (position : Nat) : Path := (Path.root.field "solutions").index position

/-- A violation stands at a place or inside of it. -/
def standsIn (place : Path) (violation : Violation) : Bool := place.isPrefixOf violation.path

/-- A violation stands in a solution, and its reason is not the id of another solution. -/
def concerns (position : Nat) (violation : Violation) : Bool :=
  !violation.reason.repeatsSolution && standsIn (solutionPlace position) violation

variable {path : Path} {fields : Fields} {items : List Document} {position : Nat}

theorem standsIn_eq_true_iff {place : Path} {violation : Violation} :
    standsIn place violation = true ↔ place <+: violation.path := List.isPrefixOf_iff_prefix

/-- What concerns a solution is filtered out in two steps. -/
theorem filter_concerns (found : List Violation) :
    found.filter (concerns position)
      = (found.filter (standsIn (solutionPlace position))).filter fun violation =>
          !violation.reason.repeatsSolution := by
  rw [List.filter_filter]
  rfl

/-! ### What stands in one item -/

section Items

variable {about : Path → Document → List Violation}
  (each : ∀ path item, ∀ violation ∈ about path item, path <+: violation.path)
include each

/-- What is said about an item stands in it. -/
theorem filter_standsIn_self (place : Path) (item : Document) :
    (about place item).filter (standsIn place) = about place item :=
  List.filter_eq_self.mpr fun violation member =>
    standsIn_eq_true_iff.mpr (each place item violation member)

/-- What is said about other items does not stand in an item. -/
theorem filter_standsIn_behind {start : Nat} (before : position < start) (items : List Document) :
    (eachItem about path start items).filter (standsIn (path.index position)) = [] := by
  refine List.filter_eq_nil_iff.mpr fun violation member stands => ?_
  obtain ⟨other, behind, inOther⟩ := exists_index_of_mem_eachItem each violation member
  have same := index_inj_of_prefix (standsIn_eq_true_iff.mp stands) inOther
  omega

/-- **Among what is said about the items of a list, what stands in one of them is what is said about
that one.** -/
theorem filter_standsIn_eachItem (items : List Document) :
    ∀ start position, (eachItem about path start items).filter
        (standsIn (path.index (start + position)))
      = items[position]?.toList.flatMap (about (path.index (start + position))) := by
  induction items with
  | nil => exact fun _ _ => rfl
  | cons item rest ih =>
    intro start position
    rw [eachItem, List.filter_append]
    cases position with
    | zero =>
      rw [Nat.add_zero, filter_standsIn_self each, filter_standsIn_behind each (Nat.lt_succ_self _)]
      rw [List.getElem?_cons_zero, Option.toList_some, List.flatMap_singleton, List.append_nil]
    | succ position =>
      have elsewhere : (about (path.index start) item).filter
          (standsIn (path.index (start + (position + 1)))) = [] := by
        refine List.filter_eq_nil_iff.mpr fun violation member stands => ?_
        have same := index_inj_of_prefix (standsIn_eq_true_iff.mp stands)
          (each _ item violation member)
        omega
      have later := ih (start + 1) position
      rw [Nat.add_assoc, Nat.add_comm 1] at later
      rw [elsewhere, later, List.nil_append, List.getElem?_cons_succ]

/-- The same for the solutions of a document. -/
theorem filter_standsIn_solutions (position : Nat) (items : List Document) :
    (eachItem about (Path.root.field "solutions") 0 items).filter (standsIn (solutionPlace position))
      = items[position]?.toList.flatMap (about (solutionPlace position)) := by
  have found := @filter_standsIn_eachItem (Path.root.field "solutions") about each items 0 position
  rwa [Nat.zero_add] at found

end Items

/-! ### What stands at the root -/

/-- What stands at a field of the document stands in no solution. -/
theorem filter_standsIn_fields {found : List Violation}
    (each : ∀ violation ∈ found, ∃ key, violation.path = Path.root.field key) :
    found.filter (standsIn (solutionPlace position)) = [] := by
  refine List.filter_eq_nil_iff.mpr fun violation member stands => ?_
  obtain ⟨key, same⟩ := each violation member
  have long : 2 ≤ violation.path.length := (standsIn_eq_true_iff.mp stands).length_le
  have short : violation.path.length = 1 := congrArg List.length same
  omega

/-- So it is with the check of a single field. -/
theorem FieldCheck.filter_standsIn {key : String} {found : List Violation}
    (checked : FieldCheck .root fields key found) :
    found.filter (standsIn (solutionPlace position)) = [] :=
  filter_standsIn_fields fun violation member => ⟨key, checked.place violation member⟩

/-- Unknown keys of the document do not stand in a solution either. -/
theorem filter_standsIn_checkKeys (strict : Bool) (known : List String) :
    (checkKeys strict known fields .root).filter (standsIn (solutionPlace position)) = [] := by
  refine filter_standsIn_fields fun violation member => ?_
  obtain ⟨_, key, _, _, rfl⟩ := exists_of_mem_checkKeys member
  exact ⟨key, rfl⟩

/-! ### Whole documents -/

/-- What stands in a solution, of what is wrong with the shape of a document. -/
theorem filter_standsIn_checkSchema (strict : Bool) (position : Nat)
    (listed : fields.lookup "solutions" = some (.list items)) :
    (checkSchema strict (.record fields)).filter (standsIn (solutionPlace position))
      = items[position]?.toList.flatMap (checkSolution strict (solutionPlace position)) := by
  have each : ∀ path item, ∀ violation ∈ checkSolution strict path item, path <+: violation.path :=
    fun path item violation member =>
      ((checks_checkSolution path item).reported strict violation member).inside
  have same : listOf fields "solutions" = items := by rw [listOf, listed]
  unfold checkSchema inRecord
  simp only [List.filter_append, filter_standsIn_checkKeys,
    fieldCheck_requireText.filter_standsIn, fieldCheck_requireList.filter_standsIn,
    List.nil_append, same]
  exact filter_standsIn_solutions each position items

/-- Repeated ids of solutions concern no solution on its own. -/
theorem filter_concerns_solutionIds (entries : List (String × Path)) :
    (repeatedIds .solution entries).filter (concerns position) = [] := by
  refine List.filter_eq_nil_iff.mpr fun violation member => ?_
  obtain ⟨entry, _, first, rfl⟩ := exists_of_mem_repeatedIds member
  exact Bool.false_ne_true

end Grammar

namespace Validator

open Grammar

variable {fields others : Fields} {items itemsToo : List Document}

/-- What the validation of a document reports: nothing, if the document is accepted. -/
def reported (validator : Validator) (document : Document) : List Violation :=
  match validator.validate document with
  | .ok _ => []
  | .error found => found

/-- What a solution gives rise to: what is wrong with its shape, and with the names in it. -/
def solutionViolations (validator : Validator) (path : Path) (item : Document) : List Violation :=
  checkSolution validator.strict path item
    ++ SolutionIndex.namesIn validator.detectCycles path item

/-- What is reported are the violations, or that the document spells no schema. -/
theorem filter_concerns_reported (validator : Validator) (position : Nat) (document : Document) :
    (validator.reported document).filter (concerns position)
      = (validator.violations document).filter (concerns position) := by
  unfold reported validate
  cases validator.violations document with
  | cons first rest => rfl
  | nil =>
    dsimp only
    split
    · rename_i schema _
      rfl
    · rename_i found refused
      split at refused
      · cases refused
      · cases refused
        rfl

/-- **What is reported inside a solution comes from that solution alone.** -/
theorem filter_concerns_violations (validator : Validator) (position : Nat)
    (listed : fields.lookup "solutions" = some (.list items)) :
    (validator.violations (.record fields)).filter (concerns position)
      = (items[position]?.toList.flatMap
          (validator.solutionViolations (solutionPlace position))).filter
            fun violation => !violation.reason.repeatsSolution := by
  have shape := filter_standsIn_checkSchema validator.strict position listed
  have names : (crossViolations validator.detectCycles (.record fields)).filter (concerns position)
      = (items[position]?.toList.flatMap (SolutionIndex.namesIn validator.detectCycles
          (solutionPlace position))).filter fun violation => !violation.reason.repeatsSolution := by
    have all := filter_standsIn_solutions
      (SolutionIndex.inside_namesIn validator.detectCycles) position items
    have same : solutionItems (.record fields) = items := by rw [solutionItems, listOf, listed]
    unfold SolutionIndex.namesIn at all ⊢
    unfold crossViolations solutionIndexes
    rw [List.filter_append, filter_concerns_solutionIds, List.nil_append, same,
      flatMap_eachItem, filter_concerns, all]
  unfold violations
  rw [List.filter_append, names, filter_concerns, shape, ← List.filter_append]
  cases items[position]? with
  | none => rfl
  | some item =>
    rw [Option.toList_some, List.flatMap_singleton, List.flatMap_singleton, List.flatMap_singleton]
    rfl

/-- **Solutions are validated on their own.** Take two documents with a list of solutions each, and
with the same solution at some position. All their other solutions, and all other fields of the
documents, may be anything. Then the same violations are reported inside of that solution, in the
same order, if solution ids that were used before are left out. -/
theorem filter_reported (validator : Validator) (position : Nat)
    (listed : fields.lookup "solutions" = some (.list items))
    (listedToo : others.lookup "solutions" = some (.list itemsToo))
    (same : items[position]? = itemsToo[position]?) :
    (validator.reported (.record fields)).filter (concerns position)
      = (validator.reported (.record others)).filter (concerns position) := by
  rw [filter_concerns_reported, filter_concerns_reported, filter_concerns_violations _ _ listed,
    filter_concerns_violations _ _ listedToo, same]

/-- The solution with a cycle, behind one that is no record and behind one with the same id. -/
theorem filter_reported_mutual :
    (reported {} (.record [("id", .null),
        ("solutions", .list [.null, .record mutualFields])])).filter (concerns 1)
      = (reported {} (.record [("name", .text "Page"),
        ("solutions", .list [.record [("id", .text "layout")], .record mutualFields])])).filter
          (concerns 1) :=
  filter_reported {} 1 rfl rfl rfl

end Validator

end PageAttributes
