/-
**A document is accepted exactly if it keeps the rules, and then it can be read.**

* `Validator.violations_eq_nil_iff` — nothing is found in a document exactly if it keeps the rules
  of the grammar;
* `Validator.validate_spec` — a document in which nothing is found spells a schema: whatever is
  reported was found, and reading it is no second source of errors.
-/

import PageAttributes.Grammar.Validator
import PageAttributes.Proofs.Grammar.Names
import PageAttributes.Proofs.Grammar.Shape
import PageAttributes.Proofs.Wire.Decode

namespace PageAttributes.Validator

open Grammar

/-- **Nothing is found in a document exactly if it keeps the rules of the grammar.** -/
theorem violations_eq_nil_iff (validator : Validator) (document : Document) :
    validator.violations document = []
      ↔ Conforms validator.strict validator.detectCycles document := by
  rw [violations, List.append_eq_nil_iff, checkSchema_eq_nil_iff]
  constructor
  · rintro ⟨shape, names⟩
    exact ⟨shape, (crossViolations_eq_nil_iff shape).mp names⟩
  · rintro ⟨shape, names⟩
    exact ⟨shape, (crossViolations_eq_nil_iff shape).mpr names⟩

/-- A canonical document in which nothing is found can be read, and what is read keeps its
outlines. -/
theorem exists_schema {validator : Validator} {document : Document}
    (canonical : document.IsCanonical) (accepted : validator.violations document = []) :
    ∃ fields schema, document = .record fields ∧ Schema.ofDocument .tree document = .ok schema
      ∧ schema.Keeps fields := by
  obtain ⟨shape, _⟩ := List.append_eq_nil_iff.mp accepted
  obtain ⟨fields, rfl, valid⟩ := (checkSchema_eq_nil_iff document).mp shape
  obtain ⟨schema, readable, kept⟩ := Schema.exists_ofDocument canonical valid .tree
  exact ⟨fields, schema, rfl, readable, kept⟩

/-- **A document in which nothing is found spells a schema.** Whatever is reported was found, so
that reading the document is no second source of errors. Every loaded document is canonical
(`isCanonical_of_parseSource`). -/
theorem validate_spec (validator : Validator) {document : Document}
    (canonical : document.IsCanonical) :
    (validator.violations document = [] → ∃ schema, Schema.ofDocument .tree document = .ok schema
        ∧ validator.validate document = .ok schema)
      ∧ ∀ reported, validator.validate document = .error reported →
          reported = validator.violations document ∧ reported ≠ [] := by
  have reads : validator.violations document = [] →
      ∃ schema, Schema.ofDocument .tree document = .ok schema
        ∧ validator.validate document = .ok schema := by
    intro accepted
    obtain ⟨_, schema, _, readable, _⟩ := exists_schema canonical accepted
    refine ⟨schema, readable, ?_⟩
    rw [validate, accepted]
    simp only [readable]
  refine ⟨reads, fun reported refused => ?_⟩
  cases found : validator.violations document with
  | nil =>
    obtain ⟨schema, _, valid⟩ := reads found
    rw [valid] at refused
    cases refused
  | cons first rest =>
    rw [validate, found] at refused
    cases refused
    exact ⟨rfl, List.cons_ne_nil _ _⟩

/-- Looking for cycles finds nothing where attributes wait for earlier ones only. -/
theorem violations_eq_nil_of_lt {document : Document}
    (nothing : violations ⟨false, false⟩ document = [])
    (earlier : ∀ index ∈ solutionIndexes document, ∀ source target,
      Edge index.dependencies source target → target < source) : violations {} document = [] := by
  rw [← nothing, violations, violations, crossViolations, crossViolations]
  congr 2
  refine List.flatMap_congr fun index member => ?_
  rw [SolutionIndex.violations, if_pos rfl, findCycles_eq_nil_of_lt (earlier index member)]
  rfl

/-! ### A document that is accepted -/

/-- A document in which the width of a page may be set once the page is wide, and with a key that
means nothing. -/
def widthPage : Document :=
  .record [("id", .text "page"), ("name", .text "Page"), ("note", .list [.null]),
    ("solutions", .list [.record [
      ("attributes", .list [
        .record [("attributeName", .text "data-wide"), ("description", .text "Wide"),
          ("id", .text "wide"), ("name", .text "Wide"), ("optionsType", .text "text-input"),
          ("type", .text "attribute")],
        .record [("attributeName", .text "data-width"),
          ("conditions", .list [.record [("attributeId", .text "wide"),
            ("attributeValue", .text "yes"), ("type", .text "condition")]]),
          ("description", .text "Width"), ("id", .text "width"), ("name", .text "Width"),
          ("optionsType", .text "integer-input"), ("type", .text "attribute")]]),
      ("id", .text "layout"), ("name", .text "Layout"), ("scripts", .list [])]])]

theorem isCanonical_widthPage : widthPage.IsCanonical := by
  simp +decide [widthPage, Document.IsCanonical, Document.AreCanonical, Document.HaveCanonical,
    Keyed.Sorted]

theorem violations_widthPage : violations {} widthPage = [] := by
  refine violations_eq_nil_of_lt rfl fun index member source target edge => ?_
  obtain rfl := List.mem_singleton.mp (show index ∈ [SolutionIndex.ofFields _ _] from member)
  replace edge : Edge [[], [0]] source target := edge
  match source with
  | 0 => cases edge
  | 1 => exact List.mem_singleton.mp edge ▸ Nat.zero_lt_one
  | _ + 2 => cases edge

/-- Such a document is read. -/
theorem validate_spec_widthPage :
    ∃ schema, Schema.ofDocument .tree widthPage = .ok schema
      ∧ validate {} widthPage = .ok schema :=
  (validate_spec {} isCanonical_widthPage).1 violations_widthPage

/-- The solution of a page whose width may be set once it is wide. -/
def widthSolution : Solution where
  id := "layout"
  name := "Layout"
  scripts := []
  attributes := [
    .single ⟨"wide", "Wide", "Wide", "data-wide", none, none, none, .textInput none⟩,
    .single ⟨"width", "Width", "Width", "data-width", none, none,
      some [.leaf "wide" (.text "yes")], .integerInput none⟩]

theorem validate_widthPage :
    validate {} widthPage = .ok ⟨"page", "Page", [widthSolution]⟩ := by
  rw [validate, violations_widthPage]
  rfl

end PageAttributes.Validator
