/-
**An accepted document is written back as it was.**

* `Validator.exists_spells` — an accepted document spells the schema that is read from it;
* `Validator.validate_of_conforms` — a document that keeps the rules and spells a schema is read as
  that schema;
* `Validator.canonical_toDocument_of_validate` — an accepted document without unknown keys is
  written back as it was; one with unknown keys is written back without them, and is then accepted
  as the same schema by a validator that refuses unknown keys.
-/

import PageAttributes.Proofs.Validation
import PageAttributes.Proofs.Wire.Pruned

namespace PageAttributes.Validator

open Grammar

/-- A document that keeps the rules and spells a schema is read as that schema. -/
theorem validate_of_conforms {validator : Validator} {fields : Fields} {schema : Schema}
    (conforms : Conforms validator.strict validator.detectCycles (.record fields))
    (unique : (Document.record fields).HasUniqueKeys) (spelled : schema.Spells fields) :
    validator.validate (.record fields) = .ok schema := by
  have nothing : validator.violations (.record fields) = [] := by
    rw [violations, (checkSchema_eq_nil_iff _).mpr conforms.shape,
      (crossViolations_eq_nil_iff conforms.shape).mpr conforms.names, List.append_nil]
  rw [validate, nothing]
  simp only [Schema.ofDocument_of_spells .tree unique spelled]

/-- An accepted document keeps the rules and spells the schema that is read from it. -/
theorem exists_spells {validator : Validator} {document : Document}
    (canonical : document.IsCanonical) {schema : Schema}
    (accepted : validator.validate document = .ok schema) :
    ∃ fields, document = .record fields ∧ schema.Spells fields
      ∧ Conforms validator.strict validator.detectCycles document := by
  cases found : validator.violations document with
  | cons first rest =>
    rw [validate, found] at accepted
    cases accepted
  | nil =>
    rw [violations, List.append_eq_nil_iff] at found
    have shape := (checkSchema_eq_nil_iff document).mp found.1
    have names := (crossViolations_eq_nil_iff shape).mp found.2
    obtain ⟨fields, rfl, valid⟩ := shape
    obtain ⟨spelled, spells⟩ := Schema.exists_spells valid
    have conforms : Conforms validator.strict validator.detectCycles (.record fields) :=
      ⟨⟨fields, rfl, valid⟩, names⟩
    have read := validate_of_conforms conforms canonical.hasUniqueKeys spells
    cases read.symm.trans accepted
    exact ⟨fields, rfl, spells, conforms⟩

/-- **An accepted document is written back as it was, without its unknown keys.** A validator that
refuses unknown keys accepts only what is written back exactly; one that passes over them accepts
what is written back pruned, and then both read the same schema from it. -/
theorem canonical_toDocument_of_validate {validator : Validator} {document : Document}
    (canonical : document.IsCanonical) {schema : Schema}
    (accepted : validator.validate document = .ok schema) :
    (validator.strict = true → schema.toDocument.canonical = document)
      ∧ (validator.strict = false → schema.toDocument.canonical = pruneSchema document
          ∧ validate ⟨true, validator.detectCycles⟩ schema.toDocument.canonical = .ok schema) := by
  obtain ⟨fields, rfl, spelled, shape, names⟩ := exists_spells canonical accepted
  have pruned := Schema.canonical_toDocument canonical spelled
  constructor
  · intro strict
    rw [strict] at shape
    rw [pruned, pruneSchema_eq_self shape canonical.hasUniqueKeys]
  · intro _
    refine ⟨pruned, ?_⟩
    obtain ⟨written, same, spelledToo⟩ := schema.spells_toDocument Wire.Rearranges.canonical
    have unique := (Document.isCanonical_canonical schema.toDocument).hasUniqueKeys
    have shapeToo : WellShaped true schema.toDocument.canonical := pruned ▸ shape.prune
    rw [same] at unique shapeToo ⊢
    refine validate_of_conforms ⟨shapeToo, ?_⟩ unique spelledToo
    rw [Schema.wellNamed_iff spelledToo, ← Schema.wellNamed_iff spelled]
    exact names

/-- The page whose width may be set once it is wide is written back without its note. -/
theorem canonical_toDocument_of_validate_widthPage :
    (⟨"page", "Page", [widthSolution]⟩ : Schema).toDocument.canonical = pruneSchema widthPage
      ∧ validate ⟨true, true⟩ (⟨"page", "Page", [widthSolution]⟩ : Schema).toDocument.canonical
          = .ok ⟨"page", "Page", [widthSolution]⟩ :=
  (canonical_toDocument_of_validate isCanonical_widthPage validate_widthPage).2 rfl

end PageAttributes.Validator
