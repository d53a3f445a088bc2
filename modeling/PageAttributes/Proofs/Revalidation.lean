/-
**A typed schema that is validated comes back as it was.**

* `Schema.ofDocument_toDocument` — what is written of a schema is read as that schema;
* `Schema.pruneSchema_toDocument` — it has no unknown keys;
* `Validator.validateSchema_spec` — so a schema is returned unchanged if nothing is wrong with its
  document, refused with what is wrong otherwise, and unknown keys make no difference.

Nothing is asked of the schema: its lists may be empty or missing, its ids repeated and its
conditions nested as deep as they like.
-/

import PageAttributes.Proofs.Grammar.Strictness
import PageAttributes.Proofs.RoundTrip

namespace PageAttributes

open Grammar

namespace Schema

variable (schema : Schema)

/-- What is written of a schema is a canonical document that spells it. -/
theorem exists_written : ∃ fields, schema.toDocument.canonical = .record fields
    ∧ (Document.record fields).IsCanonical ∧ schema.Spells fields := by
  obtain ⟨fields, same, spelled⟩ := schema.spells_toDocument Wire.Rearranges.canonical
  exact ⟨fields, same, same ▸ Document.isCanonical_canonical schema.toDocument, spelled⟩

/-- **What is written of a schema is read as that schema.** -/
theorem ofDocument_toDocument : ofDocument .tree schema.toDocument.canonical = .ok schema := by
  obtain ⟨fields, same, canonical, spelled⟩ := schema.exists_written
  rw [same]
  exact ofDocument_of_spells .tree canonical.hasUniqueKeys spelled

/-- What is written of a schema has no unknown keys. -/
theorem pruneSchema_toDocument :
    pruneSchema schema.toDocument.canonical = schema.toDocument.canonical := by
  obtain ⟨fields, same, canonical, spelled⟩ := schema.exists_written
  have pruned := canonical_toDocument canonical spelled
  rw [← same] at pruned
  exact pruned.symm

end Schema

namespace Validator

/-- **A typed schema is returned as it was if nothing is wrong with it**, and otherwise it is refused
with all that is wrong. Whether unknown keys are refused makes no difference, since none are
written. -/
theorem validateSchema_spec (schema : Schema) :
    Schema.ofDocument .tree schema.toDocument.canonical = .ok schema
      ∧ ∀ validator : Validator,
        ((validator.violations schema.toDocument.canonical = []
              ∧ validator.validateSchema schema = .ok schema)
            ∨ (validator.violations schema.toDocument.canonical ≠ []
              ∧ validator.validateSchema schema
                = .error (validator.violations schema.toDocument.canonical)))
          ∧ validateSchema ⟨true, validator.detectCycles⟩ schema
            = validateSchema ⟨false, validator.detectCycles⟩ schema := by
  have readable := schema.ofDocument_toDocument
  refine ⟨readable, fun validator => ⟨?_, ?_⟩⟩
  · unfold validateSchema validate
    cases found : validator.violations schema.toDocument.canonical with
    | nil => exact Or.inl ⟨rfl, by simp only [readable]⟩
    | cons first rest => exact Or.inr ⟨List.cons_ne_nil first rest, rfl⟩
  · have strict := validate_pruneSchema validator true schema.toDocument.canonical
    have lenient := validate_pruneSchema validator false schema.toDocument.canonical
    rw [schema.pruneSchema_toDocument] at strict lenient
    exact strict.trans lenient.symm

/-- A solution of one attribute. -/
def lonelySolution : Solution where
  id := "layout"
  name := "Layout"
  scripts := []
  attributes := [
    .single ⟨"width", "width", "width", "width", none, none, none, .textInput none⟩]

/-- A schema of that solution is returned, and one that has it twice is refused. -/
theorem validateSchema_lonelySolution :
    validateSchema ⟨true, false⟩ ⟨"page", "Page", [lonelySolution]⟩
        = .ok ⟨"page", "Page", [lonelySolution]⟩
      ∧ ∃ reported, reported ≠ []
        ∧ validateSchema ⟨true, false⟩ ⟨"page", "Page", [lonelySolution, lonelySolution]⟩
          = .error reported := by
  have once := ((validateSchema_spec ⟨"page", "Page", [lonelySolution]⟩).2 ⟨true, false⟩).1
  have twice := ((validateSchema_spec
    ⟨"page", "Page", [lonelySolution, lonelySolution]⟩).2 ⟨true, false⟩).1
  refine ⟨(once.resolve_right fun refused => refused.1 ?_).2,
    _, (twice.resolve_left fun accepted => absurd accepted.1 ?_)⟩
  · decide +kernel
  · decide +kernel

end Validator

end PageAttributes
