/-
**What was built from a JSON source can be built again.**

The artifact of a build is a source in its own right, and building it changes nothing.

* `lighter_toDocument_of_validate` — what is written of an accepted document has no more in it than
  the document;
* `validate_toDocument_of_validate` — and it is accepted as the same schema, whether unknown keys are
  refused or not;
* `nesting_of_parseSource` — a JSON source is nested less deep than what a reader allows, so the
  artifact is too, and can be read;
* `rebuild_of_build` — the artifact is read back as the schema that was built, and building it gives
  the same schema and leaves every file as it is.
-/

import PageAttributes.Proofs.Artifact
import PageAttributes.Proofs.Grammar.Lighter
import PageAttributes.Proofs.Json.Depth
import PageAttributes.Proofs.Pipeline.Builds
import PageAttributes.Proofs.Revalidation
import PageAttributes.Proofs.Source.Format
import PageAttributes.Proofs.Source.Load

namespace PageAttributes

open Json

/-! ### Accepted documents -/

section Accepted

variable {validator : Validator} {document : Document} {schema : Schema}
  (canonical : document.IsCanonical) (accepted : validator.validate document = .ok schema)
include canonical accepted

/-- What is written of an accepted document has no more in it than the document. -/
theorem lighter_toDocument_of_validate : schema.toDocument.Lighter document := by
  obtain ⟨fields, rfl, spelled, _⟩ := Validator.exists_spells canonical accepted
  have ordered := Document.lighter_of_hasUniqueKeys _ schema.hasUniqueKeys_toDocument
  rw [Schema.canonical_toDocument canonical spelled] at ordered
  exact ordered.trans (Grammar.lighter_pruneSchema _)

/-- What is written of an accepted document is accepted as the same schema, whether unknown keys are
refused or not. -/
theorem validate_toDocument_of_validate (strict : Bool) :
    Validator.validate ⟨strict, validator.detectCycles⟩ schema.toDocument.canonical
      = .ok schema := by
  obtain ⟨fields, rfl, spelled, shape, names⟩ := Validator.exists_spells canonical accepted
  obtain ⟨written, same, canonicalToo, spelledToo⟩ := schema.exists_written
  have pruned := Schema.canonical_toDocument canonical spelled
  have strictly : Validator.validate ⟨true, validator.detectCycles⟩ schema.toDocument.canonical
      = .ok schema := by
    have shapeToo : Grammar.WellShaped true schema.toDocument.canonical := pruned ▸ shape.prune
    rw [same] at shapeToo ⊢
    refine Validator.validate_of_conforms ⟨shapeToo, ?_⟩ canonicalToo.hasUniqueKeys spelledToo
    rw [Schema.wellNamed_iff spelledToo, ← Schema.wellNamed_iff spelled]
    exact names
  have both := Validator.validate_pruneSchema ⟨true, validator.detectCycles⟩ strict
    schema.toDocument.canonical
  rw [schema.pruneSchema_toDocument] at both
  exact both.trans strictly

end Accepted

/-! ### Sources -/

/-- A JSON source is nested less deep than what a reader allows. -/
theorem nesting_of_parseSource {text origin : String} {document : Document}
    (loaded : parseSource text .json origin = .ok document) : document.nesting < depthLimit := by
  unfold parseSource at loaded
  split at loaded
  · rename_i found read
    split at loaded
    · cases loaded
    · cases loaded
      unfold readSource at read
      dsimp only at read
      split at read
      · rename_i whole
        cases read
        exact nesting_of_readAll (by decide) whole
      · cases read
  · cases loaded

/-- The document of a schema is a record. -/
theorem isNull_toDocument (schema : Schema) : schema.toDocument.canonical.isNull = false := by
  obtain ⟨fields, same, _⟩ := schema.exists_written
  rw [same]
  rfl

/-! ### Building again -/

variable {storage after : Storage} {source directory : String} {validator : Validator}
  {output : BuildOutput} {document : Document}

/-- A document is loaded from the text of its source. -/
theorem exists_parseSource_of_run_loadSource {format : SourceFormat}
    (known : sourceFormat source = .ok format)
    (loaded : ((loadSource source : StateM Storage _).run storage).1 = .ok document) :
    ∃ text, parseSource text format source = .ok document := by
  rw [run_loadSource known (storage.run_readFile source)] at loaded
  dsimp only at loaded
  unfold documentOf at loaded
  split at loaded
  · cases loaded
  · exact ⟨_, loaded⟩

/-- Reading back a schema. -/
theorem run_load {path : String} {content : ByteArray} {schema : Schema}
    (holds : storage.read path = .ok content) (readable : Schema.ofBytes content = .ok schema) :
    (Schema.load path : StateM Storage _).run storage = (.ok schema, storage) := by
  unfold Schema.load
  rw [StateT.run_bind, Storage.run_readFile, holds]
  show StateT.run (pure ((Schema.ofBytes content).mapError PipelineError.unreadable)) storage = _
  rw [readable]
  rfl

/-- What a build has done that succeeded. -/
theorem exists_replaced_of_build
    (built : (build source directory validator : StateM Storage _).run storage
      = (.ok output, after))
    (loaded : ((loadSource source : StateM Storage _).run storage).1 = .ok document) :
    validator.validate document = .ok output.schema
      ∧ output.path = FilePath.join directory Schema.fileName
      ∧ ∃ names, storage.locate (FilePath.join directory Schema.fileName) = .ok names
        ∧ Storage.Replaced names output.schema.toJson.toUTF8 storage after := by
  have outcome := BuildRequest.outcome_run_untroubled ⟨source, directory, validator⟩ storage
  unfold BuildRequest.run at outcome
  rw [built] at outcome
  obtain ⟨⟨given, loads, accepted⟩, done⟩ := outcome
  obtain ⟨both, troubled, alone⟩ := BuildRequest.exists_run_loadSource_untroubled source storage
  rw [alone] at loaded
  rw [troubled] at loads
  cases loads.symm.trans loaded
  exact ⟨accepted, done⟩

/-! ### Artifacts as sources -/

/-- **The artifact of a build from a JSON source is a fixed point.** Suppose that a build succeeds,
and that every number of its source other than an integer survives being written. Then its artifact
is read back as the schema that was built. Building the artifact into the same directory, with
unknown keys refused or not, succeeds with the same schema, and no file has another content than
before. -/
theorem rebuild_of_build (json : sourceFormat source = .ok .json)
    (built : (build source directory validator : StateM Storage _).run storage
      = (.ok output, after))
    (loaded : ((loadSource source : StateM Storage _).run storage).1 = .ok document)
    (survive : ∀ value : Binary64, Numeral.real value ∈ document.numbers →
      (Numeral.real value).Survives) :
    ((Schema.load output.path : StateM Storage _).run after).1 = .ok output.schema
      ∧ ∀ strict, ∃ again,
        (build output.path directory ⟨strict, validator.detectCycles⟩ : StateM Storage _).run after
          = (.ok output, again)
        ∧ after.content? output.path = some output.schema.toJson.toUTF8
        ∧ ∀ path, again.content? path = after.content? path := by
  obtain ⟨accepted, place, names, located, replaced⟩ := exists_replaced_of_build built loaded
  obtain ⟨text, parsed⟩ := exists_parseSource_of_run_loadSource json loaded
  have canonical := isCanonical_of_parseSource parsed
  -- The artifact has no more in it than the source, so it is not nested too deep either.
  have lighter := lighter_toDocument_of_validate canonical accepted
  have fits := Nat.lt_of_le_of_lt lighter.nesting (nesting_of_parseSource parsed)
  have numbers : ∀ value ∈ output.schema.toDocument.numbers, value.Survives := by
    intro value member
    cases value with
    | natural value => exact Numeral.survives_natural value
    | negative distance => exact Numeral.survives_negative distance
    | real value => exact survive value (lighter.numbers member)
  have holds := replaced.read located
  rw [place]
  refine ⟨?_, fun strict => ?_⟩
  · rw [run_load holds ((Schema.ofBytes_toJson numbers).1 fits)]
  · obtain ⟨again, written, repeated⟩ := replaced.exists_write located
    have parsedToo := parseSource_write fits numbers (isNull_toDocument output.schema)
    have loads := run_loadSource_text (sourceFormat_artifact directory) holds (parsedToo _)
    have acceptedToo : schemaOf ⟨strict, validator.detectCycles⟩
        (.ok output.schema.toDocument.canonical) = .ok output.schema := by
      unfold schemaOf
      dsimp only
      rw [validate_toDocument_of_validate canonical accepted strict]
      rfl
    have writes := after.run_writeFile (FilePath.join directory Schema.fileName)
      output.schema.toJson.toUTF8
    rw [written] at writes
    refine ⟨again, ?_, ?_, replaced.repeated repeated⟩
    · rw [run_build loads acceptedToo (run_save writes), ← place]
      rfl
    · rw [Storage.content?, holds]
      rfl

open Validator in
/-- The page whose width may be set once it is wide is built, without its note, and then built again
from its artifact. -/
theorem rebuild_of_build_page : ∃ after,
    (build "page.json" "out" {} : StateM Storage _).run (sourceStorage widthPage.write.toUTF8)
      = (.ok ⟨⟨"page", "Page", [widthSolution]⟩, FilePath.join "out" Schema.fileName⟩, after)
    ∧ ((Schema.load (FilePath.join "out" Schema.fileName) : StateM Storage _).run after).1
      = .ok ⟨"page", "Page", [widthSolution]⟩
    ∧ ∀ strict, ∃ again,
      (build (FilePath.join "out" Schema.fileName) "out" ⟨strict, true⟩ : StateM Storage _).run after
        = (.ok ⟨⟨"page", "Page", [widthSolution]⟩, FilePath.join "out" Schema.fileName⟩, again)
      ∧ ∀ path, again.content? path = after.content? path := by
  obtain ⟨after, built⟩ := run_build_page
  have loaded : ((loadSource "page.json" : StateM Storage _).run
      (sourceStorage widthPage.write.toUTF8)).1 = .ok widthPage := by rw [run_loadSource_page]
  have survive : ∀ value : Binary64, Numeral.real value ∈ widthPage.numbers →
      (Numeral.real value).Survives := by
    intro value member
    cases (show Numeral.real value ∈ [] from member)
  obtain ⟨read, again⟩ := rebuild_of_build sourceFormat_page built loaded survive
  refine ⟨after, built, read, fun strict => ?_⟩
  obtain ⟨last, builtAgain, _, same⟩ := again strict
  exact ⟨last, builtAgain, same⟩

end PageAttributes
