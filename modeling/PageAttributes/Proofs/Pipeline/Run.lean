/-
**A build, stage by stage.**

* `run_loadSource` — loading reads one file, if the format of the source is known;
* `run_save`, `run_save_error` — saving writes one file;
* `run_build`, `run_build_error` — a build that loads no schema ends after
  loading, and every other one with saving.
-/

import PageAttributes.Pipeline.Build

namespace PageAttributes

variable {σ : Type} [FileAccess (StateM σ)] {before after last : σ} {source directory : String}

/-! ### Loading -/

/-- The document of what was read of a source. -/
def documentOf (source : String) (format : SourceFormat) (content : Except FileFault ByteArray) :
    Except LoadError Document :=
  match content.bind decodeText with
  | .error fault => .error (.unreadable source fault)
  | .ok text => parseSource text format source

/-- A source of an unknown format is not read. -/
theorem run_loadSource_unsupported {error : LoadError}
    (unknown : sourceFormat source = .error error) :
    (loadSource source : StateM σ _).run before = (.error error, before) := by
  unfold loadSource
  rw [unknown]
  rfl

/-- Every other source is read once. -/
theorem run_loadSource {format : SourceFormat} {content : Except FileFault ByteArray}
    (known : sourceFormat source = .ok format)
    (reads : (FileAccess.readFile source : StateM σ _).run before = (content, after)) :
    (loadSource source : StateM σ _).run before = (documentOf source format content, after) := by
  unfold loadSource documentOf FileAccess.readText
  rw [known]
  dsimp only
  rw [StateT.run_bind, StateT.run_bind, reads]
  show StateT.run (match content.bind decodeText with
    | .error fault => pure (.error (.unreadable source fault))
    | .ok text => pure (parseSource text format source)) after = _
  cases content.bind decodeText <;> rfl

/-! ### Saving -/

variable {schema : Schema}

/-- A schema is saved where the directory has its artifact. -/
theorem run_save
    (writes : (FileAccess.writeFile (FilePath.join directory Schema.fileName) schema.toJson.toUTF8
      : StateM σ _).run before = (.ok (), after)) :
    (schema.save directory : StateM σ _).run before
      = (.ok (FilePath.join directory Schema.fileName), after) := by
  unfold Schema.save
  rw [StateT.run_bind, writes]
  rfl

theorem run_save_error {fault : FileFault}
    (fails : (FileAccess.writeFile (FilePath.join directory Schema.fileName) schema.toJson.toUTF8
      : StateM σ _).run before = (.error fault, after)) :
    (schema.save directory : StateM σ _).run before
      = (.error (.artifact (FilePath.join directory Schema.fileName) fault), after) := by
  unfold Schema.save
  rw [StateT.run_bind, fails]
  rfl

/-! ### Whole builds -/

variable {validator : Validator} {loaded : Except LoadError Document} {error : PipelineError}
  (loads : (loadSource source : StateM σ _).run before = (loaded, after))
include loads

/-- What a build does after loading. -/
theorem run_build_loaded (directory : String) :
    (build source directory validator : StateM σ _).run before
      = StateT.run (match schemaOf validator loaded with
        | .error error => pure (.error error)
        | .ok schema => do
          match ← schema.save directory with
          | .error error => pure (.error error)
          | .ok path => pure (.ok ⟨schema, path⟩)) after := by
  unfold build
  rw [StateT.run_bind, loads]
  rfl

/-- A build that loads no schema ends there. -/
theorem run_build_error (directory : String) (refused : schemaOf validator loaded = .error error) :
    (build source directory validator : StateM σ _).run before = (.error error, after) := by
  rw [run_build_loaded loads, refused]
  rfl

/-- A build that loads a schema saves it. -/
theorem run_build (accepted : schemaOf validator loaded = .ok schema)
    {answer : Except PipelineError String}
    (saves : (schema.save directory : StateM σ _).run after = (answer, last)) :
    (build source directory validator : StateM σ _).run before
      = (answer.map fun path => ⟨schema, path⟩, last) := by
  rw [run_build_loaded loads, accepted]
  dsimp only
  rw [StateT.run_bind, saves]
  cases answer <;> rfl

end PageAttributes
