/-
**Building from a JSON source.**

* `parseSource_write` — the document of a written form;
* `run_loadSource_text` — loading a source whose text is known;
* `run_build_page` — the build of one page, whose artifact goes into an empty directory.
-/

import PageAttributes.Proofs.Artifact
import PageAttributes.Proofs.Pipeline.Run
import PageAttributes.Proofs.Source.Format
import PageAttributes.Proofs.Storage.Trouble

namespace PageAttributes

open Json

variable {storage : Storage} {source : String} {document : Document}

/-- **What is written of a document is parsed as its canonical form**, if that is not nested too
deep. -/
theorem parseSource_write {document : Document} (fits : document.nesting < depthLimit)
    (survive : ∀ value ∈ document.numbers, value.Survives)
    (nonempty : document.canonical.isNull = false) (origin : String) :
    parseSource document.write .json origin = .ok document.canonical := by
  have whole := (read_spell (Attention.covers_full _) survive (by decide)).1 fits
  have all : readAll depthLimit (Symbol.ofText document.write) = .ok document.canonical := by
    rw [Symbol.ofText, Document.write, String.toList_ofList]
    exact readAll_eq_ok_iff.mpr ⟨document, whole, rfl⟩
  unfold parseSource readSource
  simp only [all, nonempty]
  rfl

/-- Loading the text of a source. -/
theorem run_loadSource_text {format : SourceFormat} {text : String}
    (known : sourceFormat source = .ok format) (holds : storage.read source = .ok text.toUTF8)
    (parsed : parseSource text format source = .ok document) :
    (loadSource source : StateM Storage _).run storage = (.ok document, storage) := by
  have reads := storage.run_readFile source
  rw [holds] at reads
  have decoded : decodeText text.toUTF8 = .ok text := by
    unfold decodeText
    rw [fromUTF8?_toUTF8]
  rw [run_loadSource known reads]
  unfold documentOf
  simp only [Except.bind, decoded, parsed]

/-! ### A page -/

/-- A file system with a source of some content, and an empty directory. -/
def sourceStorage (content : ByteArray) : Storage where
  entries := [(["out"], .directory), (["page.json"], .file content)]

theorem read_sourceStorage (content : ByteArray) :
    (sourceStorage content).read "page.json" = .ok content := by
  have located : (sourceStorage content).locate "page.json" = .ok ["page.json"] := by
    rw [Storage.locate_relative (by decide) (by simp)]
    rfl
  unfold Storage.read
  rw [located]
  rfl

theorem locate_sourceStorage (content : ByteArray) :
    (sourceStorage content).locate (FilePath.join "out" Schema.fileName)
      = .ok ["out", "schema.json"] := by
  have joined : FilePath.join "out" Schema.fileName = "out/schema.json" := by
    have noSlash : ¬ "out".endsWith "/" = true := by
      rw [FilePath.endsWith_slash_iff]
      decide
    unfold FilePath.join
    rw [if_neg (by simp [noSlash])]
    rfl
  rw [joined, Storage.locate_relative (by decide) (by simp)]
  rfl

theorem write_sourceStorage (content artifact : ByteArray) :
    (sourceStorage content).write (FilePath.join "out" Schema.fileName) artifact
      = .ok ((sourceStorage content).put ["out", "schema.json"] (.file artifact)) := by
  unfold Storage.write
  rw [locate_sourceStorage]
  rfl

theorem sourceFormat_page : sourceFormat "page.json" = .ok .json := by
  unfold sourceFormat SourceFormat.ofPath? FilePath.extension? FilePath.components
  rw [splitOn_slash]
  rfl

open Validator in
theorem run_loadSource_page :
    (loadSource "page.json" : StateM Storage _).run (sourceStorage widthPage.write.toUTF8)
      = (.ok widthPage, sourceStorage widthPage.write.toUTF8) := by
  have ordered : widthPage.canonical = widthPage := rfl
  have parsed := @parseSource_write widthPage (by decide) (List.forall_mem_nil _) rfl "page.json"
  rw [ordered] at parsed
  exact run_loadSource_text sourceFormat_page (read_sourceStorage _) parsed

open Validator in
theorem run_build_page : ∃ after,
    (build "page.json" "out" {} : StateM Storage _).run (sourceStorage widthPage.write.toUTF8)
      = (.ok ⟨⟨"page", "Page", [widthSolution]⟩, FilePath.join "out" Schema.fileName⟩, after) := by
  have accepted : schemaOf {} (.ok widthPage) = .ok ⟨"page", "Page", [widthSolution]⟩ := by
    unfold schemaOf
    dsimp only
    rw [validate_widthPage]
    rfl
  have writes := Storage.run_writeFile (sourceStorage widthPage.write.toUTF8)
    (FilePath.join "out" Schema.fileName)
    (⟨"page", "Page", [widthSolution]⟩ : Schema).toJson.toUTF8
  rw [write_sourceStorage] at writes
  exact ⟨_, run_build run_loadSource_page accepted (run_save writes)⟩

end PageAttributes
