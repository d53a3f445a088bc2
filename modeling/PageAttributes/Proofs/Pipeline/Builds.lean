/-
**What builds leave in a file system.**

Any number of builds run one after another, from any sources into any directories, in surroundings
in which any access may fail.

* `Outcome` — what one build has to do with the file system before and after it;
* `outcome_run` — a build that fails changes no file, and one that succeeds nothing but the
  artifact of its directory;
* `content?_run_runAll` — by induction on the builds: a file that is the artifact of a directory has
  what the last successful build into the directory wrote, and every other file what it had;
* `run_untroubled` — without trouble the surroundings are the file system alone;
* `runAll_spec` — what any builds leave in any surroundings.
-/

import PageAttributes.Proofs.Pipeline.Sources

namespace PageAttributes

/-- What a build is asked for. -/
structure BuildRequest where
  source : String
  directory : String
  validator : Validator

namespace BuildRequest

/-- Where the artifact of a build is written. -/
def path (request : BuildRequest) : String := FilePath.join request.directory Schema.fileName

/-- Runs a build. -/
def run {m : Type → Type} [Monad m] [FileAccess m] (request : BuildRequest) :
    m (Except PipelineError BuildOutput) :=
  build request.source request.directory request.validator

/-- Runs builds one after another, whether they succeed or not. -/
def runAll {m : Type → Type} [Monad m] [FileAccess m] (requests : List BuildRequest) :
    m (List (Except PipelineError BuildOutput)) :=
  requests.mapM run

variable {request : BuildRequest} {requests : List BuildRequest} {before : Troubled}
  {answer : Except PipelineError BuildOutput}

/-! ### One build -/

/-- What a build answers has to do with the file systems before and after it. One that fails leaves
everything as it is. One that succeeds gives the schema of the document that its source held, and
puts the written form of that schema where the artifact belongs, and nothing else anywhere. -/
def Outcome (request : BuildRequest) (before : Troubled) (after : Storage) :
    Except PipelineError BuildOutput → Prop
  | .error _ => after = before.storage
  | .ok output =>
    (∃ document, ((loadSource request.source : StateM Troubled _).run before).1 = .ok document
        ∧ request.validator.validate document = .ok output.schema)
      ∧ output.path = request.path
      ∧ ∃ names, before.storage.locate request.path = .ok names
        ∧ Storage.Replaced names output.schema.toJson.toUTF8 before.storage after

/-- Loading a source changes no file. -/
theorem storage_run_loadSource (source : String) (before : Troubled) :
    ((loadSource source : StateM Troubled _).run before).2.storage = before.storage := by
  cases known : sourceFormat source with
  | error error => rw [run_loadSource_unsupported known]
  | ok format =>
    rw [run_loadSource known (Troubled.run_readFile before source)]
    rfl

/-- What is accepted was loaded. -/
theorem exists_document_of_schemaOf {validator : Validator} {loaded : Except LoadError Document}
    {schema : Schema} (accepted : schemaOf validator loaded = .ok schema) :
    ∃ document, loaded = .ok document ∧ validator.validate document = .ok schema := by
  unfold schemaOf at accepted
  split at accepted
  · cases accepted
  · rename_i document
    refine ⟨document, rfl, ?_⟩
    cases valid : validator.validate document with
    | error found =>
      rw [valid] at accepted
      cases accepted
    | ok schema =>
      rw [valid] at accepted
      cases accepted
      rfl

/-- **A build that fails changes no file, and one that succeeds nothing but its artifact.** -/
theorem outcome_run (request : BuildRequest) (before : Troubled) :
    Outcome request before ((request.run : StateM Troubled _).run before).2.storage
      ((request.run : StateM Troubled _).run before).1 := by
  have unchanged := storage_run_loadSource request.source before
  rcases loads : (loadSource request.source : StateM Troubled _).run before with ⟨loaded, after⟩
  rw [loads] at unchanged
  replace unchanged : after.storage = before.storage := unchanged
  unfold run
  cases accepted : schemaOf request.validator loaded with
  | error error =>
    rw [run_build_error loads request.directory accepted]
    exact unchanged
  | ok schema =>
    have writes := Troubled.run_writeFile after request.path schema.toJson.toUTF8
    cases written : after.write request.path schema.toJson.toUTF8 with
    | error fault =>
      rw [written] at writes
      rw [run_build loads accepted (run_save_error writes)]
      exact unchanged
    | ok storage =>
      rw [written] at writes
      rw [run_build loads accepted (run_save writes)]
      have replaced := Troubled.replaced_of_write written
      rw [unchanged] at replaced
      refine ⟨?_, rfl, replaced⟩
      rw [loads]
      exact exists_document_of_schemaOf accepted

/-! ### Many builds -/

/-- What a build has written to where a path leads, if it has. -/
def artifactAt? (storage : Storage) (path : String) (request : BuildRequest) :
    Except PipelineError BuildOutput → Option ByteArray
  | .ok output =>
    if storage.meet request.path path then some output.schema.toJson.toUTF8 else none
  | .error _ => none

/-- What builds have written to where a path leads, in their order. -/
def artifactsAt (storage : Storage) (path : String)
    (history : List (BuildRequest × Except PipelineError BuildOutput)) : List ByteArray :=
  history.filterMap fun (request, answer) => artifactAt? storage path request answer

/-- After one build a file has what the build wrote to it, if it did, and else what it had. -/
theorem Outcome.content? {after : Storage} (outcome : Outcome request before after answer)
    (path : String) :
    after.content? path
      = (artifactAt? before.storage path request answer).or (before.storage.content? path) := by
  cases answer with
  | error error =>
    rw [show after = before.storage from outcome]
    rfl
  | ok output =>
    obtain ⟨_, _, names, located, replaced⟩ := outcome
    rw [replaced.content?, artifactAt?]
    have meets := @Storage.meet_eq_true_iff _ _ _ path located
    by_cases same : (before.storage.locate path).toOption = some names
    · rw [if_pos same, if_pos (meets.mpr same), Option.some_or]
    · rw [if_neg same, if_neg fun met => same (meets.mp met), Option.none_or]

/-- A build does not change where paths lead. -/
theorem Outcome.meet {after : Storage} (outcome : Outcome request before after answer)
    (first second : String) : after.meet first second = before.storage.meet first second := by
  cases answer with
  | error error => rw [show after = before.storage from outcome]
  | ok output =>
    obtain ⟨_, _, names, _, replaced⟩ := outcome
    exact replaced.meet first second

/-- So it does not change which artifacts belong to a path either. -/
theorem Outcome.artifactsAt {after : Storage} (outcome : Outcome request before after answer)
    (path : String) : artifactsAt after path = artifactsAt before.storage path := by
  funext history
  unfold BuildRequest.artifactsAt
  congr
  funext step
  obtain ⟨later, given⟩ := step
  cases given with
  | error error => rfl
  | ok output => simp only [artifactAt?, outcome.meet]

/-- The first build, and then the others. -/
theorem run_runAll_cons (request : BuildRequest) (requests : List BuildRequest)
    (before : Troubled) :
    (runAll (request :: requests) : StateM Troubled _).run before
      = (let first := (request.run : StateM Troubled _).run before
        let others := (runAll requests : StateM Troubled _).run first.2
        (first.1 :: others.1, others.2)) := by
  unfold runAll
  rw [List.mapM_cons]
  rfl

/-- Every build gives an answer. -/
theorem length_run_runAll (requests : List BuildRequest) (before : Troubled) :
    ((runAll requests : StateM Troubled _).run before).1.length = requests.length := by
  induction requests generalizing before with
  | nil => rfl
  | cons request rest ih =>
    rw [run_runAll_cons]
    exact congrArg (· + 1) (ih _)

/-- The last artifact is the first one only if there are no others. -/
theorem getLast?_artifactsAt_cons (storage : Storage) (path : String) (request : BuildRequest)
    (answer : Except PipelineError BuildOutput)
    (history : List (BuildRequest × Except PipelineError BuildOutput)) :
    (artifactsAt storage path ((request, answer) :: history)).getLast?
      = (artifactsAt storage path history).getLast?.or (artifactAt? storage path request answer) := by
  unfold artifactsAt
  rw [List.filterMap_cons]
  dsimp only
  cases artifactAt? storage path request answer with
  | none => rw [Option.or_none]
  | some artifact => rw [List.getLast?_cons, Option.or_some]

/-- **After any builds a file has what the last of them wrote to it, if one did, and else what it
had.** -/
theorem content?_run_runAll (requests : List BuildRequest) (path : String) :
    ∀ before : Troubled,
      ((runAll requests : StateM Troubled _).run before).2.storage.content? path
        = ((artifactsAt before.storage path
            (requests.zip ((runAll requests : StateM Troubled _).run before).1)).getLast?).or
          (before.storage.content? path) := by
  -- What the first build leaves is what the others start from.
  induction requests with
  | nil => exact fun before => rfl
  | cons request rest ih =>
    intro before
    have outcome := outcome_run request before
    rw [run_runAll_cons]
    dsimp only
    rw [ih, outcome.content?, outcome.artifactsAt, List.zip_cons_cons,
      getLast?_artifactsAt_cons, Option.or_assoc]

/-! ### No trouble -/

/-- Loading a source without trouble. -/
theorem exists_run_loadSource_untroubled (source : String) (storage : Storage) :
    ∃ loaded, (loadSource source : StateM Troubled _).run ⟨storage, []⟩ = (loaded, ⟨storage, []⟩)
      ∧ (loadSource source : StateM Storage _).run storage = (loaded, storage) := by
  cases known : sourceFormat source with
  | error error => exact ⟨_, run_loadSource_unsupported known, run_loadSource_unsupported known⟩
  | ok format => exact ⟨_, run_loadSource known rfl, run_loadSource known rfl⟩

/-- Without trouble the surroundings are the file system alone. -/
theorem run_untroubled (request : BuildRequest) (storage : Storage) :
    (request.run : StateM Troubled _).run ⟨storage, []⟩
      = (((request.run : StateM Storage _).run storage).1,
        ⟨((request.run : StateM Storage _).run storage).2, []⟩) := by
  unfold run
  obtain ⟨loaded, troubled, alone⟩ := exists_run_loadSource_untroubled request.source storage
  cases accepted : schemaOf request.validator loaded with
  | error error =>
    rw [run_build_error troubled _ accepted, run_build_error alone _ accepted]
  | ok schema =>
    have writes := Troubled.run_writeFile ⟨storage, []⟩ request.path schema.toJson.toUTF8
    have writesAlone := storage.run_writeFile request.path schema.toJson.toUTF8
    rw [Troubled.write, Troubled.trouble?] at writes
    dsimp only [List.head?_nil, Option.join] at writes
    cases written : storage.write request.path schema.toJson.toUTF8 with
    | error fault =>
      rw [written] at writes writesAlone
      rw [run_build troubled accepted (run_save_error writes),
        run_build alone accepted (run_save_error writesAlone)]
      rfl
    | ok after =>
      rw [written] at writes writesAlone
      rw [run_build troubled accepted (run_save writes),
        run_build alone accepted (run_save writesAlone)]
      rfl

/-- The outcome of a build in a file system alone. -/
theorem outcome_run_untroubled (request : BuildRequest) (storage : Storage) :
    Outcome request ⟨storage, []⟩ ((request.run : StateM Storage _).run storage).2
      ((request.run : StateM Storage _).run storage).1 := by
  have outcome := outcome_run request ⟨storage, []⟩
  rwa [run_untroubled] at outcome

/-! ### Any builds -/

/-- **What builds leave in a file system.** In whatever surroundings a build runs, it changes no file
if it fails, and nothing but the artifact of its directory if it succeeds: that becomes the written
form of the schema of its source. So after any builds, one after another, every file has what the
last of those that wrote to it wrote, and if none did what it had in the beginning. -/
theorem runAll_spec :
    (∀ request before, Outcome request before
        ((request.run : StateM Troubled _).run before).2.storage
        ((request.run : StateM Troubled _).run before).1)
      ∧ ∀ requests before,
        let run := (runAll requests : StateM Troubled _).run before
        run.1.length = requests.length
          ∧ ∀ path, run.2.storage.content? path
            = ((artifactsAt before.storage path (requests.zip run.1)).getLast?).or
                (before.storage.content? path) :=
  ⟨outcome_run, fun requests before =>
    ⟨length_run_runAll requests before, fun path => content?_run_runAll requests path before⟩⟩

/-- The build of a page. -/
def pageRequest : BuildRequest := ⟨"page.json", "out", {}⟩

/-- A build of a source of another format. -/
def foreignRequest : BuildRequest := ⟨"page.toml", "out", {}⟩

/-- A page is built, and the source of another format that follows is not; the artifact of the page
stays. -/
theorem runAll_spec_page : ∃ output error last,
    (runAll [pageRequest, foreignRequest] : StateM Troubled _).run
        ⟨sourceStorage Validator.widthPage.write.toUTF8, []⟩ = ([.ok output, .error error], last)
      ∧ output.schema = ⟨"page", "Page", [Validator.widthSolution]⟩
      ∧ last.storage.content? pageRequest.path = some output.schema.toJson.toUTF8 := by
  obtain ⟨after, built⟩ := run_build_page
  have first := pageRequest.run_untroubled (sourceStorage Validator.widthPage.write.toUTF8)
  replace built : (pageRequest.run : StateM Storage _).run
      (sourceStorage Validator.widthPage.write.toUTF8) = _ := built
  rw [built] at first
  have unknown : sourceFormat foreignRequest.source = .error (.unsupported "page.toml") := by
    unfold sourceFormat SourceFormat.ofPath? FilePath.extension? FilePath.components
    rw [splitOn_slash]
    rfl
  have loads (before : Troubled) : (loadSource foreignRequest.source : StateM Troubled _).run before
      = (.error (.unsupported "page.toml"), before) := run_loadSource_unsupported unknown
  have second (before : Troubled) : (foreignRequest.run : StateM Troubled _).run before
      = (.error (.source (.unsupported "page.toml")), before) :=
    run_build_error (loads before) "out" rfl
  have both : (runAll [pageRequest, foreignRequest] : StateM Troubled _).run
      ⟨sourceStorage Validator.widthPage.write.toUTF8, []⟩
        = ([.ok ⟨⟨"page", "Page", [Validator.widthSolution]⟩, pageRequest.path⟩,
            .error (.source (.unsupported "page.toml"))], ⟨after, []⟩) := by
    rw [run_runAll_cons, first]
    dsimp only
    rw [run_runAll_cons, second]
    rfl
  refine ⟨_, _, _, both, rfl, ?_⟩
  have content := (runAll_spec.2 [pageRequest, foreignRequest]
    ⟨sourceStorage Validator.widthPage.write.toUTF8, []⟩).2 pageRequest.path
  rw [both] at content
  have meets : (sourceStorage Validator.widthPage.write.toUTF8).meet pageRequest.path
      pageRequest.path = true := by
    have located := locate_sourceStorage Validator.widthPage.write.toUTF8
    exact (Storage.meet_eq_true_iff located).mpr (by rw [path, pageRequest, located]; rfl)
  refine content.trans ?_
  dsimp only
  rw [List.zip_cons_cons, getLast?_artifactsAt_cons, List.zip_cons_cons, getLast?_artifactsAt_cons,
    artifactAt?, artifactAt?, if_pos meets]
  rfl

end BuildRequest

end PageAttributes
