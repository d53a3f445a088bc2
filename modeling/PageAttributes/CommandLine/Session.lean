/-
**Sessions of the command line.**

A session reads and writes files, and says line by line what happens. It ends with a code that is zero
if all went well.

* `Console` — surroundings that hear lines and can wait;
* `run` — a whole session;
* `Transcript` — what was said in a session.
-/

import PageAttributes.CommandLine.Options
import PageAttributes.Pipeline.Build
import PageAttributes.Pipeline.Publish

namespace PageAttributes.CommandLine

/-- Surroundings that hear lines and can wait. -/
class Console (m : Type → Type) where
  /-- A line about what happens. -/
  say (line : String) : m Unit
  /-- A line about what is wrong. -/
  complain (line : String) : m Unit
  /-- Waits for some milliseconds. -/
  wait (milliseconds : UInt32) : m Unit

/-- What was said in a session, the last line first. -/
structure Transcript where
  said : List String := []
  complained : List String := []

/-- The text of lines, the last of which comes first. -/
def textOf (lines : List String) : String := String.join (lines.reverse.map (· ++ "\n"))

/-- Surroundings that write everything down and never wait. -/
instance Transcript.console : Console (StateM Transcript) where
  say line := modify fun transcript => { transcript with said := line :: transcript.said }
  complain line :=
    modify fun transcript => { transcript with complained := line :: transcript.complained }
  wait _ := pure ()

/-- A state does not change who hears the lines. -/
instance Console.ofState {σ : Type} {m : Type → Type} [Monad m] [Console m] :
    Console (StateT σ m) where
  say line := liftM (Console.say line : m Unit)
  complain line := liftM (Console.complain line : m Unit)
  wait milliseconds := liftM (Console.wait milliseconds : m Unit)

variable {m : Type → Type} [Monad m] [FileAccess m] [Console m]

/-- How long the platform takes to accept a schema. -/
def platformDelay : UInt32 := 1000

/-- Builds a schema, and says so. -/
def runBuild (options : Options) (directory : String) :
    m (Except PipelineError BuildOutput) := do
  Console.say "Validating data... ⌛"
  match ← build options.source directory { strict := options.strict } with
  | .error error => pure (.error error)
  | .ok output =>
    Console.say "Data is valid ✅"
    Console.say ("Schema written to " ++ output.path)
    pure (.ok output)

/-- Builds a schema and publishes it under the version of the project, and says so. -/
def runPublish (options : Options) (directory project : String) :
    m (Except PipelineError Unit) := do
  match ← ProjectMetadata.read project with
  | .error error => pure (.error error)
  | .ok metadata =>
    match ← runBuild options directory with
    | .error error => pure (.error error)
    | .ok output =>
      Console.say "Publishing to Webflow... ⌛"
      match publish output.schema metadata.version with
      | .error error => pure (.error error)
      | .ok receipt =>
        Console.wait platformDelay
        Console.say ("Published schema v" ++ receipt.version ++ " to Webflow ✅")
        pure (.ok ())

/-- The lines about an error. -/
def complaints : PipelineError → List String
  | .invalid violations =>
    ("\nError: schema validation failed (" ++ toString violations.length ++ " problem(s))")
      :: violations.map fun violation => "  " ++ violation.message
  | error => ["\nError: " ++ error.message]

/-- A whole session in the directory of a project; the code it ends with. -/
def run (options : Options) (project : String) : m UInt32 := do
  let directory := options.directory.getD project
  let result ←
    match options.task with
    | .build => do pure ((← runBuild options directory).map fun _ => ())
    | .publish => runPublish options directory project
  match result with
  | .ok () => pure 0
  | .error error =>
    for line in complaints error do Console.complain line
    pure 1

end PageAttributes.CommandLine
