/-
**The program.**

Validates a schema source, builds the schema and publishes it.
-/

import PageAttributes.CommandLine.Session

namespace PageAttributes.CommandLine

/-- Why a file could not be read or written, by the code that the system gives. -/
def faultOf : IO.Error → FileFault
  | .noFileOrDirectory _ _ _ => .notFound
  | .inappropriateType _ code details =>
    if code = 20 then .notDirectory
    else if code = 21 then .isDirectory
    else .other details code
  | .permissionDenied _ code details => .other details code
  | .otherError code details => .other details code
  | error => .other (toString error) 0

/-- Runs an action; what went wrong is a fault. -/
def attempt {α : Type} (action : IO α) : IO (Except FileFault α) := do
  match ← action.toBaseIO with
  | .ok value => pure (.ok value)
  | .error error => pure (.error (faultOf error))

instance : FileAccess IO where
  readFile path := attempt (IO.FS.readBinFile path)
  writeFile path content := attempt (IO.FS.writeBinFile path content)

instance : Console IO where
  say line := IO.println line
  complain line := IO.eprintln line
  wait milliseconds := IO.sleep milliseconds

end PageAttributes.CommandLine

open PageAttributes.CommandLine

def main (arguments : List String) : IO UInt32 := do
  match Options.ofArguments? arguments with
  | none =>
    IO.eprintln usage
    pure 2
  | some options =>
    let project ← IO.currentDir
    run options project.toString
