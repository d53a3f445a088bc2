/-
**The command line.**

* `Options.ofArguments?` — what the arguments ask for.
-/

namespace PageAttributes.CommandLine

/-- What is to be done with a source. -/
inductive Task where
  | build
  | publish
deriving DecidableEq, Repr

/-- What the arguments ask for. -/
structure Options where
  task : Task
  source : String
  strict : Bool
  /-- The directory that the schema is written to, if one is named. -/
  directory : Option String
deriving DecidableEq, Repr

/-- What has been read of the arguments. -/
structure Given where
  words : List String := []
  strict : Bool := false
  directory : Option String := none

/-- The option that names a directory. -/
def directoryOption : String := "--out-dir"

/-- A word that asks for more detail in the log. -/
def asksForDetail (word : String) : Bool :=
  word == "--verbose" || (2 ≤ word.length && word.startsWith "-" && (word.toList.drop 1).all (· == 'v'))

/-- The word could be taken for an option. -/
def looksLikeOption (word : String) : Bool := word.startsWith "-" && word != "-"

/-- Reads arguments; after two dashes all of them are words. -/
def readArguments (given : Given) : List String → Option Given
  | [] => some given
  | "--" :: rest => some { given with words := given.words ++ rest }
  | "--out-dir" :: [] => none
  | "--out-dir" :: value :: rest =>
    if looksLikeOption value then none
    else readArguments { given with directory := some value } rest
  | word :: rest =>
    if word = "--strict" then readArguments { given with strict := true } rest
    else if asksForDetail word then readArguments given rest
    else if word.startsWith (directoryOption ++ "=") then
      let value := String.ofList (word.toList.drop (directoryOption.length + 1))
      readArguments { given with directory := some value } rest
    else if looksLikeOption word then none
    else readArguments { given with words := given.words ++ [word] } rest

/-- What the arguments ask for, if they can be understood. -/
def Options.ofArguments? (arguments : List String) : Option Options := do
  let given ← readArguments {} arguments
  match given.words with
  | ["build", source] => some ⟨.build, source, given.strict, given.directory⟩
  | ["publish", source] => some ⟨.publish, source, given.strict, given.directory⟩
  | _ => none

/-- How the program is called. -/
def usage : String :=
  "Usage: page-attributes [--strict] [--out-dir <OUT_DIR>] [-v]... <build|publish> <SRC>"

end PageAttributes.CommandLine
