/-
**Validating documents.**

A validator has two options: whether fields outside the grammar are refused, and whether cycles
among conditions are looked for. It finds every violation in one pass over a document; a document
without violations is read as a schema.

* `Validator.violations` — all violations, those of the shape first;
* `Validator.validate` — the schema of a document, or its violations;
* `Validator.validateSchema` — the same for a schema that is typed already.
-/

import PageAttributes.Grammar.References
import PageAttributes.Grammar.Structure
import PageAttributes.Wire.Schema

namespace PageAttributes

/-- How documents are validated. -/
structure Validator where
  /-- Fields outside the grammar are violations; else they are dropped. -/
  strict : Bool := false
  /-- Cycles among conditions are violations. A condition on its own attribute always is. -/
  detectCycles : Bool := true
deriving DecidableEq, Repr

namespace Validator

/-- Everything that is wrong with a document. -/
def violations (validator : Validator) (document : Document) : List Violation :=
  Grammar.checkSchema validator.strict document
    ++ Grammar.crossViolations validator.detectCycles document

/-- The schema of a document, or everything that is wrong with it. -/
def validate (validator : Validator) (document : Document) : Except (List Violation) Schema :=
  match validator.violations document with
  | [] =>
    match Schema.ofDocument .tree document with
    | .ok schema => .ok schema
    | .error mismatch => .error [.because .root (.unreadable mismatch.message)]
  | first :: rest => .error (first :: rest)

/-- Validates a schema that is typed already. -/
def validateSchema (validator : Validator) (schema : Schema) : Except (List Violation) Schema :=
  validator.validate schema.toDocument.canonical

/-- The words for a flag. -/
def showFlag (flag : Bool) : String := if flag then "true" else "false"

/-- The options in words, after the name of what has them. -/
def showOptions (name : String) (validator : Validator) : String :=
  name ++ " \x7b strict: " ++ showFlag validator.strict ++ ", detect_cycles: "
    ++ showFlag validator.detectCycles ++ " \x7d"

end Validator

end PageAttributes
