/-
**Checks of single fields.**

Each check looks at one field of a record and gives the violations it finds. Beside it stands the
function that gives the value of the field if it has the right kind. A field that holds `null` is
there, and of the wrong kind.

* `requireText`, `requireList` — the field has to be there;
* `allowText`, `allowFlag`, `allowNumber`, `allowList` — the field may be left out;
* `forbid` — the field must not be there;
* `checkKeys` — no fields but the known ones, if that is asked for.
-/

import PageAttributes.Grammar.Violation

namespace PageAttributes.Grammar

/-- The fields of a record. -/
abbrev Fields := List (String × Document)

/-- What is at a place is of the wrong kind. -/
def wrongKind (path : Path) (expected : String) (found : Document) : List Violation :=
  [.because path (.wrongKind expected found.kindName)]

/-- A field that has to be there is missing. -/
def missing (path : Path) (key : String) : List Violation :=
  [.because (path.field key) .missingField]

/-! ### Values of fields -/

/-- The text under a key. -/
def textOf? (fields : Fields) (key : String) : Option String :=
  match fields.lookup key with
  | some (.text value) => some value
  | _ => none

/-- The number under a key. -/
def numberOf? (fields : Fields) (key : String) : Option Numeral :=
  match fields.lookup key with
  | some (.number value) => some value
  | _ => none

/-- The items of the list under a key. -/
def listOf (fields : Fields) (key : String) : List Document :=
  match fields.lookup key with
  | some (.list items) => items
  | _ => []

/-- There is an empty list under a key. -/
def isEmptyList (fields : Fields) (key : String) : Bool :=
  match fields.lookup key with
  | some (.list []) => true
  | _ => false

/-! ### Checks -/

/-- There has to be a text under a key. -/
def requireText (fields : Fields) (path : Path) (key : String) : List Violation :=
  match fields.lookup key with
  | some (.text _) => []
  | some found => wrongKind (path.field key) "string" found
  | none => missing path key

/-- There has to be a list under a key. -/
def requireList (fields : Fields) (path : Path) (key : String) : List Violation :=
  match fields.lookup key with
  | some (.list _) => []
  | some found => wrongKind (path.field key) "array" found
  | none => missing path key

/-- There may be a text under a key. -/
def allowText (fields : Fields) (path : Path) (key : String) : List Violation :=
  match fields.lookup key with
  | some (.text _) => []
  | some found => wrongKind (path.field key) "string" found
  | none => []

/-- There may be a flag under a key. -/
def allowFlag (fields : Fields) (path : Path) (key : String) : List Violation :=
  match fields.lookup key with
  | some (.flag _) => []
  | some found => wrongKind (path.field key) "boolean" found
  | none => []

/-- There may be a number under a key. -/
def allowNumber (fields : Fields) (path : Path) (key : String) : List Violation :=
  match fields.lookup key with
  | some (.number _) => []
  | some found => wrongKind (path.field key) "number" found
  | none => []

/-- There may be a list under a key. -/
def allowList (fields : Fields) (path : Path) (key : String) : List Violation :=
  match fields.lookup key with
  | some (.list _) => []
  | some found => wrongKind (path.field key) "array" found
  | none => []

/-- There must be nothing under a key for this kind of input. -/
def forbid (fields : Fields) (path : Path) (optionsType key : String) : List Violation :=
  if (fields.lookup key).isSome then
    [.because (path.field key) (.forbiddenField key optionsType)]
  else []

/-- If only known keys are allowed, there are no others. -/
def checkKeys (strict : Bool) (known : List String) (fields : Fields) (path : Path) :
    List Violation :=
  if strict then
    (fields.filter fun field => !known.contains field.1).map fun field =>
      .because (path.field field.1) .unrecognizedField
  else []

/-- The name under a key, which has to be in a closed set. -/
def checkName (fields : Fields) (path : Path) (key : String) (known : String → Bool)
    (reason : String → Reason) : List Violation :=
  match textOf? fields key with
  | some name => if known name then [] else [.because (path.field key) (reason name)]
  | none => []

/-- Something about every item of a list, each with its place. -/
def eachItem {α : Type} (check : Path → Document → List α) (path : Path) (position : Nat) :
    List Document → List α
  | [] => []
  | item :: rest => check (path.index position) item ++ eachItem check path (position + 1) rest

end PageAttributes.Grammar
