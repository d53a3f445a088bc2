/-
**Violations of the schema grammar.**

A violation is a reason at a place of a document. Every reason has its kind and its wording.

* `Reason.kind`, `Reason.message` — the kind and the wording of a reason;
* `Violation.message` — the line of a violation;
* `Violations.message` — the report of all of them.
-/

import PageAttributes.Document.Path
import PageAttributes.Schema.Basic
import PageAttributes.Url.Problem

namespace PageAttributes

/-- The kinds of violations. -/
inductive ViolationKind where
  /-- A wrong type or shape, a field that is missing or must not be there. -/
  | structural
  /-- A condition that reads something it cannot or must not read. -/
  | referential
  /-- An id or a value that appears twice. -/
  | uniqueness
  /-- A name outside of a closed set. -/
  | enumeration
deriving DecidableEq, Repr

namespace ViolationKind

/-- The name of a kind. -/
def name : ViolationKind → String
  | .structural => "structural"
  | .referential => "referential"
  | .uniqueness => "uniqueness"
  | .enumeration => "enumeration"

/-- Every kind. -/
def every : List ViolationKind := [.structural, .referential, .uniqueness, .enumeration]

/-- The kind of a name. -/
def ofName? (name : String) : Option ViolationKind := every.find? fun kind => kind.name == name

end ViolationKind

/-- The scopes in which ids are unique. -/
inductive IdScope where
  | solution
  | script
  | attribute
deriving DecidableEq, Repr

/-- The name of a scope in a report. -/
def IdScope.name : IdScope → String
  | .solution => "solution id"
  | .script => "script id"
  | .attribute => "attribute id"

/-- Why a place of a document violates the grammar. -/
inductive Reason where
  | wrongKind (expected found : String)
  | missingField
  | unrecognizedField
  | forbiddenField (key optionsType : String)
  | badUrl (source : String) (problem : Url.Problem)
  | unknownLocation (name : String)
  | unknownType (name expected : String)
  | nestedGroup
  | emptyGroup
  | unknownOptionsType (name : String)
  | notWhole (value : Numeral)
  | emptyDropdown
  | repeatedChoice (value : String) (first : Path)
  | nestedTooDeep (limit : Nat)
  | unknownOperator (name : String)
  | emptyConditionGroup
  | unknownNodeType (name : String)
  | repeatedId (scope : IdScope) (id : String) (first : Path)
  | unresolved (id : String) (solution : Option String)
  | selfReference (id : String)
  | memberReference (id : String) (group : Path)
  | cycle (ids : List String)
  /-- The document does not spell a schema, although nothing else was found. -/
  | unreadable (mismatch : String)
  /-- Something said in other words. -/
  | remark (text : String)
deriving DecidableEq

namespace Reason

/-- The kind of a reason. -/
def kind : Reason → ViolationKind
  | .unknownLocation _ => .enumeration
  | .unknownOptionsType _ => .enumeration
  | .unknownOperator _ => .enumeration
  | .unknownNodeType _ => .enumeration
  | .repeatedChoice .. => .uniqueness
  | .repeatedId .. => .uniqueness
  | .unresolved .. => .referential
  | .selfReference _ => .referential
  | .memberReference .. => .referential
  | .cycle _ => .referential
  | _ => .structural

/-- Some names, one after another. -/
def listed (names : List String) : String := ", ".intercalate names

/-- The wording of a reason. -/
def message : Reason → String
  | .wrongKind expected found => "expected " ++ expected ++ ", received " ++ found
  | .missingField => "required field is missing"
  | .unrecognizedField => "unrecognized field"
  | .forbiddenField key optionsType =>
    key ++ " is not allowed for optionsType '" ++ optionsType ++ "'"
  | .badUrl source problem => "invalid URL '" ++ source ++ "': " ++ problem.message
  | .unknownLocation name =>
    "unrecognized location '" ++ name ++ "', expected one of "
      ++ listed (ScriptLocation.every.map ScriptLocation.name)
  | .unknownType name expected => "unrecognized type '" ++ name ++ "', expected " ++ expected
  | .nestedGroup => "groups cannot be nested inside groups"
  | .emptyGroup => "a group must contain at least one attribute"
  | .unknownOptionsType name =>
    "unrecognized optionsType '" ++ name ++ "', expected one of "
      ++ listed (InputKind.every.map InputKind.name)
  | .notWhole value => "expected a whole number, received " ++ value.write
  | .emptyDropdown => "a dropdown must offer at least one option"
  | .repeatedChoice value first =>
    "duplicate option value '" ++ value ++ "' (first declared at " ++ first.display ++ ")"
  | .nestedTooDeep limit =>
    "conditions are nested deeper than " ++ toString limit ++ " levels"
  | .unknownOperator name =>
    "unrecognized operator '" ++ name ++ "', expected one of "
      ++ listed (Operator.every.map Operator.name)
  | .emptyConditionGroup => "a condition group must contain at least one condition"
  | .unknownNodeType name => "unknown nodeType '" ++ name ++ "'"
  | .repeatedId scope id first =>
    "duplicate " ++ scope.name ++ " '" ++ id ++ "' (first declared at " ++ first.display ++ ")"
  | .unresolved id solution =>
    "attributeId '" ++ id ++ "' does not match any attribute of solution '"
      ++ solution.getD "<unnamed>" ++ "'"
  | .selfReference id => "condition refers to its own attribute '" ++ id ++ "'"
  | .memberReference id group =>
    "group condition refers to attribute '" ++ id ++ "' declared inside the group at "
      ++ group.display
  | .cycle ids => "conditions form a dependency cycle: " ++ " -> ".intercalate ids
  | .unreadable mismatch => mismatch
  | .remark text => text

end Reason

/-- A reason at a place of a document. -/
structure Violation where
  kind : ViolationKind
  path : Path
  reason : Reason
deriving DecidableEq

namespace Violation

/-- The violation of a reason at a place. -/
def because (path : Path) (reason : Reason) : Violation := ⟨reason.kind, path, reason⟩

/-- The line of a violation. -/
def message (violation : Violation) : String :=
  "[" ++ violation.kind.name ++ "] " ++ violation.path.display ++ ": " ++ violation.reason.message

end Violation

namespace Violations

/-- The violations of a kind. -/
def ofKind (violations : List Violation) (kind : ViolationKind) : List Violation :=
  violations.filter fun violation => violation.kind == kind

/-- Some violation is of a kind. -/
def hasKind (violations : List Violation) (kind : ViolationKind) : Bool :=
  violations.any fun violation => violation.kind == kind

/-- The report of violations. -/
def message (violations : List Violation) : String :=
  "Schema is invalid (" ++ toString violations.length ++ " violation(s)):\n"
    ++ "\n".intercalate (violations.map fun violation => "  - " ++ violation.message)

end Violations

end PageAttributes
