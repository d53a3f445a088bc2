/-
**What the parts of a solution are called, and what they refer to.**

Beside the check of its shape, a document is searched for everything that has a name: the index of a
solution lists its scripts, attributes and groups with their places, and the references in their
conditions with their owners. Parts that are not well shaped are left out.

* `SolutionIndex.ofFields` — the index of a solution;
* `solutionIndexes`, `solutionIds` — those of a whole document.
-/

import PageAttributes.Grammar.Conditions

namespace PageAttributes.Grammar

/-- What a condition belongs to, by its number in the index. -/
inductive Owner where
  | attribute (position : Nat)
  | group (position : Nat)
deriving DecidableEq, Repr

/-- An id named by a leaf of a condition. -/
structure Reference where
  attributeId : String
  path : Path
  owner : Owner
deriving DecidableEq

/-- An attribute with an id. -/
structure AttributeEntry where
  id : String
  path : Path
  /-- The number of the group it stands in. -/
  group : Option Nat
deriving DecidableEq

/-- Everything in a solution that has a name. -/
structure SolutionIndex where
  path : Path
  id : Option String
  scripts : List (String × Path)
  attributes : List AttributeEntry
  groups : List Path
  references : List Reference
deriving DecidableEq

namespace SolutionIndex

/-- References with one owner. -/
def ownedBy (owner : Owner) (references : List (String × Path)) : List Reference :=
  references.map fun reference => ⟨reference.1, reference.2, owner⟩

/-- Adds an attribute and the references in its conditions. Without an id it is left out. -/
def addAttribute (index : SolutionIndex) (group : Option Nat) (path : Path) (fields : Fields) :
    SolutionIndex :=
  match textOf? fields "id" with
  | some id =>
    { index with
      attributes := index.attributes ++ [⟨id, path, group⟩]
      references := index.references
        ++ ownedBy (.attribute index.attributes.length) (referencesOf fields path) }
  | none => index

/-- Adds a member of a group, if it is an attribute. -/
def addMember (index : SolutionIndex) (group : Nat) (path : Path) : Document → SolutionIndex
  | .record fields =>
    if textOf? fields "type" = some "attribute" then
      index.addAttribute (some group) path fields
    else index
  | _ => index

/-- Adds the members of a group from a position on. -/
def addMembers (index : SolutionIndex) (group : Nat) (path : Path) (position : Nat) :
    List Document → SolutionIndex
  | [] => index
  | item :: rest =>
    (index.addMember group (path.index position) item).addMembers group path (position + 1) rest

/-- Adds a group: first its members, then the references in its own conditions. -/
def addGroup (index : SolutionIndex) (path : Path) (fields : Fields) : SolutionIndex :=
  let group := index.groups.length
  let withMembers := { index with groups := index.groups ++ [path] }.addMembers group
    (path.field "attributes") 0 (listOf fields "attributes")
  { withMembers with
    references := withMembers.references ++ ownedBy (.group group) (referencesOf fields path) }

/-- Adds an entry of the attribute list, if it is an attribute or a group. -/
def addNode (index : SolutionIndex) (path : Path) : Document → SolutionIndex
  | .record fields =>
    match textOf? fields "type" with
    | some "attribute" => index.addAttribute none path fields
    | some "group" => index.addGroup path fields
    | _ => index
  | _ => index

/-- Adds the entries of the attribute list from a position on. -/
def addNodes (index : SolutionIndex) (path : Path) (position : Nat) :
    List Document → SolutionIndex
  | [] => index
  | item :: rest =>
    (index.addNode (path.index position) item).addNodes path (position + 1) rest

/-- The id of a script, with its place. -/
def scriptId (path : Path) : Document → List (String × Path)
  | .record fields =>
    match textOf? fields "id" with
    | some id => [(id, path.field "id")]
    | none => []
  | _ => []

/-- The index of a solution. -/
def ofFields (path : Path) (fields : Fields) : SolutionIndex :=
  SolutionIndex.addNodes
    { path := path
      id := textOf? fields "id"
      scripts := eachItem scriptId (path.field "scripts") 0 (listOf fields "scripts")
      attributes := []
      groups := []
      references := [] }
    (path.field "attributes") 0 (listOf fields "attributes")

/-- The index of a solution, if there is a record. -/
def ofDocument (path : Path) : Document → List SolutionIndex
  | .record fields => [ofFields path fields]
  | _ => []

end SolutionIndex

/-- The items of the list under `solutions`. -/
def solutionItems : Document → List Document
  | .record fields => listOf fields "solutions"
  | _ => []

/-- The indexes of all solutions that are records. -/
def solutionIndexes (document : Document) : List SolutionIndex :=
  eachItem SolutionIndex.ofDocument (Path.root.field "solutions") 0 (solutionItems document)

/-- The ids of all solutions, with their places. -/
def solutionIds (document : Document) : List (String × Path) :=
  (solutionIndexes document).filterMap fun index =>
    index.id.map fun id => (id, index.path.field "id")

end PageAttributes.Grammar
