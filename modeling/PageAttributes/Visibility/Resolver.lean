/-
**Which attributes and groups apply.**

A group applies when its kinds of nodes and its conditions admit it; an attribute applies when its
group does and its own restrictions admit it. A condition that reads an attribute that does not
apply sees no value, so whether one applies may depend on others. Everything is decided once, in the
order in which it is needed.

* `visible` — decides one attribute or group, after those it depends on;
* `Catalog.resolve` — decides a whole solution, the groups first;
* `chainLimit` — how many attributes and groups may wait for one another.

While a node is being decided it is in progress, and exactly the nodes in progress are on the stack.
The number of frames that the stack has room for is what the recursion runs on.
-/

import PageAttributes.Evaluation.Evaluate
import PageAttributes.Visibility.Catalog
import PageAttributes.Visibility.Error

namespace PageAttributes

/-- How many attributes and groups may wait for one another. -/
def chainLimit : Nat := 256

/-- What is known about an attribute or a group. -/
inductive Progress where
  | pending
  | inProgress
  | resolved (visible : Bool)
deriving DecidableEq, Repr

/-- What is known so far, and the nodes that are being decided, the last one first. -/
structure Session where
  attributes : List Progress
  groups : List Progress
  stack : List Node
deriving DecidableEq, Repr

namespace Session

/-- Nothing is known yet. -/
def initial (catalog : Catalog) : Session :=
  ⟨catalog.attributes.map fun _ => .pending, catalog.groups.map fun _ => .pending, []⟩

/-- What is known about a node. -/
def progress (session : Session) : Node → Progress
  | .attribute position => (session.attributes[position]?).getD .pending
  | .group position => (session.groups[position]?).getD .pending

/-- Notes what is known about a node. -/
def note (session : Session) (node : Node) (progress : Progress) : Session :=
  match node with
  | .attribute position =>
    { session with attributes := session.attributes.set position progress }
  | .group position => { session with groups := session.groups.set position progress }

/-- Begins to decide a node. -/
def enter (session : Session) (node : Node) : Session :=
  { session.note node .inProgress with stack := node :: session.stack }

/-- Ends with the last node that was begun. -/
def leave (session : Session) (node : Node) (visible : Bool) : Session :=
  { session.note node (.resolved visible) with stack := session.stack.drop 1 }

/-- The nodes in progress from a node on, and that node again. From a node that is not in progress,
all of them. -/
def loop (session : Session) (repeated : Node) : List Node :=
  let nodes := session.stack.reverse
  let start := (nodes.findIdx? fun node => node == repeated).getD 0
  nodes.drop start ++ [repeated]

end Session

/-- A computation that decides nodes and may fail. -/
abbrev Resolving := ExceptT VisibilityError (StateM Session)

namespace Condition

mutual

/-- Whether a condition at a depth holds, with the values that `read` gives. -/
def holdsReading (read : String → Resolving (Option AttributeValue)) (depth : Nat) :
    Condition → Resolving Bool
  | .leaf attributeId expected =>
    if depthLimit < depth then throw (.tooDeep depthLimit)
    else do
      let actual ← read attributeId
      pure (actual.any fun value => value.satisfies expected)
  | .group operator members =>
    if depthLimit < depth then throw (.tooDeep depthLimit)
    else
      match operator with
      | .all => allHoldReading read (depth + 1) members
      | .any => anyHoldsReading read (depth + 1) members

/-- Whether all conditions at a depth hold; those after one that does not are not looked at. -/
def allHoldReading (read : String → Resolving (Option AttributeValue)) (depth : Nat) :
    List Condition → Resolving Bool
  | [] => pure true
  | member :: rest => do
    let holds ← holdsReading read depth member
    if holds then allHoldReading read depth rest else pure false

/-- Whether any condition at a depth holds; those after one that does are not looked at. -/
def anyHoldsReading (read : String → Resolving (Option AttributeValue)) (depth : Nat) :
    List Condition → Resolving Bool
  | [] => pure false
  | member :: rest => do
    let holds ← holdsReading read depth member
    if holds then pure true else anyHoldsReading read depth rest

end

end Condition

/-- A restriction to kinds of nodes admits a kind. Without either nothing is refused. -/
def admits (allowed : Option (List NodeType)) (kind : Option NodeType) : Bool :=
  match allowed, kind with
  | some allowed, some kind => allowed.contains kind
  | _, _ => true

/-- The restrictions of a node admit it. The conditions are looked at only if the kind is
admitted. -/
def restrictionsHold (read : String → Resolving (Option AttributeValue))
    (nodeTypes : Option (List NodeType)) (conditions : Option (List Condition))
    (kind : Option NodeType) : Resolving Bool :=
  if admits nodeTypes kind then Condition.allHoldReading read 1 (conditions.getD [])
  else pure false

/-- Decides a node, with room for so many nodes on the stack. -/
def visible (catalog : Catalog) (assignment : Assignment) (kind : Option NodeType) (room : Nat)
    (node : Node) : Resolving Bool := do
  let session ← get
  match session.progress node with
  | .resolved outcome => pure outcome
  | .inProgress => throw (.cycle ((session.loop node).map catalog.label))
  | .pending =>
    match room with
    | 0 => throw (.tooDeep chainLimit)
    | room + 1 => do
      let read (id : String) : Resolving (Option AttributeValue) :=
        match catalog.position? id with
        | none => throw (.unknownAttribute id)
        | some position => do
          let applies ← visible catalog assignment kind room (.attribute position)
          pure (if applies then assignment.get? id else none)
      modify fun session => session.enter node
      let outcome ←
        match node with
        | .attribute position =>
          match catalog.attributes[position]? with
          | none => pure false
          | some (group, declared) => do
            let around ←
              match group with
              | some position => visible catalog assignment kind room (.group position)
              | none => pure true
            if around then
              restrictionsHold read declared.nodeTypes declared.conditions kind
            else pure false
        | .group position =>
          match catalog.groups[position]? with
          | none => pure false
          | some gathered => restrictionsHold read gathered.nodeTypes gathered.conditions kind
      modify fun session => session.leave node outcome
      pure outcome

/-- The names of the groups and the ids of the attributes that apply, in declaration order. -/
structure VisibilityReport where
  groups : List String
  attributes : List String
deriving DecidableEq, Repr

namespace VisibilityReport

/-- Nothing applies. -/
def empty : VisibilityReport := ⟨[], []⟩

/-- The attribute with an id applies. -/
def isVisible (report : VisibilityReport) (id : String) : Bool := report.attributes.contains id

/-- The group with a name applies. -/
def isGroupVisible (report : VisibilityReport) (name : String) : Bool := report.groups.contains name

end VisibilityReport

/-- The labels of the nodes that apply, decided one after another. -/
def visibleAmong {α : Type} (decide : Node → Resolving Bool) (node : Nat → Node)
    (name : α → String) (position : Nat) : List α → Resolving (List String)
  | [] => pure []
  | entry :: rest => do
    let applies ← decide (node position)
    let names ← visibleAmong decide node name (position + 1) rest
    pure (if applies then name entry :: names else names)

namespace Catalog

/-- Decides every group and every attribute. -/
def resolving (catalog : Catalog) (assignment : Assignment) (kind : Option NodeType) :
    Resolving VisibilityReport := do
  let decide := visible catalog assignment kind chainLimit
  let groups ← visibleAmong decide .group AttributeGroup.name 0 catalog.groups
  let attributes ← visibleAmong decide .attribute (fun entry => entry.2.id) 0 catalog.attributes
  pure ⟨groups, attributes⟩

/-- What applies under an assignment, on a kind of node if one is given. -/
def resolve (catalog : Catalog) (assignment : Assignment) (kind : Option NodeType) :
    Except VisibilityError VisibilityReport :=
  ((catalog.resolving assignment kind).run (Session.initial catalog)).1

end Catalog

/-- What applies of a solution. -/
def Solution.resolve (solution : Solution) (assignment : Assignment) (kind : Option NodeType) :
    Except VisibilityError VisibilityReport :=
  (Catalog.ofSolution solution).resolve assignment kind

end PageAttributes
