/-
**Anchors and aliases.**

An alias stands for the node that its anchor names. Anchors are numbered in the order of the text,
each by how many different names came before it; an alias takes the number that its name has where it
stands. Of two anchors with one number the later one counts.

* `Node.numbered` — the node with numbers for names;
* `Node.anchored` — the nodes with anchors, in the order of the text.
-/

import PageAttributes.Yaml.Node

namespace PageAttributes.Yaml

/-- The numbers of the names so far. -/
abbrev Names := List (String × Nat)

/-- Numbers a name, in place of an earlier number. -/
def Names.note (names : Names) (name : String) : Names :=
  (name, names.length) :: names.filter fun entry => entry.1 != name

namespace Properties

/-- The anchor as a number. -/
def numbered (properties : Properties String) (names : Names) : Properties Nat × Names :=
  match properties.anchor with
  | none => (⟨none, properties.tag⟩, names)
  | some name => (⟨some names.length, properties.tag⟩, names.note name)

end Properties

namespace Node

mutual

/-- The node with numbers for names. -/
def numbered (names : Names) : Node String → Except Problem (Node Nat × Names)
  | .alias name =>
    match names.lookup name with
    | some number => .ok (.alias number, names)
    | none => .error .unknownAlias
  | .scalar properties plain text =>
    let (properties, names) := properties.numbered names
    .ok (.scalar properties plain text, names)
  | .list properties items => do
    let (properties, names) := properties.numbered names
    let (items, names) ← numberedItems names items
    .ok (.list properties items, names)
  | .record properties fields => do
    let (properties, names) := properties.numbered names
    let (fields, names) ← numberedFields names fields
    .ok (.record properties fields, names)

/-- Items with numbers for names. -/
def numberedItems (names : Names) : List (Node String) → Except Problem (List (Node Nat) × Names)
  | [] => .ok ([], names)
  | item :: rest => do
    let (item, names) ← numbered names item
    let (rest, names) ← numberedItems names rest
    .ok (item :: rest, names)

/-- Fields with numbers for names. -/
def numberedFields (names : Names) :
    List (Node String × Node String) → Except Problem (List (Node Nat × Node Nat) × Names)
  | [] => .ok ([], names)
  | (key, value) :: rest => do
    let (key, names) ← numbered names key
    let (value, names) ← numbered names value
    let (rest, names) ← numberedFields names rest
    .ok ((key, value) :: rest, names)

end

/-- A node under its anchor, if it has one. -/
def underAnchor (properties : Properties Nat) (node : Node Nat) : List (Nat × Node Nat) :=
  properties.anchor.toList.map fun number => (number, node)

mutual

/-- The nodes with anchors, in the order of the text. -/
def anchored : Node Nat → List (Nat × Node Nat)
  | .alias _ => []
  | .scalar properties plain text => underAnchor properties (.scalar properties plain text)
  | .list properties items =>
    underAnchor properties (.list properties items) ++ anchoredItems items
  | .record properties fields =>
    underAnchor properties (.record properties fields) ++ anchoredFields fields

/-- The nodes with anchors among items. -/
def anchoredItems : List (Node Nat) → List (Nat × Node Nat)
  | [] => []
  | item :: rest => anchored item ++ anchoredItems rest

/-- The nodes with anchors among fields. -/
def anchoredFields : List (Node Nat × Node Nat) → List (Nat × Node Nat)
  | [] => []
  | (key, value) :: rest => anchored key ++ anchored value ++ anchoredFields rest

end

mutual

/-- The starts and the ends of the nodes, a scalar or an alias counting once. -/
def eventCount : Node Nat → Nat
  | .alias _ => 1
  | .scalar _ _ _ => 1
  | .list _ items => 2 + itemEventCount items
  | .record _ fields => 2 + fieldEventCount fields

/-- The starts and the ends of items. -/
def itemEventCount : List (Node Nat) → Nat
  | [] => 0
  | item :: rest => eventCount item + itemEventCount rest

/-- The starts and the ends of fields. -/
def fieldEventCount : List (Node Nat × Node Nat) → Nat
  | [] => 0
  | (key, value) :: rest => eventCount key + eventCount value + fieldEventCount rest

end

end Node

end PageAttributes.Yaml
