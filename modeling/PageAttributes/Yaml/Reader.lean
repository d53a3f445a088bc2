/-
**Reading YAML.**

A text is read as one document. Keys are scalars and count as texts, the last of a repeated key wins,
and an alias stands for a copy of its node.

* `read` — the document of a text.
-/

import PageAttributes.Yaml.Alias
import PageAttributes.Yaml.Lexer
import PageAttributes.Yaml.Meaning

namespace PageAttributes.Yaml

/-- What aliases stand for, and how many of them may be followed. -/
structure Anchors where
  nodes : List (Nat × Node Nat)
  limit : Nat

/-- Reading counts the aliases that have been followed. -/
abbrev Reading (α : Type) := StateT Nat (Except Problem) α

/-- How deep collections may be nested. -/
def depthLimit : Nat := 128

/-- How often an alias may be followed, for every start and end of a node. -/
def aliasFactor : Nat := 100

namespace Anchors

/-- The anchors of a document. The later of two anchors with one number counts. -/
def ofNode (root : Node Nat) : Anchors := ⟨root.anchored.reverse, root.eventCount * aliasFactor⟩

/-- A node, or what an alias stands for. -/
def target (anchors : Anchors) : Node Nat → Reading (Node Nat)
  | .alias number => do
    let followed := (← get) + 1
    set followed
    if anchors.limit < followed then throw .tooManyAliases
    match anchors.nodes.lookup number with
    | some node => pure node
    | none => throw .unknownAlias
  | node => pure node

/-- The text of a key. -/
def key (anchors : Anchors) (node : Node Nat) : Reading String := do
  match ← anchors.target node with
  | .scalar _ _ text => pure text
  | _ => throw .collectionAsKey

/-- The document of a node, whose collections are nested at most `depth` deep. -/
def document (anchors : Anchors) : (depth : Nat) → Node Nat → Reading Document
  | 0, node => do
    match ← anchors.target node with
    | .scalar properties plain text => ofScalar properties.tag plain text
    | _ => throw .tooDeep
  | depth + 1, node => do
    match ← anchors.target node with
    | .alias _ => throw .unknownAlias
    | .scalar properties plain text => ofScalar properties.tag plain text
    | .list properties items =>
      if isOwnTag properties.tag then throw .ownTag
      let items ← items.mapM (document anchors depth)
      pure (.list items)
    | .record properties fields =>
      if isOwnTag properties.tag then throw .ownTag
      let fields ← fields.mapM fun field => do
        let key ← anchors.key field.1
        let value ← document anchors depth field.2
        pure (key, value)
      pure (.record (Keyed.ofPairs fields))

end Anchors

/-- A character that may stand in a text: no control but a tab or a line break. -/
def isAllowed (value : Char) : Bool :=
  let code := value.toNat
  value == '\t' || value == '\n' || value == '\r' || code == 0x85 || (0x20 ≤ code && code < 0x7F)
    || (0xA0 ≤ code && code != 0xFFFE && code != 0xFFFF)

/-- The document of a text. A text without any node says nothing. -/
def read (text : String) : Except Problem Document := do
  if !text.toList.all isAllowed then throw .controlCharacter
  match ← Node.ofTokens (← Token.ofText (Spot.ofText text)) with
  | none => pure .null
  | some root =>
    let (root, _) ← root.numbered []
    let anchors := Anchors.ofNode root
    (anchors.document depthLimit root).run' 0

end PageAttributes.Yaml
