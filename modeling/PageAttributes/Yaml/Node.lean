/-
**The nodes of a YAML document.**

* `Node` — a scalar, a list or a record, perhaps with an anchor and a tag, or an alias of a node;
* `Node.ofTokens` — the only document of a list of tokens.
-/

import PageAttributes.Yaml.Problem
import PageAttributes.Yaml.Token

namespace PageAttributes.Yaml

/-- What stands before a node. -/
structure Properties (Name : Type) where
  anchor : Option Name
  tag : Option String

/-- A node of a document. Anchors and aliases are known by names. -/
inductive Node (Name : Type) where
  | alias (name : Name)
  | scalar (properties : Properties Name) (plain : Bool) (text : String)
  | list (properties : Properties Name) (items : List (Node Name))
  | record (properties : Properties Name) (fields : List (Node Name × Node Name))

namespace Node

/-- A node that is not written. -/
def missing : Node String := .scalar ⟨none, none⟩ true ""

/-! ### Directives -/

/-- What the handles of tags stand for, the explained ones first. -/
abbrev Handles := List (String × String)

/-- The handles that need no directive. -/
def commonHandles : Handles := [("!", "!"), ("!!", "tag:yaml.org,2002:")]

/-- Reads the directives before a document. Each handle is explained once, and the version is said
once and is known. -/
def readDirectives (versioned : Bool) (handles : Handles) :
    List Token → Except Problem (Handles × List Token)
  | .version major minor :: rest =>
    if versioned || major != 1 || (minor != 1 && minor != 2) then .error .badDirective
    else readDirectives true handles rest
  | .tagHandle handle start :: rest =>
    if (handles.lookup handle).isSome then .error .badDirective
    else readDirectives versioned (handles ++ [(handle, start)]) rest
  | tokens => .ok (handles ++ commonHandles, tokens)

/-- The tag that is meant. -/
def meantTag (handles : Handles) (tag : WrittenTag) : Except Problem String :=
  match tag.handle with
  | none => .ok tag.suffix
  | some handle =>
    match handles.lookup handle with
    | some start => .ok (start ++ tag.suffix)
    | none => .error .badTag

/-! ### Nodes -/

/-- Reads the anchor and the tag before a node, in either order. -/
def readProperties (handles : Handles) :
    List Token → Except Problem (Properties String × List Token)
  | .anchor name :: .tag tag :: rest => do .ok (⟨some name, some (← meantTag handles tag)⟩, rest)
  | .tag tag :: .anchor name :: rest => do .ok (⟨some name, some (← meantTag handles tag)⟩, rest)
  | .anchor name :: rest => .ok (⟨some name, none⟩, rest)
  | .tag tag :: rest => do .ok (⟨none, some (← meantTag handles tag)⟩, rest)
  | tokens => .ok (⟨none, none⟩, tokens)

/-- The tag of a scalar. The tag that only says that there is one says nothing. -/
def scalarProperties (properties : Properties String) : Properties String :=
  { properties with tag := properties.tag.filter (· != "!") }

/-- Where a node stands: in a block collection, as a part of a block record, or in brackets. In a
block record a list need not be indented. -/
inductive Place where
  | block
  | part
  | bracketed
deriving DecidableEq, Repr

/-- No node is written for a part of a block collection before such a token. -/
def endsPart : Option Token → Bool
  | some .key => true
  | some .value => true
  | some .blockEnd => true
  | _ => false

/-- No node is written for an entry of a list before such a token. -/
def endsEntry : Option Token → Bool
  | some .entry => true
  | some .blockEnd => true
  | _ => false

mutual

/-- Reads a node. -/
def read (handles : Handles) (place : Place) :
    (rounds : Nat) → List Token → Except Problem (Node String × List Token)
  | 0, _ => .error .tooDeep
  | _ + 1, .alias name :: rest => .ok (.alias name, rest)
  | rounds + 1, tokens => do
    let (properties, rest) ← readProperties handles tokens
    match rest with
    | .scalar plain text :: rest => .ok (.scalar (scalarProperties properties) plain text, rest)
    | .openList :: rest =>
      let (items, rest) ← readItems handles true rounds rest
      .ok (.list properties items, rest)
    | .openRecord :: rest =>
      let (fields, rest) ← readPairs handles true rounds rest
      .ok (.record properties fields, rest)
    | .entry :: _ =>
      if place = .part then
        let (items, rest) ← readPlainEntries handles rounds rest
        .ok (.list properties items, rest)
      else unwritten properties rest
    | .blockList :: after =>
      if place = .bracketed then unwritten properties rest
      else
        let (items, rest) ← readEntries handles rounds after
        .ok (.list properties items, rest)
    | .blockRecord :: after =>
      if place = .bracketed then unwritten properties rest
      else
        let (fields, rest) ← readFields handles rounds after
        .ok (.record properties fields, rest)
    | rest => unwritten properties rest
where
  /-- A node of which only the anchor or the tag is written. -/
  unwritten (properties : Properties String) (rest : List Token) :
      Except Problem (Node String × List Token) :=
    if properties.anchor.isSome || properties.tag.isSome then .ok (.scalar properties true "", rest)
    else .error .missingNode

/-- Reads the entries of a block list, to its end. -/
def readEntries (handles : Handles) :
    (rounds : Nat) → List Token → Except Problem (List (Node String) × List Token)
  | 0, _ => .error .tooDeep
  | rounds + 1, .entry :: rest => do
    let (item, rest) ←
      if endsEntry rest.head? then .ok (missing, rest) else read handles .block rounds rest
    let (items, rest) ← readEntries handles rounds rest
    .ok (item :: items, rest)
  | _ + 1, .blockEnd :: rest => .ok ([], rest)
  | _ + 1, _ => .error .missingEntry

/-- Reads the entries of a list that is not indented, as far as they go. -/
def readPlainEntries (handles : Handles) :
    (rounds : Nat) → List Token → Except Problem (List (Node String) × List Token)
  | 0, _ => .error .tooDeep
  | rounds + 1, .entry :: rest => do
    let (item, rest) ←
      if endsEntry rest.head? || endsPart rest.head? then .ok (missing, rest)
      else read handles .block rounds rest
    let (items, rest) ← readPlainEntries handles rounds rest
    .ok (item :: items, rest)
  | _ + 1, tokens => .ok ([], tokens)

/-- Reads the fields of a block record, to its end. -/
def readFields (handles : Handles) :
    (rounds : Nat) → List Token → Except Problem (List (Node String × Node String) × List Token)
  | 0, _ => .error .tooDeep
  | rounds + 1, .key :: rest => do
    let (key, rest) ←
      if endsPart rest.head? then .ok (missing, rest) else read handles .part rounds rest
    let (value, rest) ←
      match rest with
      | .value :: rest =>
        if endsPart rest.head? then .ok (missing, rest) else read handles .part rounds rest
      | rest => .ok (missing, rest)
    let (fields, rest) ← readFields handles rounds rest
    .ok ((key, value) :: fields, rest)
  | _ + 1, .blockEnd :: rest => .ok ([], rest)
  | _ + 1, _ => .error .missingEntry

/-- Reads the items of a list in brackets, to its end. A key makes an item a record of one field. -/
def readItems (handles : Handles) (first : Bool) :
    (rounds : Nat) → List Token → Except Problem (List (Node String) × List Token)
  | 0, _ => .error .tooDeep
  | _ + 1, .closeList :: rest => .ok ([], rest)
  | rounds + 1, tokens => do
    let rest ←
      match first, tokens with
      | true, tokens => .ok tokens
      | false, .comma :: rest => .ok rest
      | false, _ => .error .openBracket
    match rest with
    | .closeList :: rest => .ok ([], rest)
    | .key :: rest =>
      let (item, rest) ← readItemPair handles rounds rest
      let (items, rest) ← readItems handles false rounds rest
      .ok (item :: items, rest)
    | rest =>
      let (item, rest) ← read handles .bracketed rounds rest
      let (items, rest) ← readItems handles false rounds rest
      .ok (item :: items, rest)

/-- Reads the only field of an item of a list in brackets, after the start of the key. A key that is
not written takes the place of the token after it. -/
def readItemPair (handles : Handles) :
    (rounds : Nat) → List Token → Except Problem (Node String × List Token)
  | 0, _ => .error .tooDeep
  | rounds + 1, tokens => do
    let (key, rest) ←
      match tokens with
      | .value :: rest => .ok (missing, rest)
      | .comma :: rest => .ok (missing, rest)
      | .closeList :: rest => .ok (missing, rest)
      | tokens => read handles .bracketed rounds tokens
    let (value, rest) ← readBracketedValue handles .closeList rounds rest
    .ok (.record ⟨none, none⟩ [(key, value)], rest)

/-- Reads the value of a field in brackets, if one is written before `close`. -/
def readBracketedValue (handles : Handles) (close : Token) :
    (rounds : Nat) → List Token → Except Problem (Node String × List Token)
  | 0, _ => .error .tooDeep
  | rounds + 1, .value :: rest =>
    if rest.head? = some .comma ∨ rest.head? = some close then .ok (missing, rest)
    else read handles .bracketed rounds rest
  | _ + 1, tokens => .ok (missing, tokens)

/-- Reads the fields of a record in brackets, to its end. -/
def readPairs (handles : Handles) (first : Bool) :
    (rounds : Nat) → List Token → Except Problem (List (Node String × Node String) × List Token)
  | 0, _ => .error .tooDeep
  | _ + 1, .closeRecord :: rest => .ok ([], rest)
  | rounds + 1, tokens => do
    let rest ←
      match first, tokens with
      | true, tokens => .ok tokens
      | false, .comma :: rest => .ok rest
      | false, _ => .error .openBracket
    match rest with
    | .closeRecord :: rest => .ok ([], rest)
    | .key :: rest =>
      let (key, rest) ←
        match rest with
        | .value :: _ => .ok (missing, rest)
        | .comma :: _ => .ok (missing, rest)
        | .closeRecord :: _ => .ok (missing, rest)
        | rest => read handles .bracketed rounds rest
      let (value, rest) ← readBracketedValue handles .closeRecord rounds rest
      let (fields, rest) ← readPairs handles false rounds rest
      .ok ((key, value) :: fields, rest)
    | rest =>
      let (key, rest) ← read handles .bracketed rounds rest
      let (fields, rest) ← readPairs handles false rounds rest
      .ok ((key, missing) :: fields, rest)

end

/-! ### Documents -/

/-- The document has no node. -/
def endsDocument : List Token → Bool
  | [] => true
  | .documentStart :: _ => true
  | .documentEnd :: _ => true
  | .version _ _ :: _ => true
  | .tagHandle _ _ :: _ => true
  | _ => false

/-- Nothing but marks of the end of a document. -/
def onlyEnds (tokens : List Token) : Bool := tokens.all (· == .documentEnd)

/-- Reads the node of a document. -/
def readRoot (handles : Handles) (tokens : List Token) :
    Except Problem (Node String × List Token) :=
  read handles .block (3 * tokens.length + 3) tokens

/-- The only document of a list of tokens; there is none if there are no tokens. Directives need a
mark of the start of the document. -/
def ofTokens (tokens : List Token) : Except Problem (Option (Node String)) := do
  if tokens.isEmpty then return none
  let (handles, rest) ← readDirectives false [] tokens
  let (root, rest) ←
    match rest with
    | .documentStart :: rest =>
      if endsDocument rest then .ok (missing, rest) else readRoot handles rest
    | rest => if rest.length < tokens.length then .error .badDirective else readRoot handles rest
  if onlyEnds rest then return some root else .error .secondDocument

end Node

end PageAttributes.Yaml
