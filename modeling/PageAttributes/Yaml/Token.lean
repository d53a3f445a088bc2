/-
**The tokens of a YAML text.**
-/

namespace PageAttributes.Yaml

/-- A tag as it is written: a handle, which a directive may explain, and what follows it. A tag in
angle brackets has no handle. -/
structure WrittenTag where
  handle : Option String
  suffix : String
deriving DecidableEq, Repr

/-- A token. The starts and the ends of block collections are not written; they follow from the
indentation. -/
inductive Token where
  | documentStart
  | documentEnd
  | version (major minor : Nat)
  | tagHandle (handle start : String)
  | blockList
  | blockRecord
  | blockEnd
  | openList
  | closeList
  | openRecord
  | closeRecord
  | comma
  | entry
  | key
  | value
  | alias (name : String)
  | anchor (name : String)
  | tag (tag : WrittenTag)
  | scalar (plain : Bool) (text : String)
deriving DecidableEq, Repr

end PageAttributes.Yaml
