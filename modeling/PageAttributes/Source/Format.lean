/-
**The formats of schema sources.**

A source is JSON or YAML, as the extension of its file name says.

* `SourceFormat.ofPath?` — the format of a path;
* `FilePath.extension?` — the extension of the last component of a path.
-/

namespace PageAttributes

namespace FilePath

/-- The components of a path; repeated separators and single dots mean nothing. -/
def components (path : String) : List String :=
  ((path.splitOn "/").filter fun part => part != "" && part != ".")

/-- The part of a file name after its last dot, if something stands before the dot. -/
def extensionOfName (name : String) : Option String :=
  let reversed := name.toList.reverse
  match reversed.dropWhile (fun letter => letter != '.') with
  | '.' :: _ :: _ => some (String.ofList (reversed.takeWhile fun letter => letter != '.').reverse)
  | _ => none

/-- The extension of the last component of a path. The way up is no file name. -/
def extension? (path : String) : Option String :=
  match (components path).getLast? with
  | some ".." => none
  | some name => extensionOfName name
  | none => none

/-- A text with its ASCII letters in lower case. -/
def lowered (text : String) : String := String.ofList (text.toList.map Char.toLower)

end FilePath

/-- A format of schema sources. -/
inductive SourceFormat where
  | json
  | yaml
deriving DecidableEq, Repr

namespace SourceFormat

/-- The name of a format. -/
def name : SourceFormat → String
  | .json => "Json"
  | .yaml => "Yaml"

/-- The format that an extension stands for, whatever its case. -/
def ofExtension? (extension : String) : Option SourceFormat :=
  match FilePath.lowered extension with
  | "json" => some .json
  | "yaml" => some .yaml
  | "yml" => some .yaml
  | _ => none

/-- The format of a path. -/
def ofPath? (path : String) : Option SourceFormat :=
  (FilePath.extension? path).bind ofExtension?

end SourceFormat

end PageAttributes
