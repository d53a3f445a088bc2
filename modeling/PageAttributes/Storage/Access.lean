/-
**Reading and writing files.**

What loads and builds schemas needs two things of its surroundings: to read a file, and to write one.

* `FileAccess` — surroundings in which files can be read and written;
* `FileAccess.readText` — the text of a file;
* `FilePath.join` — the path of a file in a directory.
-/

import PageAttributes.Storage.Basic

namespace PageAttributes

/-- Surroundings in which files can be read and written. -/
class FileAccess (m : Type → Type) where
  /-- The content of a file. -/
  readFile (path : String) : m (Except FileFault ByteArray)
  /-- Writes a file, in place of an earlier one. -/
  writeFile (path : String) (content : ByteArray) : m (Except FileFault Unit)

/-- A file system as surroundings. -/
instance Storage.access {m : Type → Type} [Monad m] : FileAccess (StateT Storage m) where
  readFile path := do pure ((← get).read path)
  writeFile path content := do
    match (← get).write path content with
    | .ok storage =>
      set storage
      pure (.ok ())
    | .error fault => pure (.error fault)

/-- The text of some content. -/
def decodeText (content : ByteArray) : Except FileFault String :=
  match String.fromUTF8? content with
  | some text => .ok text
  | none => .error .notText

/-- The text of a file. -/
def FileAccess.readText {m : Type → Type} [Monad m] [FileAccess m] (path : String) :
    m (Except FileFault String) := do
  pure ((← readFile path).bind decodeText)

/-- The path of a file in a directory. -/
def FilePath.join (directory name : String) : String :=
  if directory.isEmpty || directory.endsWith "/" then directory ++ name
  else directory ++ "/" ++ name

end PageAttributes
