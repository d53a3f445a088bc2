/-
**File systems.**

A file system is a list of files and directories, each under the names that lead to it from the root.
A path is followed name by name; everything it goes through must be a directory.

* `Storage.locate` — where a path leads;
* `Storage.read`, `Storage.write` — the content of a file, and a file system with another content;
* `Storage.makeDirectory` — a file system with a directory and all that lead to it;
* `Storage.files` — the files, by their paths from a directory.
-/

import PageAttributes.Storage.Fault

namespace PageAttributes

/-- What stands in a file system. -/
inductive Entry where
  | file (content : ByteArray)
  | directory

/-- A file system: its entries under the names that lead to them. -/
structure Storage where
  entries : List (List String × Entry)
  /-- The names that lead to the directory where relative paths start. -/
  working : List String := []

namespace Storage

/-- Only a root. -/
def empty : Storage := { entries := [] }

/-- What stands under some names. Under no names stands the root. -/
def at? (storage : Storage) (names : List String) : Option Entry :=
  if names.isEmpty then some .directory else storage.entries.lookup names

/-- Puts an entry under some names, in place of an earlier one. -/
def put (storage : Storage) (names : List String) (entry : Entry) : Storage :=
  { storage with
    entries := (names, entry) :: storage.entries.filter fun other => other.1 != names }

/-- Where one name of a path leads from a directory. -/
def step (here : List String) (name : String) : List String :=
  if name = "" ∨ name = "." then here else if name = ".." then here.dropLast else here ++ [name]

/-- Where the names of a path lead. The last of them may lead to nothing. -/
def follow (storage : Storage) (here : List String) :
    List String → Except FileFault (List String)
  | [] => .ok here
  | name :: rest =>
    match storage.at? here with
    | none => .error .notFound
    | some (.file _) => .error .notDirectory
    | some .directory => storage.follow (step here name) rest

/-- Where a path starts. -/
def startOf (storage : Storage) (path : String) : List String :=
  if path.startsWith "/" then [] else storage.working

/-- Where a path leads. -/
def locate (storage : Storage) (path : String) : Except FileFault (List String) :=
  if path.isEmpty then .error .notFound
  else storage.follow (storage.startOf path) (path.splitOn "/")

/-- The content of the file that a path leads to. -/
def read (storage : Storage) (path : String) : Except FileFault ByteArray :=
  match storage.locate path with
  | .error fault => .error fault
  | .ok names =>
    match storage.at? names with
    | none => .error .notFound
    | some .directory => .error .isDirectory
    | some (.file content) => .ok content

/-- The file system after a file has been written. -/
def write (storage : Storage) (path : String) (content : ByteArray) : Except FileFault Storage :=
  match storage.locate path with
  | .error fault => .error fault
  | .ok names =>
    match storage.at? names with
    | some .directory => .error .isDirectory
    | _ => .ok (storage.put names (.file content))

/-- Makes the directories that lead through some names, as far as nothing stands there. -/
def makeDirectories (storage : Storage) (here : List String) : List String → Storage
  | [] => storage
  | name :: rest =>
    let next := step here name
    match storage.at? next with
    | none => (storage.put next .directory).makeDirectories next rest
    | some _ => storage.makeDirectories next rest

/-- Makes the directory that a path leads to, and all that lead to it. -/
def makeDirectory (storage : Storage) (path : String) : Storage :=
  storage.makeDirectories (storage.startOf path) (path.splitOn "/")

/-- The files below a directory by their paths from it, in the order of the paths. -/
def files (storage : Storage) (directory : List String) : List (String × ByteArray) :=
  let below := storage.entries.filterMap fun (names, entry) =>
    match entry with
    | .file content =>
      if directory.isPrefixOf names then
        some ("/".intercalate (names.drop directory.length), content)
      else none
    | .directory => none
  below.mergeSort fun first second => first.1 ≤ second.1

end Storage

end PageAttributes
