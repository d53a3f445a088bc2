/-
**File systems that may refuse to read or to write.**

Any access may fail for a reason outside of the file system, such as a missing permission or a full
disk. Then it has no effect.

* `Troubled` — a file system, and for every access to come whether there is trouble;
* `Troubled.read`, `Troubled.write` — what the next access does, if there is no trouble;
* `Troubled.access` — such surroundings;
* `Troubled.replaced_of_write` — what is written replaces the content of one file.
-/

import PageAttributes.Proofs.Storage.Replaced
import PageAttributes.Storage.Access

namespace PageAttributes

/-- A file system, and the troubles of the accesses to come; after the last of them there are no
more. -/
structure Troubled where
  storage : Storage
  troubles : List (Option FileFault) := []

namespace Troubled

/-- The trouble of the next access. -/
def trouble? (surroundings : Troubled) : Option FileFault := surroundings.troubles.head?.join

/-- The surroundings after an access that leaves some file system. -/
def goOn (surroundings : Troubled) (storage : Storage) : Troubled :=
  ⟨storage, surroundings.troubles.tail⟩

/-- What the next access reads, if it reads. -/
def read (surroundings : Troubled) (path : String) : Except FileFault ByteArray :=
  match surroundings.trouble? with
  | some fault => .error fault
  | none => surroundings.storage.read path

/-- The file system that the next access leaves, if it writes. -/
def write (surroundings : Troubled) (path : String) (content : ByteArray) :
    Except FileFault Storage :=
  match surroundings.trouble? with
  | some fault => .error fault
  | none => surroundings.storage.write path content

/-- Surroundings in which any access may fail. -/
instance access {m : Type → Type} [Monad m] : FileAccess (StateT Troubled m) where
  readFile path := do
    let before ← get
    set (before.goOn before.storage)
    pure (before.read path)
  writeFile path content := do
    let before ← get
    match before.write path content with
    | .ok storage =>
      set (before.goOn storage)
      pure (.ok ())
    | .error fault =>
      set (before.goOn before.storage)
      pure (.error fault)

/-- Reading leaves the file system as it is. -/
theorem run_readFile (surroundings : Troubled) (path : String) :
    (FileAccess.readFile path : StateM Troubled _).run surroundings
      = (surroundings.read path, surroundings.goOn surroundings.storage) := rfl

/-- Writing leaves the file system with the file, or as it is. -/
theorem run_writeFile (surroundings : Troubled) (path : String) (content : ByteArray) :
    (FileAccess.writeFile path content : StateM Troubled _).run surroundings
      = match surroundings.write path content with
        | .ok storage => (.ok (), surroundings.goOn storage)
        | .error fault => (.error fault, surroundings.goOn surroundings.storage) := by
  simp only [FileAccess.writeFile, StateT.run_bind, StateT.run_get, pure_bind]
  cases surroundings.write path content <;> rfl

/-- **What is written replaces the content of one file.** -/
theorem replaced_of_write {surroundings : Troubled} {path : String} {content : ByteArray}
    {storage : Storage} (written : surroundings.write path content = .ok storage) :
    ∃ names, surroundings.storage.locate path = .ok names
      ∧ Storage.Replaced names content surroundings.storage storage := by
  unfold write at written
  split at written
  · cases written
  · exact Storage.replaced_of_write written

end Troubled

end PageAttributes
