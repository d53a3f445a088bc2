/-
**What a written file changes.**

* `Replaced` — two file systems that differ in the content of one file at most;
* `Replaced.toOption_locate` — the same paths lead somewhere in both, and to the same place: the file
  stands where nothing stood or where a file did, so nothing leads through it before or after;
* `Replaced.content?` — so a path that leads to the file has the new content, and every other path
  the one it had;
* `replaced_of_write` — a successful write does nothing else.
-/

import PageAttributes.Storage.Access

namespace PageAttributes.Storage

variable {storage before after : Storage} {names others : List String} {entry : Entry}
  {path : String} {content : ByteArray}

/-! ### Entries -/

/-- What is put under some names stands there. -/
theorem at?_put_self (notRoot : names ≠ []) : (storage.put names entry).at? names = some entry := by
  rw [at?, if_neg (by rwa [List.isEmpty_iff]), put, List.lookup_cons, beq_self_eq_true]

/-- What stands under other names stays. -/
theorem at?_put_of_ne (different : others ≠ names) :
    (storage.put names entry).at? others = storage.at? others := by
  have kept : ∀ entries : List (List String × Entry),
      (entries.filter fun other => other.1 != names).lookup others = entries.lookup others := by
    intro entries
    induction entries with
    | nil => rfl
    | cons other rest ih =>
      obtain ⟨key, value⟩ := other
      by_cases same : key = names
      · have unlike : (others == key) = false := by rwa [beq_eq_false_iff_ne, same]
        rw [List.filter_cons_of_neg (by simp [same]), ih, List.lookup_cons, unlike]
      · rw [List.filter_cons_of_pos (by simpa using same), List.lookup_cons, List.lookup_cons, ih]
  have unlike : (others == names) = false := beq_eq_false_iff_ne.mpr different
  unfold at? put
  dsimp only
  rw [List.lookup_cons, unlike, kept]

/-! ### One file -/

/-- Both file systems are the same, but for the content of one file, which may be new. -/
structure Replaced (names : List String) (content : ByteArray) (before after : Storage) : Prop where
  here : after.at? names = some (.file content)
  elsewhere : ∀ others, others ≠ names → after.at? others = before.at? others
  notDirectory : before.at? names ≠ some .directory
  working : after.working = before.working

/-- A path leads through the same directories in both. -/
theorem Replaced.toOption_follow (replaced : Replaced names content before after)
    (path : List String) :
    ∀ place, (after.follow place path).toOption = (before.follow place path).toOption := by
  induction path with
  | nil => exact fun place => rfl
  | cons name rest ih =>
    intro place
    unfold follow
    by_cases same : place = names
    · -- Neither leads through the file: what stood there was no directory.
      rw [same, replaced.here]
      cases found : before.at? names with
      | none => rfl
      | some entry =>
        cases entry with
        | file content => rfl
        | directory => exact (replaced.notDirectory found).elim
    · rw [replaced.elsewhere place same]
      cases before.at? place with
      | none => rfl
      | some entry =>
        cases entry with
        | file content => rfl
        | directory => exact ih _

/-- The same paths lead somewhere in both, and to the same place. -/
theorem Replaced.toOption_locate (replaced : Replaced names content before after) (path : String) :
    (after.locate path).toOption = (before.locate path).toOption := by
  unfold locate startOf
  rw [replaced.working]
  split
  · rfl
  · exact replaced.toOption_follow _ _

/-- Both paths lead to the same place. -/
def meet (storage : Storage) (first second : String) : Bool :=
  match (storage.locate first).toOption, (storage.locate second).toOption with
  | some names, some others => names == others
  | _, _ => false

theorem meet_eq_true_iff {first second : String} (located : storage.locate first = .ok names) :
    storage.meet first second = true ↔ (storage.locate second).toOption = some names := by
  unfold meet
  rw [located]
  dsimp only [Except.toOption]
  split
  · rename_i same found
    cases same
    rw [found, beq_iff_eq, Option.some_inj, eq_comm]
  · rename_i different
    refine ⟨nofun, fun found => ?_⟩
    exact (different names names rfl found).elim

/-- The same paths meet in both. -/
theorem Replaced.meet (replaced : Replaced names content before after) (first second : String) :
    after.meet first second = before.meet first second := by
  unfold Storage.meet
  rw [replaced.toOption_locate, replaced.toOption_locate]

/-! ### Contents -/

/-- The content of the file that a path leads to, if there is one. -/
def content? (storage : Storage) (path : String) : Option ByteArray := (storage.read path).toOption

/-- The content of the file under some names, if there is one. -/
def fileAt? (storage : Storage) (names : List String) : Option ByteArray :=
  match storage.at? names with
  | some (.file content) => some content
  | _ => none

/-- A path has the content of the file that it leads to. -/
theorem content?_eq (storage : Storage) (path : String) :
    storage.content? path = (storage.locate path).toOption.bind storage.fileAt? := by
  unfold content? read fileAt?
  cases storage.locate path with
  | error fault => rfl
  | ok names =>
    dsimp only [Except.toOption, Option.bind_some]
    cases storage.at? names with
    | none => rfl
    | some entry => cases entry <;> rfl

/-- **A path that leads to the file has the new content, and every other path the one it had.** -/
theorem Replaced.content? (replaced : Replaced names content before after) (path : String) :
    after.content? path
      = if (before.locate path).toOption = some names then some content
        else before.content? path := by
  rw [content?_eq, content?_eq, replaced.toOption_locate]
  cases (before.locate path).toOption with
  | none => rfl
  | some place =>
    rw [Option.bind_some, Option.bind_some, fileAt?, fileAt?]
    by_cases same : place = names
    · rw [same, if_pos rfl, replaced.here]
    · rw [if_neg fun equal => same (Option.some.inj equal), replaced.elsewhere place same]

/-- A successful write replaces the content of the file that its path leads to. -/
theorem replaced_of_write (written : storage.write path content = .ok after) :
    ∃ names, storage.locate path = .ok names ∧ Replaced names content storage after := by
  unfold write at written
  cases located : storage.locate path with
  | error fault =>
    rw [located] at written
    cases written
  | ok names =>
    rw [located] at written
    dsimp only at written
    refine ⟨names, rfl, ?_⟩
    have notDirectory : storage.at? names ≠ some .directory := by
      intro found
      rw [found] at written
      cases written
    have notRoot : names ≠ [] := by
      rintro rfl
      exact notDirectory rfl
    split at written
    · cases written
    · cases written
      exact ⟨at?_put_self notRoot, fun others different => at?_put_of_ne different, notDirectory, rfl⟩

/-- Where a path leads in one of both, it leads in the other. -/
theorem Replaced.locate (replaced : Replaced names content before after)
    (located : before.locate path = .ok names) : after.locate path = .ok names := by
  have same := replaced.toOption_locate path
  rw [located] at same
  cases found : after.locate path with
  | error fault =>
    rw [found] at same
    cases same
  | ok place =>
    rw [found] at same
    cases same
    rfl

/-- The file has the new content. -/
theorem Replaced.read (replaced : Replaced names content before after)
    (located : before.locate path = .ok names) : after.read path = .ok content := by
  unfold Storage.read
  simp only [replaced.locate located, replaced.here]

/-- Writing the same content once more changes the content of no path. -/
theorem Replaced.repeated (replaced : Replaced names content before after) {again : Storage}
    (repeated : Replaced names content after again) (path : String) :
    again.content? path = after.content? path := by
  rw [repeated.content?, replaced.content?, replaced.toOption_locate]
  by_cases same : (before.locate path).toOption = some names
  · rw [if_pos same, if_pos same]
  · rw [if_neg same]

/-- A file that was written can be written again. -/
theorem Replaced.exists_write (replaced : Replaced names content before after)
    (located : before.locate path = .ok names) :
    ∃ again, after.write path content = .ok again ∧ Replaced names content after again := by
  have written : after.write path content = .ok (after.put names (.file content)) := by
    unfold Storage.write
    simp only [replaced.locate located, replaced.here]
  obtain ⟨place, found, again⟩ := replaced_of_write written
  cases (replaced.locate located).symm.trans found
  exact ⟨_, written, again⟩

/-! ### File systems as surroundings -/

theorem run_readFile (storage : Storage) (path : String) :
    (FileAccess.readFile path : StateM Storage _).run storage = (storage.read path, storage) := rfl

theorem run_writeFile (storage : Storage) (path : String) (content : ByteArray) :
    (FileAccess.writeFile path content : StateM Storage _).run storage
      = match storage.write path content with
        | .ok after => (.ok (), after)
        | .error fault => (.error fault, storage) := by
  simp only [FileAccess.writeFile, StateT.run_bind, StateT.run_get, pure_bind]
  cases storage.write path content <;> rfl

end PageAttributes.Storage
