/-
**The format of a file in a directory.**

* `splitOn_slash` — the parts of a text between its slashes, as a list of characters is split;
* `Storage.locate_relative` — where a path leads that does not begin with a slash;
* `FilePath.exists_components_join` — the last component of the path of a file in a directory is the
  name of the file;
* `sourceFormat_artifact` — so what is written into a directory is a JSON source, whatever the
  directory is.
-/

import Mathlib.Data.String.Basic
import PageAttributes.Pipeline.Build

namespace PageAttributes

/-! ### Texts between slashes -/

section Split

open String

/-- How a text is split from some place on: `before` ends with the last slash so far, and `pending`
is what stands behind it. -/
theorem splitOnAux_slash (rest : List Char) : ∀ (before pending : List Char) (found : List String),
    (ofList (before ++ pending ++ rest)).splitOnAux "/" ⟨utf8Len before⟩
        ⟨utf8Len before + utf8Len pending⟩ 0 found
      = found.reverse
        ++ (List.splitOnPPrepend (fun letter => letter == '/') rest pending.reverse).map ofList := by
  induction rest with
  | nil =>
    intro before pending found
    have atEnd := (atEnd_of_valid (before ++ pending) []).mpr rfl
    rw [utf8Len_append] at atEnd
    rw [splitOnAux, if_pos atEnd, extract_of_valid before pending []]
    simp
  | cons letter rest ih =>
    intro before pending found
    have notAtEnd : ¬ Pos.Raw.atEnd (ofList (before ++ pending ++ letter :: rest))
        ⟨utf8Len before + utf8Len pending⟩ = true := by
      have atEnd := atEnd_of_valid (before ++ pending) (letter :: rest)
      rw [utf8Len_append] at atEnd
      exact fun ends => List.cons_ne_nil _ _ (atEnd.mp ends)
    have here := get_of_valid (before ++ pending) (letter :: rest)
    have next := next_of_valid (before ++ pending) letter rest
    rw [utf8Len_append] at here next
    have slash : Pos.Raw.get "/" 0 = '/' := by decide
    rw [splitOnAux, if_neg notAtEnd, here, slash, List.headD_cons]
    by_cases same : letter = '/'
    · subst same
      have past : Pos.Raw.next "/" 0 = ⟨1⟩ := by decide
      have done : Pos.Raw.atEnd "/" ⟨1⟩ = true := by decide
      have part := extract_of_valid before pending ('/' :: rest)
      have back : (⟨utf8Len before + utf8Len pending + '/'.utf8Size⟩ : Pos.Raw).unoffsetBy ⟨1⟩
          = ⟨utf8Len before + utf8Len pending⟩ := rfl
      have later := ih (before ++ pending ++ ['/']) [] (ofList pending :: found)
      have lengths : utf8Len (before ++ pending ++ ['/'])
          = utf8Len before + utf8Len pending + '/'.utf8Size := by
        rw [utf8Len_append, utf8Len_append, utf8Len_cons, utf8Len_nil, Nat.zero_add]
      rw [lengths, utf8Len_nil, Nat.add_zero, List.append_nil, List.append_assoc _ ['/'],
        List.singleton_append] at later
      rw [if_pos (beq_self_eq_true _), next, past]
      dsimp only
      rw [if_pos done, back, part, later]
      simp [List.splitOnPPrepend_cons_eq_if]
    · have still : (⟨utf8Len before + utf8Len pending⟩ : Pos.Raw).unoffsetBy 0
          = ⟨utf8Len before + utf8Len pending⟩ := rfl
      have later := ih before (pending ++ [letter]) found
      have lengths : utf8Len before + utf8Len (pending ++ [letter])
          = utf8Len before + utf8Len pending + letter.utf8Size := by
        rw [utf8Len_append, utf8Len_cons, utf8Len_nil, Nat.zero_add, Nat.add_assoc]
      have texts : before ++ (pending ++ [letter]) ++ rest = before ++ pending ++ letter :: rest := by
        simp
      rw [lengths, texts] at later
      rw [if_neg (by simpa using same), still, next, later]
      simp [List.splitOnPPrepend_cons_eq_if, same]

/-- The parts of a text between its slashes. -/
theorem splitOn_slash (text : String) :
    text.splitOn "/" = (text.toList.splitOn '/').map ofList := by
  have parts := splitOnAux_slash text.toList [] [] []
  rw [List.append_nil, List.nil_append, ofList_toList] at parts
  have notEmpty : ¬ ("/" == "") = true := by decide
  rw [splitOn, if_neg notEmpty, List.splitOn_eq_splitOnP]
  exact parts

end Split

/-! ### Files in directories -/

/-- A path that does not begin with a slash is followed from the working directory. -/
theorem Storage.locate_relative {storage : Storage} {path : String} (some : path.isEmpty = false)
    (relative : path.startsWith "/" = false) :
    storage.locate path
      = storage.follow storage.working ((path.toList.splitOn '/').map String.ofList) := by
  have nonempty : ¬ path.isEmpty = true := by rw [some]; exact Bool.false_ne_true
  have notRooted : ¬ path.startsWith "/" = true := by rw [relative]; exact Bool.false_ne_true
  rw [locate, if_neg nonempty, startOf, if_neg notRooted, splitOn_slash]

namespace FilePath

theorem endsWith_slash_iff (text : String) : text.endsWith "/" = true ↔ ['/'] <:+ text.toList := by
  rw [String.endsWith_eq_endsWith_toSlice, String.Slice.endsWith_string_iff, String.copy_toSlice]
  exact Iff.rfl

/-- The path of a file in a directory ends with the name of the file, alone or behind a slash. -/
theorem exists_toList_join (directory name : String) :
    (join directory name).toList = name.toList
      ∨ ∃ before, (join directory name).toList = before ++ '/' :: name.toList := by
  unfold join
  by_cases empty : directory.isEmpty = true
  · rw [if_pos (by rw [empty, Bool.true_or]), String.isEmpty_iff.mp empty, String.empty_append]
    exact Or.inl rfl
  · right
    by_cases slash : directory.endsWith "/" = true
    · rw [if_pos (by rw [slash, Bool.or_true])]
      obtain ⟨before, ends⟩ := (endsWith_slash_iff directory).mp slash
      refine ⟨before, ?_⟩
      rw [String.toList_append, ← ends]
      simp
    · rw [if_neg (by simp [empty, slash])]
      refine ⟨directory.toList, ?_⟩
      simp

/-- **The last component of the path of a file in a directory is the name of the file.** -/
theorem exists_components_join (directory : String) {name : String} (oneName : '/' ∉ name.toList)
    (visible : (name != "" && name != ".") = true) :
    ∃ before, components (join directory name) = before ++ [name] := by
  have alone : name.toList.splitOn '/' = [name.toList] := List.splitOn_eq_singleton oneName
  unfold components
  rw [splitOn_slash]
  rcases exists_toList_join directory name with same | ⟨before, behind⟩
  · refine ⟨[], ?_⟩
    rw [same, alone]
    simpa using visible
  · refine ⟨((before.splitOn '/').map String.ofList).filter fun part => part != "" && part != ".", ?_⟩
    rw [behind, List.splitOn_append_cons_self, alone, List.map_append, List.filter_append]
    simpa using visible

end FilePath

/-- **What is written into a directory is a JSON source.** -/
theorem sourceFormat_artifact (directory : String) :
    sourceFormat (FilePath.join directory Schema.fileName) = .ok .json := by
  obtain ⟨before, same⟩ :=
    @FilePath.exists_components_join directory Schema.fileName (by decide) (by decide)
  unfold sourceFormat SourceFormat.ofPath? FilePath.extension?
  rw [same, List.getLast?_concat]
  rfl

end PageAttributes
