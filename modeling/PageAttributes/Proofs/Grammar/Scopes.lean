/-
**Names that have to differ from each other.**

In a scope no name may appear twice. Every name that an earlier one has too is a violation, which
refers to the first of them.

* `Scope`, `Scope.repeats` — names with their places, and the violations of those that repeat;
* `scopes` — the choices of every dropdown, the ids of the solutions, and for every solution those
  of its scripts and of its attributes;
* `repetitions`, `Scope.repeats_eq` — the same violations, one name after another.
-/

import PageAttributes.Proofs.Grammar.Sites

namespace PageAttributes

/-- What is reported of a repetition: its place, the value, and the place of the first
occurrence. -/
def Violation.repetition (violation : Violation) : Path × Option (String × Path) :=
  (violation.path, match violation.reason with
    | .repeatedChoice value first => some (value, first)
    | .repeatedId _ id first => some (id, first)
    | _ => none)

namespace Grammar

/-! ### Scopes -/

/-- The violation of an entry, if some entries before it have the same name; it refers to the first
of them. -/
def repetition? (reason : String → Path → Reason) (before : List (String × Path))
    (entry : String × Path) : Option Violation :=
  (before.lookup entry.1).map fun first => .because entry.2 (reason entry.1 first)

/-- Names that have to differ from each other, with their places, and what is wrong with a name that
appeared before. -/
structure Scope where
  reason : String → Path → Reason
  unique : ∀ value first, (reason value first).kind = .uniqueness
  entries : List (String × Path)

namespace Scope

/-- The violation of every entry that has the name of an earlier one. -/
def repeats (scope : Scope) : List Violation :=
  scope.entries.zipIdx.filterMap fun (entry, position) =>
    repetition? scope.reason (scope.entries.take position) entry

/-- Choices of a dropdown. -/
def choices (entries : List (String × Path)) : Scope := ⟨.repeatedChoice, fun _ _ => rfl, entries⟩

/-- Ids of some kind. -/
def ids (scope : IdScope) (entries : List (String × Path)) : Scope :=
  ⟨.repeatedId scope, fun _ _ => rfl, entries⟩

end Scope

/-- The values of the choices of a dropdown. -/
def Site.choices (dropdown : Site) : List (String × Path) :=
  (dropdown.under "options").flatMap fun choice => choice.textAt "attributeValue"

/-- The ids of the scripts of a solution. -/
def Site.scriptIds (solution : Site) : List (String × Path) :=
  (solution.under "scripts").flatMap fun script => script.textAt "id"

/-- The ids of the attributes of a solution. -/
def Site.attributeIds (solution : Site) : List (String × Path) :=
  solution.attributes.flatMap fun declared => declared.site.textAt "id"

/-- All scopes of a document. -/
def scopes (document : Document) : List Scope :=
  ((solutions document).flatMap fun solution =>
      (dropdowns solution.attributes).map fun dropdown => .choices dropdown.choices)
    ++ [.ids .solution ((solutions document).flatMap fun solution => solution.textAt "id")]
    ++ (solutions document).flatMap fun solution =>
      [.ids .script solution.scriptIds, .ids .attribute solution.attributeIds]

/-! ### Walks over a scope -/

/-- The repetitions among some entries, which stand behind others. -/
def repetitions (reason : String → Path → Reason) (before : List (String × Path)) :
    List (String × Path) → List Violation
  | [] => []
  | entry :: rest =>
    (repetition? reason before entry).toList ++ repetitions reason (before ++ [entry]) rest

/-- Entries may be looked at one by one. -/
theorem filterMap_zipIdx_eq (reason : String → Path → Reason) (rest : List (String × Path)) :
    ∀ before, (rest.zipIdx before.length).filterMap (fun (entry, position) =>
        repetition? reason ((before ++ rest).take position) entry)
      = repetitions reason before rest := by
  induction rest with
  | nil => exact fun _ => rfl
  | cons entry rest ih =>
    intro before
    have later := ih (before ++ [entry])
    rw [List.append_assoc, List.singleton_append, List.length_append,
      List.length_singleton] at later
    rw [List.zipIdx_cons, repetitions, ← later, List.filterMap_cons]
    simp only [List.take_left]
    cases repetition? reason before entry <;> rfl

namespace Scope

theorem repeats_eq (scope : Scope) :
    scope.repeats = repetitions scope.reason [] scope.entries :=
  filterMap_zipIdx_eq scope.reason scope.entries []

/-- Every repetition refers to the first occurrence, and not to the one before it. -/
example : (ids .script [("a", [.index 0]), ("b", [.index 1]), ("a", [.index 2]),
      ("a", [.index 3])]).repeats
    = [.because [.index 2] (.repeatedId .script "a" [.index 0]),
      .because [.index 3] (.repeatedId .script "a" [.index 0])] := rfl

/-- Every repetition is a violation of uniqueness. -/
theorem kind_of_mem_repeats {scope : Scope} {violation : Violation}
    (member : violation ∈ scope.repeats) : violation.kind = .uniqueness := by
  obtain ⟨_, _, found⟩ := List.mem_filterMap.mp member
  obtain ⟨first, _, rfl⟩ := Option.map_eq_some_iff.mp found
  exact scope.unique _ first

/-- The places of repetitions and of what they repeat depend on the entries alone. -/
theorem map_repetition_repeats {scope : Scope} (worded : ∀ path value first,
      (Violation.because path (scope.reason value first)).repetition
        = (path, some (value, first))) :
    scope.repeats.map Violation.repetition
      = scope.entries.zipIdx.filterMap fun (entry, position) =>
          ((scope.entries.take position).lookup entry.1).map fun first =>
            (entry.2, some (entry.1, first)) := by
  rw [repeats, List.map_filterMap]
  simp only [repetition?, Option.map_map, Function.comp_def, worded]

end Scope

end Grammar

end PageAttributes
