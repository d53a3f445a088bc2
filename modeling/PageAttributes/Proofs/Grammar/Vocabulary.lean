/-
**Every reported place is made of the words of the grammar.**

A validator that passes over unknown keys reports nothing at them, so that a document has no say in
how the places in it are spelled.

* `IsSpoken` — the places with no other names in them than the keys of the grammar;
* `Reported.spoken` — what is reported of a part at such a place stands at such a place;
* `spoken_checkSchema`, `spoken_crossViolations` — the shape of a whole document, and its names;
* `Validator.spoken_of_validate` — all that is reported;
* `Validator.path_eq_of_display_eq` — what is reported at places that are written alike is reported at
  the same place.
-/

import PageAttributes.Proofs.Document.Display
import PageAttributes.Proofs.Grammar.Repeats
import PageAttributes.Proofs.Validation

namespace PageAttributes

namespace Grammar

/-! ### Spoken places -/

/-- All names in a place are keys of the grammar. -/
def IsSpoken (path : Path) : Prop := ∀ name, Step.field name ∈ path → name ∈ keys

/-- All violations are at such places. -/
def AllSpoken (violations : List Violation) : Prop :=
  ∀ violation ∈ violations, IsSpoken violation.path

variable {path place : Path} {fields : Fields} {key : String}

theorem spoken_root : IsSpoken .root := fun _ member => nomatch member

theorem IsSpoken.append (spoken : IsSpoken path) (spokenToo : IsSpoken place) :
    IsSpoken (path ++ place) :=
  fun name member => (List.mem_append.mp member).elim (spoken name) (spokenToo name)

theorem IsSpoken.field (spoken : IsSpoken path) (known : key ∈ keys) :
    IsSpoken (path.field key) := by
  refine spoken.append fun name member => ?_
  cases List.mem_singleton.mp member
  exact known

theorem IsSpoken.index (spoken : IsSpoken path) (position : Nat) :
    IsSpoken (path.index position) :=
  spoken.append fun _ member => nomatch List.mem_singleton.mp member

/-- The keys of the grammar are words. -/
theorem IsSpoken.isPlain (spoken : IsSpoken path) : path.IsPlain := by
  have words : ∀ key ∈ keys, Path.IsWord key := by decide
  exact fun name member => words name (spoken name member)

theorem allSpoken_append {first second : List Violation} :
    AllSpoken (first ++ second) ↔ AllSpoken first ∧ AllSpoken second := List.forall_mem_append

/-- A reason at a spoken place. -/
theorem IsSpoken.because (spoken : IsSpoken path) (reason : Reason) :
    AllSpoken [.because path reason] := List.forall_mem_singleton.mpr spoken

/-- What is reported where unknown keys are passed over stands at a spoken place, if the part
does. -/
theorem Reported.spoken {part : Document} {violation : Violation}
    (reported : Reported false path part violation) (spoken : IsSpoken path) :
    IsSpoken violation.path := by
  induction reported with
  | value => exact spoken
  | missing known => exact spoken.field known
  | unknown refused => cases refused
  | field known _ _ ih => exact ih (spoken.field known)
  | item _ _ ih => exact ih (spoken.index _)

/-- **Whatever is found in the shape of a document stands at a place of keys of the grammar.** -/
theorem spoken_checkSchema (document : Document) : AllSpoken (checkSchema false document) :=
  fun violation member =>
    ((checks_checkSchema document).reported false violation member).spoken spoken_root

/-! ### Names -/

section Names

variable {solution : Site}

/-- The records in a list under a key of the grammar. -/
theorem spoken_under (spoken : IsSpoken solution.place) (known : key ∈ keys) :
    ∀ record ∈ solution.under key, IsSpoken record.place := by
  refine forall_mem_eachItem_of fun position item record member => ?_
  cases item with
  | record fields =>
    cases List.mem_singleton.mp member
    exact (spoken.field known).index position
  | _ => cases member

/-- The texts under a key of the grammar. -/
theorem spoken_textAt (spoken : IsSpoken solution.place) (known : key ∈ keys) :
    ∀ entry ∈ solution.textAt key, IsSpoken entry.2 :=
  List.forall_mem_map.mpr fun _ _ => spoken.field known

theorem spoken_solutions (document : Document) :
    ∀ solution ∈ solutions document, IsSpoken solution.place := by
  cases document with
  | record fields =>
    rw [solutions, Site.ofDocument, List.flatMap_singleton]
    exact @spoken_under _ ⟨.root, fields⟩ spoken_root (by decide)
  | _ => exact List.forall_mem_nil _

/-- The leaves of a condition at a spoken place. -/
theorem spoken_of_leafIn {levels : Nat} {item : Document} {id : String}
    (leaf : LeafIn levels path item id place) (spoken : IsSpoken path) : IsSpoken place := by
  induction leaf with
  | leaf => exact spoken.field (by decide)
  | member _ _ _ ih => exact ih ((spoken.field (by decide)).index _)

theorem spoken_of_leafUnder {site : Site} {id : String} (under : LeafUnder site id place)
    (spoken : IsSpoken site.place) : IsSpoken place := by
  obtain ⟨position, item, _, leaf⟩ := under
  exact spoken_of_leafIn leaf ((spoken.field (by decide)).index position)

/-- A repeated id is reported at its own place. -/
theorem spoken_repeatedIds {scope : IdScope} {entries : List (String × Path)}
    (spoken : ∀ entry ∈ entries, IsSpoken entry.2) : AllSpoken (repeatedIds scope entries) := by
  intro violation member
  obtain ⟨entry, listed, _, rfl⟩ := exists_of_mem_repeatedIds member
  exact spoken entry listed

variable (spoken : IsSpoken solution.place)
include spoken

theorem spoken_attributes : ∀ declared ∈ solution.attributes, IsSpoken declared.site.place := by
  intro declared member
  have known : "attributes" ∈ keys := by decide
  obtain ⟨node, among, here⟩ := List.mem_flatMap.mp member
  have spokenNode := spoken_under spoken known node among
  unfold declaredIn at here
  split at here
  · cases List.mem_singleton.mp here
    exact spokenNode
  · split at here
    · obtain ⟨inside, within, rfl⟩ := List.mem_map.mp here
      exact spoken_under spokenNode known inside (List.mem_of_mem_filter within)
    · cases here

theorem spoken_leaves : ∀ leaf ∈ solution.leaves, IsSpoken leaf.place := by
  intro leaf member
  cases (Site.mem_leaves_iff solution leaf).mp member with
  | inAttribute among _ under => exact spoken_of_leafUnder under (spoken_attributes spoken _ among)
  | inGroup among _ under => exact spoken_of_leafUnder under (spoken_under spoken (by decide) _ among)

/-- The attributes in the index of a solution. -/
theorem spoken_indexed : ∀ entry ∈ solution.index.attributes, IsSpoken entry.path := by
  refine forall_mem_of_forall₂ (SolutionIndex.lists_index solution).attributes ?_ fun declared among =>
    spoken_attributes spoken declared (List.mem_of_mem_filter among)
  exact fun entry declared depicts there => depicts.place ▸ there

/-- The references in the index of a solution. -/
theorem spoken_references : ∀ reference ∈ solution.index.references, IsSpoken reference.path := by
  refine forall_mem_of_forall₂ (SolutionIndex.lists_index solution).leaves ?_ (spoken_leaves spoken)
  exact fun reference leaf depicts there => depicts.place ▸ there

/-- What is wrong with the names in a solution. -/
theorem spoken_violations (detectCycles : Bool) :
    AllSpoken (solution.index.violations detectCycles) := by
  intro violation member
  rcases SolutionIndex.mem_violations member with scripts | attributes | references | cycles
  · refine spoken_repeatedIds ?_ violation scripts
    rw [scripts_index]
    intro entry listed
    obtain ⟨script, among, here⟩ := List.mem_flatMap.mp listed
    exact spoken_textAt (spoken_under spoken (by decide) script among) (by decide) entry here
  · refine spoken_repeatedIds ?_ violation attributes
    exact List.forall_mem_map.mpr fun entry listed =>
      (spoken_indexed spoken entry listed).field (by decide)
  · obtain ⟨reference, listed, _, _, rfl⟩ := SolutionIndex.exists_of_mem_references references
    exact spoken_references spoken reference listed
  · obtain ⟨entry, listed, _, rfl⟩ := SolutionIndex.exists_of_mem_cycles cycles
    exact (spoken_indexed spoken entry listed).field (by decide)

end Names

/-- **What is wrong with the names in a document stands at a place of keys of the grammar.** -/
theorem spoken_crossViolations (detectCycles : Bool) (document : Document) :
    AllSpoken (crossViolations detectCycles document) := by
  refine allSpoken_append.mpr ⟨spoken_repeatedIds ?_, fun violation member => ?_⟩
  · rw [solutionIds_eq]
    intro entry listed
    obtain ⟨solution, among, here⟩ := List.mem_flatMap.mp listed
    exact spoken_textAt (spoken_solutions document solution among) (by decide) entry here
  · obtain ⟨index, listed, inside⟩ := List.mem_flatMap.mp member
    rw [solutionIndexes_eq] at listed
    obtain ⟨solution, among, rfl⟩ := List.mem_map.mp listed
    exact spoken_violations (spoken_solutions document solution among) detectCycles violation inside

end Grammar

namespace Validator

open Grammar

variable {validator other : Validator} {document candidate : Document}
  {reported others : List Violation}

/-- **Every place that a validator reports, if it passes over unknown keys, is made of keys of the
grammar**, whatever the document is. -/
theorem spoken_of_validate (lenient : validator.strict = false)
    (refused : validator.validate document = .error reported) : AllSpoken reported := by
  have all : AllSpoken (validator.violations document) := by
    rw [violations, lenient]
    exact allSpoken_append.mpr
      ⟨spoken_checkSchema document, spoken_crossViolations validator.detectCycles document⟩
  unfold validate at refused
  split at refused
  · split at refused
    · cases refused
    · cases refused
      exact spoken_root.because _
  · rename_i found
    cases refused
    rwa [found] at all

/-- **Two reported places that are written alike are the same, step by step**, for validators that
pass over unknown keys. The documents need not be the same, nor well-formed in any way. -/
theorem path_eq_of_display_eq (lenient : validator.strict = false) (lenientToo : other.strict = false)
    (refused : validator.validate document = .error reported)
    (refusedToo : other.validate candidate = .error others) {violation second : Violation}
    (member : violation ∈ reported) (memberToo : second ∈ others)
    (same : violation.path.display = second.path.display) : violation.path = second.path := by
  have plain := (spoken_of_validate lenient refused violation member).isPlain
  have plainToo := (spoken_of_validate lenientToo refusedToo second memberToo).isPlain
  exact Path.display_injOn plain plainToo same

/-- Two pages without a title, one of them with an unknown key whose place would be written like that
of a name inside of another one. -/
theorem path_eq_of_display_eq_untitledPages : ∃ reported others,
    validate {} (.record [("id", .text "page"), ("solutions", .list [.null])]) = .error reported
    ∧ validate ⟨false, false⟩ (.record [("a.b", .null), ("id", .text "page"), ("name", .null),
        ("solutions", .list [.null])]) = .error others
    ∧ ∀ violation ∈ reported, ∀ second ∈ others,
        violation.path.display = second.path.display → violation.path = second.path := by
  let reported : List Violation := [.because [.field "name"] .missingField,
    .because [.field "solutions", .index 0] (.wrongKind "object" "null")]
  let others : List Violation := [.because [.field "name"] (.wrongKind "string" "null"),
    .because [.field "solutions", .index 0] (.wrongKind "object" "null")]
  have refused : validate {} (.record [("id", .text "page"), ("solutions", .list [.null])])
      = .error reported := rfl
  have refusedToo : validate ⟨false, false⟩ (.record [("a.b", .null), ("id", .text "page"),
      ("name", .null), ("solutions", .list [.null])]) = .error others := rfl
  exact ⟨reported, others, refused, refusedToo, fun _ member _ memberToo =>
    path_eq_of_display_eq rfl rfl refused refusedToo member memberToo⟩

end Validator

end PageAttributes
