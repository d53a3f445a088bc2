/-
**Names that repeat are reported, each with its first occurrence.**

In a scope the names have to differ from each other. Two walks look for repetitions: the one over
the choices of a dropdown remembers every choice, the one over ids only those that are new.

* `repeatedAfter_eq` — the walk over ids reports the repetitions, as the walk over choices does
  (`checks_checkOptions`);
* `nodup_entries` — no two names in a scope stand at the same place;
* `Validator.reported_repeats` — of the violations of a document, those of uniqueness are the
  repetitions in its scopes.
-/

import PageAttributes.Proofs.Grammar.Listing
import PageAttributes.Proofs.Grammar.Kinds
import PageAttributes.Proofs.Isolation

namespace PageAttributes

namespace Grammar

/-! ### Walks over ids -/

/-- Ids are remembered only when they are new; that is enough to find what came first. -/
theorem repeatedAfter_eq (scope : IdScope) (entries : List (String × Path)) :
    ∀ {seen before : List (String × Path)}, (∀ id, seen.lookup id = before.lookup id) →
      repeatedAfter scope seen entries = repetitions (.repeatedId scope) before entries := by
  induction entries with
  | nil => exact fun _ => rfl
  | cons entry rest ih =>
    intro seen before same
    obtain ⟨id, path⟩ := entry
    unfold repeatedAfter repetitions repetition?
    rw [← same]
    cases known : seen.lookup id with
    | some first =>
      -- The id is not remembered again, but its first occurrence still comes before the others.
      have kept : ∀ other, seen.lookup other = (before ++ [(id, path)]).lookup other := by
        intro other
        rw [List.lookup_append, ← same, lookup_field, List.lookup_nil]
        split
        · rename_i again
          rw [← again, known, Option.some_or]
        · exact Option.or_none.symm
      rw [ih kept]
      rfl
    | none =>
      have both : ∀ other, (seen ++ [(id, path)]).lookup other
          = (before ++ [(id, path)]).lookup other := by
        intro other
        rw [List.lookup_append, List.lookup_append, same]
      rw [ih both]
      rfl

theorem repeatedIds_eq (scope : IdScope) (entries : List (String × Path)) :
    repeatedIds scope entries = (Scope.ids scope entries).repeats := by
  rw [Scope.repeats_eq]
  exact repeatedAfter_eq scope entries fun _ => rfl

/-! ### Scopes in an index -/

/-- The ids of the attributes that are listed. -/
theorem map_eq_flatMap_textAt {places : List Path} {entries : List AttributeEntry}
    {declared : List Declared}
    (depict : List.Forall₂ (SolutionIndex.DepictsAttribute places) entries declared) :
    entries.map (fun entry => (entry.id, entry.path.field "id"))
      = declared.flatMap fun one => one.site.textAt "id" := by
  induction depict with
  | nil => rfl
  | @cons entry one entries declared depicts _ ih =>
    have named : textOf? one.site.fields "id" = some entry.id := depicts.id
    rw [List.map_cons, List.flatMap_cons, ih, Site.textAt, named, depicts.place]
    rfl

theorem attributeIds_index (solution : Site) :
    solution.index.attributeIds = solution.attributeIds := by
  have lists := SolutionIndex.lists_index solution
  rw [SolutionIndex.attributeIds, map_eq_flatMap_textAt lists.attributes, flatMap_filter,
    Site.attributeIds]
  congr 1
  funext one
  cases named : one.id? with
  | some id => rfl
  | none =>
    rw [Site.textAt, show textOf? one.site.fields "id" = none from named]
    rfl

theorem scripts_index (solution : Site) : solution.index.scripts = solution.scriptIds := by
  rw [Site.index, SolutionIndex.scripts_ofFields, Site.scriptIds, flatMap_under]
  congr 1
  funext place item
  cases item with
  | record fields =>
    rw [Site.ofDocument, List.flatMap_singleton, SolutionIndex.scriptId, Site.textAt]
    cases textOf? fields "id" <;> rfl
  | _ => rfl

theorem solutionIndexes_eq (document : Document) :
    solutionIndexes document = (solutions document).map Site.index := by
  cases document with
  | record fields =>
    rw [solutions, Site.ofDocument, List.flatMap_singleton, List.map_eq_flatMap, flatMap_under,
      solutionIndexes]
    show eachItem _ _ _ _ = _
    congr 1
    funext place item
    cases item <;> rfl
  | _ => rfl

theorem solutionIds_eq (document : Document) :
    solutionIds document = (solutions document).flatMap fun solution => solution.textAt "id" := by
  rw [solutionIds, solutionIndexes_eq, List.filterMap_map, List.filterMap_eq_flatMap_toList]
  congr 1
  funext solution
  rw [Function.comp_apply, Site.index, SolutionIndex.id_ofFields, SolutionIndex.path_ofFields,
    Site.textAt]
  cases textOf? solution.fields "id" <;> rfl

/-! ### Places of entries -/

theorem inside_textAt (key : String) (site : Site) :
    ∀ entry ∈ site.textAt key, site.place <+: entry.2 :=
  List.forall_mem_map.mpr fun _ _ => List.prefix_append _ _

theorem nodup_textAt (key : String) (site : Site) : ((site.textAt key).map Prod.snd).Nodup := by
  unfold Site.textAt
  cases textOf? site.fields key with
  | none => exact List.nodup_nil
  | some value => exact List.nodup_singleton _

/-- **No two entries of a scope stand at the same place.** -/
theorem nodup_entries {document : Document} :
    ∀ scope ∈ scopes document, (scope.entries.map Prod.snd).Nodup := by
  unfold scopes
  refine List.forall_mem_append.mpr ⟨List.forall_mem_append.mpr ⟨?_, ?_⟩, ?_⟩
  · intro scope member
    obtain ⟨solution, _, choices⟩ := List.mem_flatMap.mp member
    obtain ⟨dropdown, _, rfl⟩ := List.mem_map.mp choices
    exact nodup_map_under (inside_textAt _) (nodup_textAt _) dropdown "options"
  · refine List.forall_mem_singleton.mpr ?_
    exact nodup_map_solutions (inside_textAt _) (nodup_textAt _) document
  · intro scope member
    obtain ⟨solution, _, ids⟩ := List.mem_flatMap.mp member
    rcases List.mem_pair.mp ids with rfl | rfl
    · exact nodup_map_under (inside_textAt _) (nodup_textAt _) solution "scripts"
    · exact nodup_map_attributes (fun declared => inside_textAt _ declared.site)
        (fun declared => nodup_textAt _ declared.site) solution

/-! ### Violations of a document -/

/-- In the shape of a document the choices of dropdowns are looked at for repetitions. -/
theorem filter_compares_checkSchema (strict : Bool) (document : Document) :
    (checkSchema strict document).filter Violation.compares
      = (solutions document).flatMap fun solution =>
          (dropdowns solution.attributes).flatMap fun dropdown =>
            (Scope.choices dropdown.choices).repeats := by
  rw [(checks_checkSchema document).compared strict]
  simp only [dropdowns, flatMap_filter, List.flatMap_map, Site.repeatedChoices]

/-- Violations that compare names are among those of their kind. -/
theorem ofKind_filter_compares {kind : ViolationKind}
    (compared : kind = .referential ∨ kind = .uniqueness) (found : List Violation) :
    Violations.ofKind (found.filter Violation.compares) kind = Violations.ofKind found kind := by
  unfold Violations.ofKind
  rw [List.filter_filter]
  refine List.filter_congr fun violation _ => ?_
  unfold Violation.compares
  rcases compared with rfl | rfl <;> cases violation.kind <;> rfl

@[simp] theorem ofKind_repeats (scope : Scope) :
    Violations.ofKind scope.repeats .uniqueness = scope.repeats :=
  ofKind_eq_self fun _ member => Scope.kind_of_mem_repeats member

/-- Names in solutions that repeat, of all that is wrong with names. -/
theorem ofKind_crossViolations (detectCycles : Bool) (document : Document) :
    Violations.ofKind (crossViolations detectCycles document) .uniqueness
      = (Scope.ids .solution ((solutions document).flatMap fun solution =>
            solution.textAt "id")).repeats
        ++ (solutions document).flatMap fun solution =>
          (Scope.ids .script solution.scriptIds).repeats
            ++ (Scope.ids .attribute solution.attributeIds).repeats := by
  rw [crossViolations, ofKind_append, ofKind_flatMap, solutionIndexes_eq, List.flatMap_map]
  simp only [SolutionIndex.ofKind_uniqueness_violations, repeatedIds_eq, scripts_index,
    attributeIds_index, solutionIds_eq, ofKind_repeats]

end Grammar

namespace Validator

open Grammar

/-- What is reported are the violations, or something about the shape of the document. -/
theorem ofKind_reported (validator : Validator) (document : Document) {kind : ViolationKind}
    (other : kind ≠ .structural) :
    Violations.ofKind (validator.reported document) kind
      = Violations.ofKind (validator.violations document) kind := by
  unfold reported validate
  cases validator.violations document with
  | cons first rest => rfl
  | nil =>
    dsimp only
    split
    · rfl
    · rename_i found refused
      split at refused
      · cases refused
      · cases refused
        exact ofKind_eq_nil (List.forall_mem_singleton.mpr rfl) other.symm

/-- **Exactly the names that appear earlier in their scope are reported as repeated, each once, at
its own place and with the place of the first occurrence.** No two names of a scope stand at the
same place, so that there is one violation for each of them and no other violation of uniqueness. On
the same names the walk over the choices of a dropdown and the walk over ids report the same. -/
theorem reported_repeats (validator : Validator) (document : Document) :
    Violations.ofKind (validator.reported document) .uniqueness
        = (scopes document).flatMap Scope.repeats
      ∧ (∀ scope ∈ scopes document, (scope.entries.map Prod.snd).Nodup)
      ∧ ∀ (strict : Bool) (dropdown : Site) (scope : IdScope),
        (Violations.ofKind (checkOptions strict dropdown.fields dropdown.place) .uniqueness).map
            Violation.repetition
          = (repeatedIds scope dropdown.choices).map Violation.repetition := by
  refine ⟨?_, nodup_entries, ?_⟩
  · rw [ofKind_reported validator document (by decide), violations, ofKind_append,
      ← ofKind_filter_compares (Or.inr rfl), filter_compares_checkSchema,
      ofKind_crossViolations, scopes]
    simp [ofKind_flatMap, List.flatMap_map, List.flatMap_assoc]
  · intro strict dropdown scope
    rw [← ofKind_filter_compares (Or.inr rfl), checks_checkOptions.compared strict,
      ofKind_repeats, repeatedIds_eq, Scope.map_repetition_repeats fun _ _ _ => rfl,
      Scope.map_repetition_repeats fun _ _ _ => rfl]
    rfl

end Validator

end PageAttributes
