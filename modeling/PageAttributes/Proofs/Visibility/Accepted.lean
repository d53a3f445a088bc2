/-
**An accepted solution can be resolved.**

* `Catalog.Halts.full`, `Catalog.tooLong_of_justified` — where conditions read only declared
  attributes, in no cycle and not too deep, an error can only tell of too many nodes;
* `Validator.exists_validNames_of_validate` — the names in an accepted solution are valid;
* `Validator.keeps_of_validate` — so its conditions are such, if cycles are looked for;
* `Validator.resolve_of_validate` — the resolver reports something of such a solution unless too
  many nodes wait for one another, and always if there are not that many.
-/

import PageAttributes.Proofs.Validation
import PageAttributes.Proofs.Visibility.Waiting

namespace PageAttributes

open Grammar

namespace Catalog

variable {catalog : Catalog}

/-- What the conditions of a sound catalog read is declared. -/
theorem position?_ne_none (sound : catalog.outline.Sound) {node : Node} {id : String}
    (read : id ∈ catalog.readsOf node) : catalog.position? id ≠ none := by
  have declared : id ∈ catalog.outline.ids := by
    match node with
    | .attribute position =>
      cases there : catalog.attributes[position]? with
      | none => simp [readsOf, conditionsOf, there, Condition.allLeafIds] at read
      | some entry => exact Outline.mem_ids_of_reads sound (reads_of_own there read)
    | .group number =>
      rw [← groupReads_outline] at read
      exact (sound.gathered number id read).1
  intro unknown
  rw [position?, List.findIdx?_eq_none_iff] at unknown
  rw [Outline.ids, outline, List.map_map, List.mem_map] at declared
  obtain ⟨entry, member, same⟩ := declared
  exact beq_eq_false_iff_ne.mp (unknown entry member) same

/-- Conditions of a shallow catalog are not too deep. -/
theorem IsShallow.levels_le (shallow : catalog.IsShallow) (node : Node) :
    Condition.allLevels (catalog.conditionsOf node) ≤ Condition.depthLimit := by
  match node with
  | .attribute position =>
    cases there : catalog.attributes[position]? with
    | none => simp [conditionsOf, there, Condition.allLevels]
    | some entry =>
      rw [conditionsOf, there]
      exact shallow.attributes entry (List.mem_of_getElem? there)
  | .group number =>
    cases there : catalog.groups[number]? with
    | none => simp [conditionsOf, there, Condition.allLevels]
    | some group =>
      rw [conditionsOf, there]
      exact shallow.groups group (List.mem_of_getElem? there)

/-- Where conditions read only declared attributes, in no cycle and not too deep, the resolver stops
only with a full stack. -/
theorem Halts.full {assignment : Assignment} {kind : Option NodeType} {session : Session}
    (sound : catalog.outline.Sound) (acyclic : catalog.outline.Acyclic)
    (shallow : catalog.IsShallow) {error : VisibilityError}
    (halts : catalog.Halts assignment kind error session) :
    error = .tooDeep chainLimit ∧ session.stack.length = chainLimit
      ∧ ∃ node, session.progress node = .pending
        ∧ catalog.Waits (session.stack.reverse ++ [node]) := by
  cases error with
  | cycle labels =>
    obtain ⟨node, cyclic⟩ := halts.cyclic
    exact (not_cyclic_of_acyclic acyclic node cyclic).elim
  | unknownAttribute id =>
    have justified := halts.justified
    cases justified with
    | unknownAttribute _ node read unknown => exact (position?_ne_none sound read unknown).elim
  | tooDeep limit =>
    rcases halts.tooDeep with ⟨_, node, deep⟩ | ⟨rfl, full⟩
    · exact absurd (shallow.levels_le node) (Nat.not_le_of_lt deep)
    · exact ⟨rfl, full⟩

/-- Where conditions read only declared attributes, in no cycle and not too deep, an error can only
tell of too many nodes. -/
theorem tooLong_of_justified {assignment : Assignment} {kind : Option NodeType}
    (sound : catalog.outline.Sound) (acyclic : catalog.outline.Acyclic)
    (shallow : catalog.IsShallow) {error : VisibilityError}
    (justified : ∃ session, catalog.Halts assignment kind error session) :
    error = .tooDeep chainLimit
      ∧ chainLimit < catalog.attributes.length + catalog.groups.length := by
  obtain ⟨session, halts⟩ := justified
  obtain ⟨same, full, node, _, waits⟩ := halts.full sound acyclic shallow
  exact ⟨same, waits.chainLimit_lt full⟩

end Catalog

namespace Validator

variable {validator : Validator} {document : Document} {schema : Schema} {solution : Solution}

/-- Nothing is found in a document whose schema is accepted, and the schema is what it spells. -/
theorem accepted_of_validate (accepted : validator.validate document = .ok schema) :
    validator.violations document = [] ∧ Schema.ofDocument .tree document = .ok schema := by
  unfold validate at accepted
  split at accepted
  · rename_i nothing
    refine ⟨nothing, ?_⟩
    split at accepted
    · rename_i typed readable
      cases accepted
      exact readable
    · cases accepted
  · cases accepted

/-- An accepted solution keeps the outline of a record with valid names. -/
theorem exists_validNames_of_validate (canonical : document.IsCanonical)
    (accepted : validator.validate document = .ok schema) (member : solution ∈ schema.solutions) :
    ∃ fields, solution.Keeps fields ∧ ValidNames validator.detectCycles fields := by
  obtain ⟨nothing, readable⟩ := accepted_of_validate accepted
  obtain ⟨fields, again, rfl, readable', kept⟩ := exists_schema canonical nothing
  cases readable.symm.trans readable'
  obtain ⟨shape, names⟩ := List.append_eq_nil_iff.mp nothing
  obtain ⟨_, ⟨⟩, _, valid⟩ :=
    (crossViolations_eq_nil_iff ((checkSchema_eq_nil_iff _).mp shape)).mp names
  obtain ⟨its, listed, kept⟩ := kept.of_mem member
  obtain ⟨_, ⟨⟩, valid⟩ := valid _ listed
  exact ⟨its, kept, valid⟩

/-- The conditions of an accepted solution read only declared attributes, in no cycle and not too
deep. -/
theorem keeps_of_validate (canonical : document.IsCanonical)
    (detects : validator.detectCycles = true) (accepted : validator.validate document = .ok schema)
    (member : solution ∈ schema.solutions) :
    (Catalog.ofSolution solution).outline.Sound ∧ (Catalog.ofSolution solution).outline.Acyclic
      ∧ (Catalog.ofSolution solution).IsShallow := by
  obtain ⟨fields, kept, valid⟩ := exists_validNames_of_validate canonical accepted member
  rw [kept.outline]
  exact ⟨valid.sound, valid.acyclic detects, kept.shallow⟩

/-- **An accepted solution can be resolved**, unless more than 256 attributes and groups wait for
one another. -/
theorem resolve_of_validate (canonical : document.IsCanonical)
    (detects : validator.detectCycles = true) (accepted : validator.validate document = .ok schema)
    (member : solution ∈ schema.solutions) (assignment : Assignment) (kind : Option NodeType) :
    ((∃ report, solution.resolve assignment kind = .ok report)
        ∨ solution.resolve assignment kind = .error (.tooDeep 256))
      ∧ (solution.flat.length + solution.groups.length ≤ 256 →
          ∃ report, solution.resolve assignment kind = .ok report) := by
  obtain ⟨sound, acyclic, shallow⟩ := keeps_of_validate canonical detects accepted member
  cases resolved : solution.resolve assignment kind with
  | ok report => exact ⟨Or.inl ⟨report, rfl⟩, fun _ => ⟨report, rfl⟩⟩
  | error error =>
    have justified := Catalog.justified_of_resolve (Catalog.isNumbered_ofSolution solution) resolved
    obtain ⟨rfl, many⟩ := Catalog.tooLong_of_justified sound acyclic shallow justified
    rw [Catalog.length_attributes_ofSolution] at many
    exact ⟨Or.inr rfl, fun few => absurd few (Nat.not_le_of_lt many)⟩

/-- The solution of a page whose width may be set once it is wide is resolved. -/
theorem resolve_of_validate_widthPage :
    ∃ report, widthSolution.resolve ⟨[("wide", .text "yes")]⟩ none = .ok report :=
  (resolve_of_validate isCanonical_widthPage rfl validate_widthPage (.head _)
    ⟨[("wide", .text "yes")]⟩ none).2 (by decide)

end Validator

end PageAttributes
