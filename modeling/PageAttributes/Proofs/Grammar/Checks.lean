/-
**What a check of a part may report.**

* `Reported` — what may be reported of the part at a place: something about it, a key of the grammar
  that it lacks, a key that it should not have, or what may be reported of a field or an item of it;
* `Reported.inside`, `Reported.located`, `Reported.not_cycle` — where that stands, and that it is no
  cycle;
* `Checks` — a check of a part reports no more than that, leaves out unknown keys and nothing else if
  it passes over them, and compares some names;
* `Checks.append`, `Checks.field`, `checks_items`, `checks_inRecord` — a check that is made of others;
* `FieldCheck` — the check of a single field: it finds nothing, or one thing about the field.
-/

import PageAttributes.Proofs.Grammar.Places
import PageAttributes.Proofs.Grammar.Scopes
import PageAttributes.Proofs.Grammar.Wording

namespace PageAttributes

/-- The reason says something about a value that is there, whatever the options are. -/
def Reason.isAboutValue : Reason → Bool
  | .missingField => false
  | reason => reason.isSteady

theorem Reason.isSteady_of_isAboutValue {reason : Reason} (about : reason.isAboutValue = true) :
    reason.isSteady = true := by
  cases reason <;> first | exact about | rfl

/-- A violation comes from comparing names. -/
def Violation.compares (violation : Violation) : Bool :=
  violation.kind == .referential || violation.kind == .uniqueness

namespace Grammar

variable {strict : Bool} {document part : Document} {path : Path} {fields : Fields}
  {key : String} {violation : Violation}

/-! ### Reports -/

/-- All keys of the grammar. -/
def keys : List String :=
  schemaKeys ++ solutionKeys ++ scriptKeys ++ groupKeys ++ attributeKeys ++ choiceKeys
    ++ conditionGroupKeys ++ leafKeys

/-- What may be reported of the part at a place: something about it, a key of the grammar that it
lacks, a key that it should not have, or what may be reported of a field or an item of it. -/
inductive Reported (strict : Bool) : Path → Document → Violation → Prop
  | value {path : Path} {part : Document} {reason : Reason} (about : reason.isAboutValue = true) :
    Reported strict path part (.because path reason)
  | missing {path : Path} {fields : Fields} {key : String} (known : key ∈ keys)
      (lacks : fields.lookup key = none) :
    Reported strict path (.record fields) (.because (path.field key) .missingField)
  | unknown {path : Path} {fields : Fields} {key : String} {value : Document}
      (refused : strict = true) (there : fields.lookup key = some value) :
    Reported strict path (.record fields) (.because (path.field key) .unrecognizedField)
  | field {path : Path} {fields : Fields} {key : String} {value : Document}
      {violation : Violation} (known : key ∈ keys) (there : fields.lookup key = some value)
      (inner : Reported strict (path.field key) value violation) :
    Reported strict path (.record fields) violation
  | item {path : Path} {items : List Document} {position : Nat} {item : Document}
      {violation : Violation} (there : items[position]? = some item)
      (inner : Reported strict (path.index position) item violation) :
    Reported strict path (.list items) violation

/-- What is reported of a part stands inside of it. -/
theorem Reported.inside (reported : Reported strict path part violation) :
    path <+: violation.path := by
  induction reported with
  | value => exact List.prefix_refl _
  | missing => exact List.prefix_append _ _
  | unknown => exact List.prefix_append _ _
  | field _ _ _ ih => exact (List.prefix_append _ _).trans ih
  | item _ _ ih => exact (List.prefix_append _ _).trans ih

/-- What is reported of a part points at something in the document. -/
theorem Reported.located (reported : Reported strict path part violation)
    (here : document.at? path = some part) : Located document violation := by
  induction reported with
  | @value _ _ reason about =>
    have there := isThere_of_at? here
    cases reason with
    | missingField => cases about
    | cycle => cases about
    | _ => exact there
  | missing _ lacks => exact ⟨_, _, _, rfl, here, lacks⟩
  | unknown _ there => exact isThere_field here there
  | field _ there _ ih => exact ih ((Document.at?_field here _).trans there)
  | item there _ ih => exact ih ((Document.at?_index here _).trans there)

/-- No cycle is reported of a part. -/
theorem Reported.not_cycle (reported : Reported strict path part violation) :
    violation.reason.reportsCycle = false := by
  induction reported with
  | value about => exact (Reason.wording_of_isSteady (Reason.isSteady_of_isAboutValue about)).2
  | missing => exact (Reason.wording_of_isSteady rfl).2
  | unknown => exact Reason.wording_unrecognizedField.2
  | field _ _ _ ih => exact ih
  | item _ _ ih => exact ih

/-! ### Checks -/

/-- What a check of the part at a place reports. If it passes over unknown keys, it leaves them out
and nothing else; and of names it reports some that repeat. -/
structure Checks (path : Path) (part : Document) (check : Bool → List Violation)
    (repeated : List Violation) : Prop where
  reported : ∀ strict, ∀ violation ∈ check strict, Reported strict path part violation
  kept : check false
    = (check true).filter fun violation => !violation.reason.reportsUnknownKey
  compared : ∀ strict, (check strict).filter Violation.compares = repeated

variable {check checkToo : Bool → List Violation} {repeated repeatedToo : List Violation}

theorem checks_nil : Checks path part (fun _ => []) [] :=
  ⟨fun _ => List.forall_mem_nil _, rfl, fun _ => rfl⟩

/-- One check after another. -/
theorem Checks.append (first : Checks path part check repeated)
    (second : Checks path part checkToo repeatedToo) :
    Checks path part (fun strict => check strict ++ checkToo strict)
      (repeated ++ repeatedToo) where
  reported strict := List.forall_mem_append.mpr ⟨first.reported strict, second.reported strict⟩
  kept := by rw [List.filter_append, ← first.kept, ← second.kept]
  compared strict := by rw [List.filter_append, first.compared, second.compared]

/-- A check that compares no names, and another one after it. -/
theorem Checks.before (first : Checks path part check [])
    (second : Checks path part checkToo repeated) :
    Checks path part (fun strict => check strict ++ checkToo strict) repeated :=
  first.append second

/-- The check of a field is a check of the record. -/
theorem Checks.field {value : Document} (checks : Checks (path.field key) value check repeated)
    (known : key ∈ keys) (there : fields.lookup key = some value) :
    Checks path (.record fields) check repeated :=
  ⟨fun strict violation member => .field known there (checks.reported strict violation member),
    checks.kept, checks.compared⟩

/-- The check of an item is a check of the list. -/
theorem Checks.item {items : List Document} {position : Nat} {item : Document}
    (checks : Checks (path.index position) item check repeated)
    (there : items[position]? = some item) : Checks path (.list items) check repeated :=
  ⟨fun strict violation member => .item there (checks.reported strict violation member),
    checks.kept, checks.compared⟩

/-- A single violation, for a reason that has nothing to do with the options. -/
theorem checks_singleton {place : Path} {reason : Reason} (steady : reason.isSteady = true)
    (reported : ∀ strict, Reported strict path part (.because place reason)) :
    Checks path part (fun _ => [.because place reason])
      ([Violation.because place reason].filter Violation.compares) where
  reported strict := List.forall_mem_singleton.mpr (reported strict)
  kept := by
    rw [List.filter_singleton, Violation.because, (Reason.wording_of_isSteady steady).1]
    rfl
  compared _ := rfl

/-- Something is wrong with a part. -/
theorem checks_because {reason : Reason} (about : reason.isAboutValue = true) :
    Checks path part (fun _ => [.because path reason])
      ([Violation.because path reason].filter Violation.compares) :=
  checks_singleton (Reason.isSteady_of_isAboutValue about) fun _ => .value about

theorem checks_wrongKind {expected : String} {found : Document} :
    Checks path part (fun _ => wrongKind path expected found) [] :=
  checks_because rfl

/-! ### Single fields -/

/-- What the check of a single field finds: nothing, something about its value that compares no
names, or that it is missing. -/
inductive FieldCheck (path : Path) (fields : Fields) (key : String) : List Violation → Prop
  | fine : FieldCheck path fields key []
  | wrong {value : Document} {reason : Reason} (there : fields.lookup key = some value)
      (about : reason.isAboutValue = true)
      (quiet : (Violation.because (path.field key) reason).compares = false) :
    FieldCheck path fields key [.because (path.field key) reason]
  | missing (lacks : fields.lookup key = none) :
    FieldCheck path fields key [.because (path.field key) .missingField]

/-- What is found about a single field stands at it. -/
theorem FieldCheck.place {found : List Violation} (checked : FieldCheck path fields key found) :
    ∀ violation ∈ found, violation.path = path.field key := by
  cases checked with
  | fine => exact List.forall_mem_nil _
  | wrong => exact List.forall_mem_singleton.mpr rfl
  | missing => exact List.forall_mem_singleton.mpr rfl

/-- The check of a field of the grammar is a check of the record. -/
theorem FieldCheck.checks {found : List Violation} (checked : FieldCheck path fields key found)
    (known : key ∈ keys) : Checks path (.record fields) (fun _ => found) [] := by
  cases checked with
  | fine => exact checks_nil
  | @wrong value _ there about quiet =>
    have wrong := (@checks_because value (path.field key) _ about).field known there
    rwa [List.filter_singleton, quiet] at wrong
  | missing lacks => exact checks_singleton rfl fun _ => .missing known lacks

/-- A text under a key is a value under it. -/
theorem FieldCheck.ofText {value : String} {reason : Reason}
    (text : textOf? fields key = some value) (about : reason.isAboutValue = true)
    (quiet : (Violation.because (path.field key) reason).compares = false) :
    FieldCheck path fields key [.because (path.field key) reason] :=
  .wrong (textOf?_eq_some_iff.mp text) about quiet

theorem fieldCheck_requireText : FieldCheck path fields key (requireText fields path key) := by
  unfold requireText
  split
  · exact .fine
  · rename_i found
    exact .wrong found rfl rfl
  · rename_i lacks
    exact .missing lacks

theorem fieldCheck_requireList : FieldCheck path fields key (requireList fields path key) := by
  unfold requireList
  split
  · exact .fine
  · rename_i found
    exact .wrong found rfl rfl
  · rename_i lacks
    exact .missing lacks

theorem fieldCheck_allowText : FieldCheck path fields key (allowText fields path key) := by
  unfold allowText
  split
  · exact .fine
  · rename_i found
    exact .wrong found rfl rfl
  · exact .fine

theorem fieldCheck_allowFlag : FieldCheck path fields key (allowFlag fields path key) := by
  unfold allowFlag
  split
  · exact .fine
  · rename_i found
    exact .wrong found rfl rfl
  · exact .fine

theorem fieldCheck_allowNumber : FieldCheck path fields key (allowNumber fields path key) := by
  unfold allowNumber
  split
  · exact .fine
  · rename_i found
    exact .wrong found rfl rfl
  · exact .fine

theorem fieldCheck_allowList : FieldCheck path fields key (allowList fields path key) := by
  unfold allowList
  split
  · exact .fine
  · rename_i found
    exact .wrong found rfl rfl
  · exact .fine

theorem fieldCheck_forbid {optionsType : String}
    (about : (Reason.forbiddenField key optionsType).isAboutValue = true) :
    FieldCheck path fields key (forbid fields path optionsType key) := by
  unfold forbid
  split
  · rename_i some
    obtain ⟨value, found⟩ := Option.isSome_iff_exists.mp some
    exact .wrong found about rfl
  · exact .fine

theorem fieldCheck_checkName {known : String → Bool} {reason : String → Reason}
    (about : ∀ name, (reason name).isAboutValue = true)
    (quiet : ∀ name, (Violation.because (path.field key) (reason name)).compares = false) :
    FieldCheck path fields key (checkName fields path key known reason) := by
  unfold checkName
  split
  · rename_i text
    split
    · exact .fine
    · exact .ofText text (about _) (quiet _)
  · exact .fine

/-- The check that a list is not empty. -/
theorem fieldCheck_ifEmpty {reason : Reason} (about : reason.isAboutValue = true)
    (quiet : (Violation.because (path.field key) reason).compares = false) :
    FieldCheck path fields key
      (if isEmptyList fields key then [.because (path.field key) reason] else []) := by
  split
  · rename_i empty
    unfold isEmptyList at empty
    split at empty
    · rename_i found
      exact .wrong found about quiet
    · cases empty
  · exact .fine

theorem fieldCheck_checkExpected :
    FieldCheck path fields "attributeValue" (checkExpected fields path) := by
  unfold checkExpected
  split
  · exact .fine
  · exact .fine
  · rename_i found
    exact .wrong found rfl rfl
  · rename_i lacks
    exact .missing lacks

theorem fieldCheck_checkWhole :
    FieldCheck path fields "attributeValue" (checkWhole fields path) := by
  unfold checkWhole
  split
  · rename_i number
    split
    · exact .fine
    · unfold numberOf? at number
      split at number
      · rename_i found
        exact .wrong found rfl rfl
      · cases number
  · exact .fine

theorem fieldCheck_checkSource : FieldCheck path fields "src" (checkSource fields path) := by
  unfold checkSource
  split
  · rename_i text
    split
    · exact .ofText text rfl rfl
    · exact .fine
  · exact .fine

/-! ### Keys -/

/-- Unknown keys are those of fields that are there. -/
theorem exists_of_mem_checkKeys {known : List String}
    (member : violation ∈ checkKeys strict known fields path) :
    strict = true ∧ ∃ key value, fields.lookup key = some value
      ∧ violation = .because (path.field key) .unrecognizedField := by
  unfold checkKeys at member
  split at member
  · rename_i refused
    obtain ⟨field, listed, rfl⟩ := List.mem_map.mp member
    have named := List.mem_map_of_mem (f := Prod.fst) (List.mem_of_mem_filter listed)
    cases found : fields.lookup field.1 with
    | none => exact (lookup_eq_none_iff_not_mem.mp found named).elim
    | some value => exact ⟨refused, field.1, value, found, rfl⟩
  · cases member

/-- Only the check of keys makes a difference between refusing unknown keys and passing over
them. -/
theorem checks_checkKeys {known : List String} :
    Checks path (.record fields) (fun strict => checkKeys strict known fields path) [] where
  reported strict violation member := by
    obtain ⟨refused, key, value, found, rfl⟩ := exists_of_mem_checkKeys member
    exact .unknown refused found
  kept := by
    refine (List.filter_eq_nil_iff.mpr fun violation member => ?_).symm
    obtain ⟨_, key, value, _, rfl⟩ := exists_of_mem_checkKeys member
    rw [Violation.because, Reason.wording_unrecognizedField.1]
    exact Bool.false_ne_true
  compared strict := by
    refine List.filter_eq_nil_iff.mpr fun violation member => ?_
    obtain ⟨_, key, value, _, rfl⟩ := exists_of_mem_checkKeys member
    exact Bool.false_ne_true

/-! ### Items of a list and records -/

section Items

variable {check : Bool → Path → Document → List Violation}

/-- A walk over the items of a list. -/
theorem checks_eachItem {repeated : Path → Document → List Violation}
    (each : ∀ path item, Checks path item (fun strict => check strict path item)
      (repeated path item)) (path : Path) (items : List Document) :
    Checks path (.list items) (fun strict => eachItem (check strict) path 0 items)
      (eachItem repeated path 0 items) where
  reported strict violation member := by
    obtain ⟨position, item, there, among⟩ := mem_eachItem_iff.mp member
    rw [Nat.zero_add] at among
    exact .item there ((each _ item).reported strict violation among)
  kept := by
    rw [filter_eachItem]
    exact congrArg (fun about => eachItem about path 0 items)
      (funext fun path => funext fun item => (each path item).kept)
  compared strict := by
    rw [filter_eachItem]
    exact congrArg (fun about => eachItem about path 0 items)
      (funext fun path => funext fun item => (each path item).compared strict)

/-- A walk over the items of the list under a key. -/
theorem checks_items {repeated : Path → Document → List Violation} (known : key ∈ keys)
    (each : ∀ path item, Checks path item (fun strict => check strict path item)
      (repeated path item)) :
    Checks path (.record fields)
      (fun strict => eachItem (check strict) (path.field key) 0 (listOf fields key))
      (eachItem repeated (path.field key) 0 (listOf fields key)) := by
  unfold listOf
  split
  · rename_i items listed
    exact (checks_eachItem each _ items).field known listed
  · exact checks_nil

/-- The same where no names are compared. -/
theorem checks_items_quiet (known : key ∈ keys)
    (each : ∀ path item, Checks path item (fun strict => check strict path item) []) :
    Checks path (.record fields)
      (fun strict => eachItem (check strict) (path.field key) 0 (listOf fields key)) [] := by
  have items := @checks_items path fields key check (fun _ _ => []) known each
  rwa [eachItem_nil] at items

/-- The same where names are compared in records. -/
theorem checks_sites {about : Site → List Violation} (known : key ∈ keys)
    (each : ∀ path item, Checks path item (fun strict => check strict path item)
      ((Site.ofDocument path item).flatMap about)) :
    Checks path (.record fields)
      (fun strict => eachItem (check strict) (path.field key) 0 (listOf fields key))
      ((Site.under ⟨path, fields⟩ key).flatMap about) := by
  rw [flatMap_under]
  exact checks_items known each

end Items

/-- A document that has to be a record. -/
theorem checks_inRecord {check : Bool → Fields → List Violation} {about : Site → List Violation}
    (each : ∀ fields, Checks path (.record fields) (fun strict => check strict fields)
      (about ⟨path, fields⟩)) (item : Document) :
    Checks path item (fun strict => inRecord (check strict) path item)
      ((Site.ofDocument path item).flatMap about) := by
  cases item with
  | record fields =>
    rw [Site.ofDocument, List.flatMap_singleton]
    exact each fields
  | _ => exact checks_wrongKind

/-- The same where no names are compared. -/
theorem checks_inRecord_quiet {check : Bool → Fields → List Violation}
    (each : ∀ fields, Checks path (.record fields) (fun strict => check strict fields) [])
    (item : Document) :
    Checks path item (fun strict => inRecord (check strict) path item) [] := by
  cases item with
  | record fields => exact each fields
  | _ => exact checks_wrongKind

end Grammar

end PageAttributes
