/-
**Every loaded document is canonical.**

* `Yaml.Reading.Yields` — whatever a reading gives has a property;
* `Yaml.isCanonical_of_ofScalar` — what a scalar writes has no fields that could be out of order;
* `Yaml.Anchors.yields_document` — the document of a node is canonical;
* `isCanonical_of_parseSource` — what is loaded from a source is canonical.
-/

import PageAttributes.Proofs.Document.Canonical
import PageAttributes.Source.Load

namespace PageAttributes

namespace Yaml

namespace Reading

variable {α β : Type}

/-- Whatever a reading gives has a property. -/
def Yields (reading : Reading α) (property : α → Prop) : Prop :=
  ∀ count value after, reading count = .ok (value, after) → property value

theorem yields_pure {value : α} {property : α → Prop} (holds : property value) :
    Yields (pure value) property := by
  intro _ _ _ given
  cases given
  exact holds

theorem yields_throw (problem : Problem) (property : α → Prop) :
    Yields (throw problem) property := by
  intro _ _ _ given
  cases given

theorem yields_lift {result : Except Problem α} {property : α → Prop}
    (holds : ∀ value, result = .ok value → property value) :
    Yields (liftM result) property := by
  intro _ _ _ given
  cases result with
  | error problem => cases given
  | ok value =>
    cases given
    exact holds _ rfl

theorem Yields.bind {reading : Reading α} {next : α → Reading β} {middle : α → Prop}
    {property : β → Prop} (first : Yields reading middle)
    (second : ∀ value, middle value → Yields (next value) property) :
    Yields (reading >>= next) property := by
  intro count value after given
  change Except.bind (reading count) (fun pair => next pair.1 pair.2) = _ at given
  cases here : reading count with
  | error problem =>
    rw [here] at given
    cases given
  | ok pair =>
    rw [here] at given
    exact second pair.1 (first count _ _ here) pair.2 value after given

/-- Every item gives what has the property, so all of them do. -/
theorem yields_mapM {read : α → Reading β} {property : β → Prop}
    (each : ∀ item, Yields (read item) property) (items : List α) :
    Yields (items.mapM read) fun values => ∀ value ∈ values, property value := by
  induction items with
  | nil => exact yields_pure fun _ member => nomatch member
  | cons item rest ih =>
    rw [List.mapM_cons]
    refine (each item).bind fun value holds => ih.bind fun values all => ?_
    exact yields_pure (List.forall_mem_cons.mpr ⟨holds, all⟩)

end Reading

/-! ### Scalars -/

theorem isCanonical_of_realDocument? {text : String} {document : Document}
    (read : realDocument? text = some document) : document.IsCanonical := by
  unfold realDocument? at read
  split at read
  · cases read
    trivial
  · obtain ⟨_, _, rfl⟩ := Option.map_eq_some_iff.mp read
    trivial

theorem isCanonical_of_integerDocument? {text : String} {document : Document}
    (read : integerDocument? text = .ok (some document)) : document.IsCanonical := by
  unfold integerDocument? at read
  split at read
  · cases read
  · split at read
    · cases read
      trivial
    · split at read <;> cases read

theorem isCanonical_of_ofPlain {text : String} {document : Document}
    (read : ofPlain text = .ok document) : document.IsCanonical := by
  unfold ofPlain at read
  split at read
  · cases read
    trivial
  · split at read
    · cases read
      trivial
    · cases whole : integerDocument? text with
      | error problem =>
        rw [whole] at read
        cases read
      | ok found =>
        rw [whole] at read
        cases found with
        | some found =>
          cases read
          exact isCanonical_of_integerDocument? whole
        | none =>
          change (if isPadded text.toList then _ else _) = _ at read
          split at read
          · cases read
            trivial
          · cases real : realDocument? text with
            | none =>
              rw [real] at read
              cases read
              trivial
            | some found =>
              rw [real] at read
              cases read
              exact isCanonical_of_realDocument? real

/-- Where a document was demanded, it was found. -/
theorem eq_some_of_demanded {found : Option Document} {document : Document}
    (given : demanded found = .ok document) : found = some document := by
  cases found with
  | none => cases given
  | some found =>
    cases given
    rfl

/-- What a scalar writes has no fields that could be out of order. -/
theorem isCanonical_of_ofScalar {tag : Option String} {plain : Bool} {text : String}
    {document : Document} (read : ofScalar tag plain text = .ok document) :
    document.IsCanonical := by
  unfold ofScalar at read
  split at read
  · cases read
  · split at read
    · split at read
      · exact isCanonical_of_ofPlain read
      · cases read
        trivial
    · obtain ⟨_, _, rfl⟩ := Option.map_eq_some_iff.mp (eq_some_of_demanded read)
      trivial
    · cases whole : integerDocument? text with
      | error problem =>
        rw [whole] at read
        cases read
      | ok found =>
        rw [whole] at read
        obtain rfl := eq_some_of_demanded read
        exact isCanonical_of_integerDocument? whole
    · exact isCanonical_of_realDocument? (eq_some_of_demanded read)
    · split at read
      · cases read
        trivial
      · cases read
    · cases read
      trivial

/-! ### Nodes -/

namespace Anchors

open Reading

/-- The document of a node is canonical. -/
theorem yields_document (anchors : Anchors) (depth : Nat) (node : Node Nat) :
    Yields (anchors.document depth node) Document.IsCanonical := by
  have target : ∀ node, Yields (anchors.target node) fun _ => True := fun _ _ _ _ _ => trivial
  have key : ∀ node, Yields (anchors.key node) fun _ => True := fun _ _ _ _ _ => trivial
  induction depth generalizing node with
  | zero =>
    refine (target node).bind fun node _ => ?_
    split
    · exact yields_lift fun _ read => isCanonical_of_ofScalar read
    · exact yields_throw _ _
  | succ depth ih =>
    refine (target node).bind fun node _ => ?_
    match node with
    | .alias _ => exact yields_throw _ _
    | .scalar _ _ _ => exact yields_lift fun _ read => isCanonical_of_ofScalar read
    | .list _ items =>
      dsimp only
      split
      · exact yields_throw _ _
      · refine (yields_mapM ih items).bind fun items all => yields_pure ?_
        exact Document.areCanonical_iff.mpr all
    | .record _ fields =>
      dsimp only
      split
      · exact yields_throw _ _
      · have each : ∀ field : Node Nat × Node Nat, Yields
            (do
              let key ← anchors.key field.1
              let value ← anchors.document depth field.2
              pure (key, value))
            fun field => field.2.IsCanonical := fun field =>
          (key field.1).bind fun _ _ => (ih field.2).bind fun _ canonical => yields_pure canonical
        refine (yields_mapM each fields).bind fun fields all => yields_pure ?_
        exact Document.isCanonical_ofPairs all

end Anchors

/-- What comes of two steps comes of the second. -/
theorem bind_eq_ok {α β : Type} {first : Except Problem α} {next : α → Except Problem β} {value : β}
    (given : first >>= next = .ok value) : ∃ middle, next middle = .ok value := by
  cases first with
  | error problem => cases given
  | ok middle => exact ⟨middle, given⟩

/-- What a text writes is canonical. -/
theorem isCanonical_of_read {text : String} {document : Document}
    (given : read text = .ok document) : document.IsCanonical := by
  unfold read at given
  dsimp only at given
  split at given
  · cases given
  · obtain ⟨_, given⟩ := bind_eq_ok given
    obtain ⟨root?, given⟩ := bind_eq_ok given
    cases root? with
    | none =>
      cases given
      trivial
    | some root =>
      obtain ⟨⟨root, _⟩, given⟩ := bind_eq_ok given
      change Except.map Prod.fst ((Anchors.ofNode root).document depthLimit root 0) = _ at given
      cases run : (Anchors.ofNode root).document depthLimit root 0 with
      | error problem =>
        rw [run] at given
        cases given
      | ok pair =>
        rw [run] at given
        cases given
        exact Anchors.yields_document _ _ _ _ _ _ run

end Yaml

/-- What a text writes in one format or the other is canonical. -/
theorem isCanonical_of_readSource {text origin : String} {format : SourceFormat}
    {document : Document} (given : readSource text format origin = .ok document) :
    document.IsCanonical := by
  unfold readSource at given
  split at given
  · dsimp only at given
    split at given
    · rename_i read
      cases given
      unfold Json.readAll at read
      split at read
      · cases read
        exact Document.isCanonical_canonical _
      · cases read
    · cases given
  · split at given
    · rename_i read
      cases given
      exact Yaml.isCanonical_of_read read
    · cases given

/-- **What is loaded from a source is canonical.** -/
theorem isCanonical_of_parseSource {text origin : String} {format : SourceFormat}
    {document : Document} (given : parseSource text format origin = .ok document) :
    document.IsCanonical := by
  unfold parseSource at given
  split at given
  · rename_i loaded
    split at given
    · cases given
    · cases given
      exact isCanonical_of_readSource loaded
  · cases given

end PageAttributes
