/-
**Which accepted schemas can be read from their written form.**

* `Schema.ofBytes_toJson` — a schema is read from its written form if that is not nested too deep,
  and else it cannot be read;
* `Validator.validate_page` — conditions of up to a hundred and twenty-eight levels are accepted;
* `Validator.ofBytes_toJson_of_validate` — an accepted schema is read from its written form if its
  conditions have at most sixty-one levels, and one fewer inside a group of attributes.
-/

import PageAttributes.Artifact
import PageAttributes.Proofs.RoundTrip
import PageAttributes.Proofs.Wire.Nesting

namespace PageAttributes

open Json

/-! ### Bytes -/

theorem fromUTF8?_toUTF8 (text : String) : String.fromUTF8? text.toUTF8 = some text := by
  unfold String.fromUTF8?
  rw [String.toUTF8_eq_toByteArray, dif_pos text.isValidUTF8]
  rfl

/-- The bytes of a text have the symbols of the text. -/
theorem Json.Symbol.ofBytes_toUTF8 (text : String) : ofBytes text.toUTF8 = ofText text := by
  rw [ofBytes, fromUTF8?_toUTF8]

namespace Wire

variable {α : Type} {attention : Attention} {read : Document → Result α} {symbols : List Symbol}

/-- What is read of a text that can be read. -/
theorem ofSymbols_of_read {document : Document} {value : α}
    (text : Json.read attention depthLimit symbols = .ok document)
    (spelled : read document = .ok value) : ofSymbols attention read symbols = .ok value := by
  rw [ofSymbols, text]
  simp only [spelled]

/-- Nothing is read of a text that cannot be read. -/
theorem exists_ofSymbols_error {halted : Break}
    (text : Json.read attention depthLimit symbols = .error halted) :
    ∃ problem, ofSymbols attention read symbols = .error problem := by
  rw [ofSymbols, text]
  dsimp only
  split
  · split
    · exact ⟨_, rfl⟩
    · exact ⟨_, rfl⟩
  · exact ⟨_, rfl⟩
  · exact ⟨_, rfl⟩

end Wire

/-! ### Schemas -/

/-- **A schema is read from its written form** if that is not nested too deep; else it cannot be
read. -/
theorem Schema.ofBytes_toJson {schema : Schema}
    (survive : ∀ value ∈ schema.toDocument.numbers, value.Survives) :
    (schema.toDocument.nesting < depthLimit → ofBytes schema.toJson.toUTF8 = .ok schema)
      ∧ (depthLimit ≤ schema.toDocument.nesting →
        ∃ problem, ofBytes schema.toJson.toUTF8 = .error problem) := by
  have symbols : Symbol.ofBytes schema.toJson.toUTF8 = symbolsOf schema.toDocument.spell := by
    rw [Symbol.ofBytes_toUTF8, Symbol.ofText, toJson, Document.write, String.toList_ofList]
    rfl
  have reads := @read_spell attention schema.toDocument depthLimit schema.covers_toDocument survive
    (by decide)
  rw [ofBytes, symbols, ofSymbols]
  constructor
  · intro fits
    obtain ⟨fields, same, spelled⟩ := schema.spells_toDocument Wire.Rearranges.same
    replace same : schema.toDocument = .record fields := same
    have unique := schema.hasUniqueKeys_toDocument
    rw [same] at unique
    have read := Schema.ofDocument_of_spells .text unique spelled
    rw [← same] at read
    exact Wire.ofSymbols_of_read (reads.1 fits) read
  · intro full
    obtain ⟨halted, breaks⟩ := reads.2 full
    exact Wire.exists_ofSymbols_error breaks

namespace Validator

open Grammar

/-! ### Conditions of many levels -/

/-- A condition with some groups around it, as a document. -/
def nestedDocument : Nat → Document
  | 0 => .record [("attributeId", .text "wide"), ("attributeValue", .text "yes"),
      ("type", .text "condition")]
  | groups + 1 => .record [("conditions", .list [nestedDocument groups]), ("operator", .text "and"),
      ("type", .text "group")]

/-- A condition with some groups around it. -/
def nestedCondition : Nat → Condition
  | 0 => .leaf "wide" (.text "yes")
  | groups + 1 => .group .all [nestedCondition groups]

theorem isCanonical_nestedDocument (groups : Nat) : (nestedDocument groups).IsCanonical := by
  induction groups with
  | zero => simp +decide [nestedDocument, Document.IsCanonical, Document.HaveCanonical, Keyed.Sorted]
  | succ groups ih =>
    simp +decide [nestedDocument, Document.IsCanonical, Document.AreCanonical,
      Document.HaveCanonical, Keyed.Sorted, ih]

theorem spells_nestedDocument (groups : Nat) :
    Condition.Spells (nestedDocument groups) (nestedCondition groups) := by
  induction groups with
  | zero => exact ⟨rfl, rfl, rfl⟩
  | succ groups ih => exact ⟨rfl, rfl, [nestedDocument groups], rfl, ih, trivial⟩

theorem validCondition_nestedDocument {groups levels : Nat} (within : groups < levels) :
    ValidCondition true levels (nestedDocument groups) := by
  induction groups generalizing levels with
  | zero =>
    obtain ⟨levels, rfl⟩ := Nat.exists_eq_succ_of_ne_zero (Nat.ne_of_gt within)
    refine .leaf levels _ rfl ?_ ⟨"wide", rfl⟩ ⟨_, rfl, .inl ⟨"yes", rfl⟩⟩
    simp [OnlyKeys, leafKeys]
  | succ groups ih =>
    obtain ⟨levels, rfl⟩ := Nat.exists_eq_succ_of_ne_zero (Nat.ne_zero_of_lt within)
    have inside := ih (Nat.lt_of_succ_lt_succ within)
    refine .group levels _ [nestedDocument groups] rfl ?_ ⟨.all, rfl⟩ rfl (List.cons_ne_nil _ _) ?_
    · simp [OnlyKeys, conditionGroupKeys]
    · rwa [List.forall_mem_singleton]

theorem levels_nestedCondition (groups : Nat) : (nestedCondition groups).levels = groups + 1 := by
  induction groups with
  | zero => rfl
  | succ groups ih => simp [nestedCondition, Condition.levels, Condition.allLevels, ih]

theorem leafIds_nestedCondition (groups : Nat) : (nestedCondition groups).leafIds = ["wide"] := by
  induction groups with
  | zero => rfl
  | succ groups ih => simp [nestedCondition, Condition.leafIds, Condition.allLeafIds, ih]

/-- The fields of the attribute that the condition reads. -/
def wideFields : Fields :=
  [("attributeName", .text "data-wide"), ("description", .text "Wide"), ("id", .text "wide"),
    ("name", .text "Wide"), ("optionsType", .text "text-input"), ("type", .text "attribute")]

/-- The fields of an attribute under a condition with some groups around it. -/
def widthFields (groups : Nat) : Fields :=
  [("attributeName", .text "data-width"), ("conditions", .list [nestedDocument groups]),
    ("description", .text "Width"), ("id", .text "width"), ("name", .text "Width"),
    ("optionsType", .text "integer-input"), ("type", .text "attribute")]

/-- The fields of the solution of both attributes. -/
def layoutFields (groups : Nat) : Fields :=
  [("attributes", .list [.record wideFields, .record (widthFields groups)]),
    ("id", .text "layout"), ("name", .text "Layout"), ("scripts", .list [])]

/-- The fields of the page of that solution. -/
def pageFields (groups : Nat) : Fields :=
  [("id", .text "page"), ("name", .text "Page"),
    ("solutions", .list [.record (layoutFields groups)])]

/-- The solution of both attributes. -/
def layoutSolution (groups : Nat) : Solution :=
  ⟨"layout", "Layout", [], [
    .single ⟨"wide", "Wide", "Wide", "data-wide", none, none, none, .textInput none⟩,
    .single ⟨"width", "Width", "Width", "data-width", none, none,
      some [nestedCondition groups], .integerInput none⟩]⟩

/-- The schema of the page. -/
def pageSchema (groups : Nat) : Schema := ⟨"page", "Page", [layoutSolution groups]⟩

theorem isCanonical_page (groups : Nat) : (Document.record (pageFields groups)).IsCanonical := by
  simp +decide [pageFields, layoutFields, wideFields, widthFields, Document.IsCanonical,
    Document.AreCanonical, Document.HaveCanonical, Keyed.Sorted, isCanonical_nestedDocument]

theorem validAttribute_wide : ValidAttribute true wideFields where
  keys := by simp [OnlyKeys, wideFields, attributeKeys]
  id := ⟨_, rfl⟩
  name := ⟨_, rfl⟩
  description := ⟨_, rfl⟩
  attributeName := ⟨_, rfl⟩
  required := mayHave_of_lookup_eq_none rfl
  restrictions := ⟨mayHave_of_lookup_eq_none rfl, mayHave_of_lookup_eq_none rfl⟩
  input := ⟨.textInput, rfl, mayHave_of_lookup_eq_none rfl, rfl⟩

theorem validAttribute_width {groups : Nat} (within : groups < Condition.depthLimit) :
    ValidAttribute true (widthFields groups) where
  keys := by simp [OnlyKeys, widthFields, attributeKeys]
  id := ⟨_, rfl⟩
  name := ⟨_, rfl⟩
  description := ⟨_, rfl⟩
  attributeName := ⟨_, rfl⟩
  required := mayHave_of_lookup_eq_none rfl
  restrictions := by
    refine ⟨mayHave_of_lookup_eq_none rfl, fun found held => ?_⟩
    cases held
    refine ⟨_, rfl, ?_⟩
    rw [List.forall_mem_singleton]
    exact validCondition_nestedDocument within
  input := ⟨.integerInput, rfl, mayHave_of_lookup_eq_none rfl, rfl⟩

theorem validSchema_page {groups : Nat} (within : groups < Condition.depthLimit) :
    ValidSchema true (pageFields groups) := by
  have layout : ValidSolution true (layoutFields groups) := by
    refine ⟨?_, ⟨_, rfl⟩, ⟨_, rfl⟩, ⟨[], rfl, List.forall_mem_nil _⟩, ⟨_, rfl, ?_⟩⟩
    · simp [OnlyKeys, layoutFields, solutionKeys]
    · rw [List.forall_mem_cons, List.forall_mem_singleton]
      exact ⟨⟨_, rfl, .single rfl validAttribute_wide⟩,
        ⟨_, rfl, .single rfl (validAttribute_width within)⟩⟩
  refine ⟨?_, ⟨_, rfl⟩, ⟨_, rfl⟩, ⟨_, rfl, ?_⟩⟩
  · simp [OnlyKeys, pageFields, schemaKeys]
  · rw [List.forall_mem_singleton]
    exact ⟨_, rfl, layout⟩

theorem spells_page (groups : Nat) : (pageSchema groups).Spells (pageFields groups) := by
  have wide : Attribute.SpellsEntry wideFields
      ⟨"wide", "Wide", "Wide", "data-wide", none, none, none, .textInput none⟩ :=
    ⟨rfl, rfl, rfl, rfl, rfl, rfl, ⟨rfl, rfl⟩, rfl, rfl, rfl⟩
  have width : Attribute.SpellsEntry (widthFields groups) ⟨"width", "Width", "Width",
      "data-width", none, none, some [nestedCondition groups], .integerInput none⟩ := by
    refine ⟨rfl, rfl, rfl, rfl, rfl, rfl, ⟨rfl, ?_⟩, rfl, rfl, rfl⟩
    exact ⟨_, rfl, .cons (spells_nestedDocument groups) .nil⟩
  have layout : (layoutSolution groups).Spells (layoutFields groups) := by
    refine ⟨rfl, rfl, ⟨[], rfl, .nil⟩, ⟨_, rfl, ?_⟩⟩
    exact .cons ⟨_, rfl, wide⟩ (.cons ⟨_, rfl, width⟩ .nil)
  exact ⟨rfl, rfl, ⟨_, rfl, .cons ⟨_, rfl, layout⟩ .nil⟩⟩

/-- The width reads whether the page is wide, and nothing else is read. -/
theorem outline_layout (groups : Nat) : (Catalog.ofSolution (layoutSolution groups)).outline
    = ⟨[⟨"wide", none, []⟩, ⟨"width", none, ["wide"]⟩], []⟩ := by
  have reads : Condition.allLeafIds [nestedCondition groups] = ["wide"] := by
    simp [Condition.allLeafIds, leafIds_nestedCondition]
  rw [← reads]
  rfl

theorem isWellNamed_page (groups : Nat) : (pageSchema groups).IsWellNamed true := by
  have layout : (layoutSolution groups).IsWellNamed true := by
    refine ⟨List.nodup_nil, ?_, fun _ id loop => ?_⟩ <;> rw [outline_layout] at *
    · exact ⟨by decide, by decide, nofun⟩
    · have edge : ∀ reader read, Outline.Reads
          ⟨[⟨"wide", none, []⟩, ⟨"width", none, ["wide"]⟩], []⟩ reader read →
            reader = "width" ∧ read = "wide" := by
        rintro reader read ⟨declared, member, rfl, reads⟩
        simp only [List.mem_cons, List.not_mem_nil, or_false] at member
        rcases member with rfl | rfl
        · simp [Outline.groupReads] at reads
        · simpa [Outline.groupReads] using reads
      obtain ⟨next, first, _⟩ := Relation.TransGen.head'_iff.mp loop
      obtain ⟨last, _, final⟩ := Relation.TransGen.tail'_iff.mp loop
      have same := (edge _ _ first).1.symm.trans (edge _ _ final).2
      simp at same
  refine ⟨by simp [pageSchema], ?_⟩
  rw [pageSchema, List.forall_mem_singleton]
  exact layout

/-- **Conditions of up to a hundred and twenty-eight levels are accepted.** -/
theorem validate_page {groups : Nat} (within : groups < Condition.depthLimit) :
    validate ⟨true, true⟩ (.record (pageFields groups)) = .ok (pageSchema groups) := by
  have spelled := spells_page groups
  have names := (Schema.wellNamed_iff spelled).mpr (isWellNamed_page groups)
  exact validate_of_conforms ⟨⟨_, rfl, validSchema_page within⟩, names⟩
    (isCanonical_page groups).hasUniqueKeys spelled

theorem numbers_nestedCondition (groups : Nat) :
    (nestedCondition groups).toDocument.numbers = [] := by
  induction groups with
  | zero => rfl
  | succ groups ih =>
    simp [nestedCondition, Condition.toDocument, Condition.toDocuments, Document.numbers,
      Document.numbersOfItems, Document.numbersOfFields, ih]

theorem numbers_page (groups : Nat) : (pageSchema groups).toDocument.numbers = [] := by
  have inside := numbers_nestedCondition groups
  simp [pageSchema, layoutSolution, Schema.toDocument, Solution.toDocument, AttributeNode.toDocument,
    Attribute.toEntry, Attribute.toFields, Wire.restrictionFields, Wire.optionalField,
    Input.toFields, Condition.toDocuments, Document.numbers, Document.numbersOfItems,
    Document.numbersOfFields, inside]

/-! ### Accepted schemas -/

/-- **An accepted schema is read from its written form** if its conditions have at most sixty-one
levels, and one fewer inside a group of attributes; else it cannot be read. Numbers other than
integers have to survive being written. -/
theorem ofBytes_toJson_of_validate {validator : Validator} {document : Document}
    (canonical : document.IsCanonical) {schema : Schema}
    (accepted : validator.validate document = .ok schema)
    (survive : ∀ value : Binary64, Numeral.real value ∈ schema.toDocument.numbers →
      (Numeral.real value).Survives) :
    ((∀ placed ∈ schema.placedConditions, Condition.allLevels placed.2 + placed.1 ≤ 61) →
        Schema.ofBytes schema.toJson.toUTF8 = .ok schema)
      ∧ ((∃ placed ∈ schema.placedConditions, 61 < Condition.allLevels placed.2 + placed.1) →
        ∃ problem, Schema.ofBytes schema.toJson.toUTF8 = .error problem) := by
  obtain ⟨fields, rfl, spelled, ⟨_, same, valid⟩, _⟩ := exists_spells canonical accepted
  cases same
  have numbers : ∀ value ∈ schema.toDocument.numbers, value.Survives := by
    intro value member
    cases value with
    | natural value => exact Numeral.survives_natural value
    | negative distance => exact Numeral.survives_negative distance
    | real value => exact survive value member
  have full := Schema.eachHasMembers_of_spells valid spelled
  have nesting := @Schema.nesting_toDocument_le_iff schema full 59
  obtain ⟨reads, breaks⟩ := Schema.ofBytes_toJson numbers
  constructor
  · intro shallow
    exact reads (Nat.lt_succ_of_le (nesting.mpr shallow))
  · rintro ⟨placed, member, deep⟩
    refine breaks (Nat.lt_of_not_le fun fits => ?_)
    exact Nat.not_le_of_lt deep (nesting.mp fits placed member)

/-- The page whose width may be set once it is wide is read from its written form. -/
theorem ofBytes_toJson_of_validate_widthPage :
    Schema.ofBytes (⟨"page", "Page", [widthSolution]⟩ : Schema).toJson.toUTF8
      = .ok ⟨"page", "Page", [widthSolution]⟩ := by
  have survive : ∀ value : Binary64,
      Numeral.real value ∈ (⟨"page", "Page", [widthSolution]⟩ : Schema).toDocument.numbers →
        (Numeral.real value).Survives := by
    intro value member
    cases (show Numeral.real value ∈ [] from member)
  refine (ofBytes_toJson_of_validate isCanonical_widthPage validate_widthPage survive).1 ?_
  decide

/-- A schema with a condition of sixty-two levels is accepted, and cannot be read from its written
form. -/
theorem exists_ofBytes_toJson_error_page :
    validate ⟨true, true⟩ (.record (pageFields 61)) = .ok (pageSchema 61)
      ∧ (∀ value ∈ (pageSchema 61).toDocument.numbers, value.Survives)
      ∧ ∃ problem, Schema.ofBytes (pageSchema 61).toJson.toUTF8 = .error problem := by
  have survive : ∀ value ∈ (pageSchema 61).toDocument.numbers, value.Survives := by
    rw [numbers_page]
    exact List.forall_mem_nil _
  have within : 61 < Condition.depthLimit := by decide
  refine ⟨validate_page within, survive, (Schema.ofBytes_toJson survive).2 ?_⟩
  have full := Schema.eachHasMembers_of_spells (validSchema_page within) (spells_page 61)
  have nesting := @Schema.nesting_toDocument_le_iff (pageSchema 61) full 59
  refine Nat.lt_of_not_le fun shallow => ?_
  have placed : (0, [nestedCondition 61]) ∈ (pageSchema 61).placedConditions := by
    simp [pageSchema, layoutSolution, Schema.placedConditions, AttributeNode.placedConditions]
  have levels := nesting.mp shallow _ placed
  simp [Condition.allLevels, levels_nestedCondition] at levels

end Validator

end PageAttributes
