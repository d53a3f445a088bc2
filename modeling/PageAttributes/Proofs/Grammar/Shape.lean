/-
**The shape checks find nothing exactly in well-shaped documents.**

Every check of a part gives no violation exactly if the part keeps its rule, whatever its place. The
checks of single fields come first; each check of a part is then the conjunction of its fields.

* `checkCondition_eq_nil_iff` — by induction on the levels that are left below the depth limit;
* `checkAttribute_eq_nil_iff`, `checkGroup_eq_nil_iff`, `checkNode_eq_nil_iff`,
  `checkScript_eq_nil_iff`, `checkSolution_eq_nil_iff` — the parts of a document;
* `checkSchema_eq_nil_iff` — the whole document.
-/

import PageAttributes.Proofs.Document.Lookup
import PageAttributes.Proofs.Grammar.Rules

namespace PageAttributes.Grammar

variable {strict : Bool} {fields : Fields} {path : Path} {key : String}

/-! ### Values of fields -/

theorem textOf?_eq_some_iff {value : String} :
    textOf? fields key = some value ↔ fields.lookup key = some (.text value) := by
  unfold textOf?
  cases fields.lookup key with
  | none => simp
  | some found => cases found <;> simp

/-- A text is found under a key exactly if there is one. -/
theorem hasText_iff : HasText fields key ↔ ∃ value, textOf? fields key = some value := by
  simp only [HasText, textOf?_eq_some_iff]

theorem listOf_of_lookup {items : List Document} (listed : fields.lookup key = some (.list items)) :
    listOf fields key = items := by
  rw [listOf, listed]

/-! ### Checks of fields -/

@[simp] theorem wrongKind_ne_nil {expected : String} {found : Document} :
    wrongKind path expected found ≠ [] := by
  simp [wrongKind]

@[simp] theorem missing_ne_nil : missing path key ≠ [] := by
  simp [missing]

@[simp] theorem requireText_eq_nil_iff : requireText fields path key = [] ↔ HasText fields key := by
  unfold requireText HasText
  cases fields.lookup key with
  | none => simp
  | some found => cases found <;> simp

@[simp] theorem allowText_eq_nil_iff :
    allowText fields path key = [] ↔ MayHave fields key IsText := by
  unfold allowText MayHave
  cases fields.lookup key with
  | none => simp
  | some found => cases found <;> simp [IsText]

@[simp] theorem allowFlag_eq_nil_iff :
    allowFlag fields path key = [] ↔ MayHave fields key IsFlag := by
  unfold allowFlag MayHave
  cases fields.lookup key with
  | none => simp
  | some found => cases found <;> simp [IsFlag]

@[simp] theorem allowNumber_eq_nil_iff :
    allowNumber fields path key = [] ↔ MayHave fields key IsNumber := by
  unfold allowNumber MayHave
  cases fields.lookup key with
  | none => simp
  | some found => cases found <;> simp [IsNumber]

/-- A list may be left out; its items are looked at one by one. -/
theorem allowList_eq_nil_iff {fits : Document → Prop} :
    (allowList fields path key = [] ∧ ∀ item ∈ listOf fields key, fits item) ↔
      MayHave fields key (IsListOf fits) := by
  unfold allowList MayHave listOf
  cases fields.lookup key with
  | none => simp
  | some found => cases found <;> simp [IsListOf]

/-- A list has to be there; its items are looked at one by one. -/
theorem requireList_eq_nil_iff (path : Path) {fits : Document → Prop} :
    (requireList fields path key = [] ∧ ∀ item ∈ listOf fields key, fits item) ↔
      HasList fields key fits := by
  unfold requireList HasList listOf
  cases fields.lookup key with
  | none => simp
  | some found => cases found <;> simp

/-- A list that is there and not found to be empty has items. -/
theorem hasItems_iff {fits : Document → Prop} :
    HasItems fields key fits ↔ HasList fields key fits ∧ isEmptyList fields key = false := by
  constructor
  · rintro ⟨items, listed, nonempty, fit⟩
    refine ⟨⟨items, listed, fit⟩, ?_⟩
    obtain ⟨item, rest, rfl⟩ := List.exists_cons_of_ne_nil nonempty
    rw [isEmptyList, listed]
  · rintro ⟨⟨items, listed, fit⟩, notEmpty⟩
    refine ⟨items, listed, ?_, fit⟩
    rintro rfl
    rw [isEmptyList, listed] at notEmpty
    cases notEmpty

@[simp] theorem forbid_eq_nil_iff {optionsType : String} :
    forbid fields path optionsType key = [] ↔ Lacks fields key := by
  unfold forbid Lacks
  cases fields.lookup key <;> simp

@[simp] theorem checkKeys_eq_nil_iff {known : List String} :
    checkKeys strict known fields path = [] ↔ OnlyKeys strict known fields := by
  unfold checkKeys OnlyKeys
  cases strict <;> simp

theorem checkName_eq_nil_iff {known : String → Bool} {reason : String → Reason} :
    checkName fields path key known reason = [] ↔
      ∀ name, fields.lookup key = some (.text name) → known name = true := by
  unfold checkName
  simp only [← textOf?_eq_some_iff]
  split
  · rename_i name same
    rw [same]
    simp
  · rename_i nothing
    rw [nothing]
    simp

/-- A name that has to be there and in a closed set is the name of one of the things it stands
for. -/
theorem requireName_eq_nil_iff {α : Type} {ofName? : String → Option α} {nameOf : α → String}
    (inverse : ∀ name, (ofName? name).isSome = true ↔ ∃ value, name = nameOf value)
    (path : Path) (reason : String → Reason) :
    (HasText fields key ∧
        checkName fields path key (fun name => (ofName? name).isSome) reason = []) ↔
      ∃ value, fields.lookup key = some (.text (nameOf value)) := by
  rw [checkName_eq_nil_iff]
  constructor
  · rintro ⟨⟨name, there⟩, known⟩
    obtain ⟨value, rfl⟩ := (inverse name).mp (known name there)
    exact ⟨value, there⟩
  · rintro ⟨value, there⟩
    refine ⟨⟨_, there⟩, fun name same => ?_⟩
    cases same.symm.trans there
    exact (inverse _).mpr ⟨value, rfl⟩

/-- Nothing is found in a list exactly if nothing is found in any item of it. -/
theorem eachItem_eq_nil_iff_of_mem {α : Type} {check : Path → Document → List α}
    {fits : Document → Prop} {position : Nat} {items : List Document}
    (decides : ∀ item ∈ items, ∀ path, check path item = [] ↔ fits item) :
    eachItem check path position items = [] ↔ ∀ item ∈ items, fits item := by
  induction items generalizing position with
  | nil => simp [eachItem]
  | cons item rest ih =>
    rw [eachItem, List.append_eq_nil_iff, decides item (.head _),
      ih fun other member => decides other (.tail _ member), List.forall_mem_cons]

theorem eachItem_eq_nil_iff {α : Type} {check : Path → Document → List α} {fits : Document → Prop}
    (decides : ∀ path item, check path item = [] ↔ fits item) {position : Nat}
    {items : List Document} :
    eachItem check path position items = [] ↔ ∀ item ∈ items, fits item :=
  eachItem_eq_nil_iff_of_mem fun item _ path => decides path item

/-- What is no record is refused; the fields of a record are checked further. -/
theorem inRecord_eq_nil_iff {check : Fields → List Violation} {fits : Fields → Prop}
    (decides : ∀ fields, check fields = [] ↔ fits fields) {document : Document} :
    inRecord check path document = [] ↔ IsRecord fits document := by
  unfold inRecord IsRecord
  split
  · rename_i fields
    rw [decides]
    exact ⟨fun fit => ⟨fields, rfl, fit⟩, by rintro ⟨_, ⟨⟩, fit⟩; exact fit⟩
  · rename_i found other
    refine ⟨fun nothing => (wrongKind_ne_nil nothing).elim, ?_⟩
    rintro ⟨fields, rfl, _⟩
    exact (other fields rfl).elim

/-! ### Names of closed sets -/

/-- A name is found among some values exactly if it is the name of one of them. -/
theorem find_name_isSome_iff {α : Type} {every : List α} {nameOf : α → String}
    (all : ∀ value, value ∈ every) (name : String) :
    (every.find? fun value => nameOf value == name).isSome = true ↔
      ∃ value, name = nameOf value := by
  rw [List.find?_isSome]
  constructor
  · rintro ⟨value, _, same⟩
    exact ⟨value, (beq_iff_eq.mp same).symm⟩
  · rintro ⟨value, rfl⟩
    exact ⟨value, all value, beq_self_eq_true _⟩

theorem Operator.isSome_ofName?_iff (name : String) :
    (Operator.ofName? name).isSome = true ↔ ∃ operator : Operator, name = operator.name :=
  find_name_isSome_iff (fun operator => by cases operator <;> decide) name

theorem NodeType.isSome_ofName?_iff (name : String) :
    (NodeType.ofName? name).isSome = true ↔ ∃ kind : NodeType, name = kind.name :=
  find_name_isSome_iff (fun kind => by cases kind <;> decide) name

theorem ScriptLocation.isSome_ofName?_iff (name : String) :
    (ScriptLocation.ofName? name).isSome = true ↔
      ∃ location : ScriptLocation, name = location.name :=
  find_name_isSome_iff (fun location => by cases location <;> decide) name

/-! ### Conditions -/

/-- The conditions of a list are looked at one by one. -/
theorem checkEach_eq (depth position : Nat) (path : Path) (items : List Document) :
    checkEach strict depth path position items
      = eachItem (checkCondition strict depth) path position items := by
  induction items generalizing position with
  | nil => rw [checkEach, eachItem]
  | cons item rest ih => rw [checkEach, eachItem, ih]

/-- The members of a group are those under the first key `conditions`. -/
theorem checkMembersField_eq (depth : Nat) (path : Path) (fields : Fields) :
    checkMembersField strict depth path fields =
      match fields.lookup "conditions" with
      | some found => checkMembers strict depth path found
      | none => [.because path .missingField] := by
  induction fields with
  | nil => rw [checkMembersField, List.lookup_nil]
  | cons field rest ih =>
    obtain ⟨key, value⟩ := field
    rw [checkMembersField, lookup_field, ih]
    split <;> rfl

/-- The members of a group are a list that is not empty, each of them valid. -/
theorem checkMembers_eq_nil_iff {depth : Nat} {fits : Document → Prop}
    (decides : ∀ path item, checkCondition strict depth path item = [] ↔ fits item)
    (found : Document) :
    checkMembers strict depth path found = [] ↔
      ∃ members, found = .list members ∧ members ≠ [] ∧ ∀ member ∈ members, fits member := by
  cases found with
  | list members =>
    cases members with
    | nil => simp [checkMembers]
    | cons first rest =>
      rw [checkMembers, List.append_eq_nil_iff, checkEach_eq, decides, eachItem_eq_nil_iff decides,
        ← List.forall_mem_cons (p := fits)]
      simp
  | _ => simp [checkMembers]

theorem checkExpected_eq_nil_iff :
    checkExpected fields path = [] ↔
      ∃ found, fields.lookup "attributeValue" = some found ∧ (IsText found ∨ IsNumber found) := by
  unfold checkExpected
  cases fields.lookup "attributeValue" with
  | none => simp
  | some found => cases found <;> simp [IsText, IsNumber]

theorem checkLeaf_eq_nil_iff :
    checkLeaf strict path fields = [] ↔
      OnlyKeys strict leafKeys fields ∧ HasText fields "attributeId" ∧
        ∃ found, fields.lookup "attributeValue" = some found ∧ (IsText found ∨ IsNumber found) := by
  simp only [checkLeaf, List.append_eq_nil_iff, checkKeys_eq_nil_iff, requireText_eq_nil_iff,
    checkExpected_eq_nil_iff, and_assoc]

theorem checkConditionGroup_eq_nil_iff {members : List Violation} :
    checkConditionGroup strict path fields members = [] ↔
      OnlyKeys strict conditionGroupKeys fields ∧
        (∃ operator : Operator, fields.lookup "operator" = some (.text operator.name)) ∧
        members = [] := by
  simp only [checkConditionGroup, List.append_eq_nil_iff, checkKeys_eq_nil_iff,
    requireText_eq_nil_iff, and_assoc, ← requireName_eq_nil_iff
      Operator.isSome_ofName?_iff path Reason.unknownOperator]

/-- A record in the place of a condition is a leaf or a group, by its type. -/
theorem checkConditionRecord_eq_nil_iff {members : List Violation} :
    checkConditionRecord strict path fields members = [] ↔
      (fields.lookup "type" = some (.text "condition") ∧ checkLeaf strict path fields = []) ∨
        (fields.lookup "type" = some (.text "group") ∧
          checkConditionGroup strict path fields members = []) := by
  rw [checkConditionRecord, List.append_eq_nil_iff, requireText_eq_nil_iff, hasText_iff]
  simp only [← textOf?_eq_some_iff]
  split
  · rename_i same
    simp [same]
  · rename_i same
    simp [same]
  · rename_i other notLeaf notGroup same
    rw [same]
    simp only [reduceCtorEq, and_false, Option.some.injEq, false_iff, not_or, not_and]
    exact ⟨fun leaf => (notLeaf leaf).elim, fun group => (notGroup group).elim⟩
  · rename_i nothing
    simp [nothing]

/-- A condition that is no leaf and no group is none; below the depth limit no more levels are
left. -/
theorem checkCondition_eq_nil_iff (levels : Nat) :
    ∀ depth, Condition.depthLimit + 1 - depth = levels → ∀ path document,
      (checkCondition strict depth path document = [] ↔ ValidCondition strict levels document) := by
  induction levels with
  | zero =>
    intro depth left path document
    have deep : Condition.depthLimit < depth := by omega
    constructor
    · intro nothing
      cases document <;> simp [checkCondition, deep] at nothing
    · intro valid
      cases valid
  | succ levels ih =>
    intro depth left path document
    have notDeep : ¬ Condition.depthLimit < depth := by omega
    have decides := ih (depth + 1) (by omega)
    cases document with
    | record fields =>
      rw [checkCondition, if_neg notDeep, checkConditionRecord_eq_nil_iff, checkLeaf_eq_nil_iff,
        checkConditionGroup_eq_nil_iff, checkMembersField_eq]
      constructor
      · rintro (⟨type, keys, attributeId, expected⟩ | ⟨type, keys, operator, members⟩)
        · exact .leaf levels fields type keys attributeId expected
        · cases listed : fields.lookup "conditions" with
          | none => simp [listed] at members
          | some found =>
            rw [listed] at members
            obtain ⟨items, rfl, nonempty, each⟩ :=
              (checkMembers_eq_nil_iff decides found).mp members
            exact .group levels fields items type keys operator listed nonempty each
      · intro valid
        cases valid with
        | leaf _ _ type keys attributeId expected =>
          exact Or.inl ⟨type, keys, attributeId, expected⟩
        | group _ _ members type keys operator listed nonempty each =>
          refine Or.inr ⟨type, keys, operator, ?_⟩
          rw [listed]
          exact (checkMembers_eq_nil_iff decides _).mpr ⟨members, rfl, nonempty, each⟩
    | _ =>
      constructor
      · intro nothing
        simp [checkCondition, notDeep] at nothing
      · intro valid
        cases valid

/-! ### Restrictions -/

theorem checkNodeType_eq_nil_iff (path : Path) (item : Document) :
    checkNodeType path item = [] ↔ ∃ kind : NodeType, item = .text kind.name := by
  cases item with
  | text name =>
    simp only [checkNodeType, Document.text.injEq, ← NodeType.isSome_ofName?_iff]
    split <;> simp_all
  | _ => simp [checkNodeType]

theorem checkNodeTypes_eq_nil_iff :
    checkNodeTypes fields path = [] ↔ MayHave fields "nodeTypes"
      (IsListOf fun item => ∃ kind : NodeType, item = .text kind.name) := by
  rw [checkNodeTypes, List.append_eq_nil_iff, eachItem_eq_nil_iff checkNodeType_eq_nil_iff,
    allowList_eq_nil_iff]

theorem checkConditions_eq_nil_iff :
    checkConditions strict fields path = [] ↔ MayHave fields "conditions"
      (IsListOf (ValidCondition strict Condition.depthLimit)) := by
  rw [checkConditions, List.append_eq_nil_iff, checkEach_eq,
    eachItem_eq_nil_iff (checkCondition_eq_nil_iff Condition.depthLimit 1 (by omega)),
    allowList_eq_nil_iff]

theorem checkRestrictions_eq_nil_iff (path : Path) :
    (checkNodeTypes fields path = [] ∧ checkConditions strict fields path = []) ↔
      ValidRestrictions strict fields := by
  rw [checkNodeTypes_eq_nil_iff, checkConditions_eq_nil_iff]
  exact ⟨fun both => ⟨both.1, both.2⟩, fun valid => ⟨valid.nodeTypes, valid.conditions⟩⟩

/-! ### Inputs -/

theorem checkRepeatedChoice_eq_nil_iff {seen : List (String × Path)} {value : String} :
    checkRepeatedChoice seen value path = [] ↔ value ∉ seen.map Prod.fst := by
  rw [← lookup_eq_none_iff_not_mem]
  unfold checkRepeatedChoice
  cases seen.lookup value <;> simp

/-- A choice with a value comes before the values of the others. -/
theorem textsUnder_cons {value : String} {rest : List Document}
    (same : textOf? fields key = some value) :
    textsUnder key (.record fields :: rest) = value :: textsUnder key rest := by
  simp [textsUnder, same]

theorem checkChoices_eq_nil_iff {seen : List (String × Path)} {position : Nat}
    {items : List Document} :
    checkChoices strict path seen position items = [] ↔
      (∀ item ∈ items, IsRecord (ValidChoice strict) item) ∧
        Unseen (seen.map Prod.fst) (textsUnder "attributeValue" items) := by
  induction items generalizing seen position with
  | nil => simp [checkChoices, Unseen, textsUnder]
  | cons item rest ih =>
    cases item with
    | record fields =>
      have whole : IsRecord (ValidChoice strict) (.record fields) ↔ ValidChoice strict fields :=
        ⟨by rintro ⟨_, ⟨⟩, valid⟩; exact valid, fun valid => ⟨fields, rfl, valid⟩⟩
      rw [checkChoices, List.forall_mem_cons, whole]
      split
      · rename_i value same
        rw [List.append_eq_nil_iff, List.append_eq_nil_iff, ih, checkRepeatedChoice_eq_nil_iff,
          textsUnder_cons same, unseen_cons, List.map_append]
        simp only [List.append_eq_nil_iff, checkKeys_eq_nil_iff, requireText_eq_nil_iff]
        constructor
        · rintro ⟨⟨⟨⟨⟨keys, name⟩, description⟩, text⟩, unseen⟩, each, fresh⟩
          exact ⟨⟨⟨keys, name, description, text⟩, each⟩, unseen, fresh⟩
        · rintro ⟨⟨⟨keys, name, description, text⟩, each⟩, unseen, fresh⟩
          exact ⟨⟨⟨⟨⟨keys, name⟩, description⟩, text⟩, unseen⟩, each, fresh⟩
      · rename_i nothing
        have noText : ¬ HasText fields "attributeValue" := fun text => by
          obtain ⟨value, same⟩ := hasText_iff.mp text
          cases nothing.symm.trans same
        simp only [List.append_eq_nil_iff, requireText_eq_nil_iff, noText, and_false, false_and,
          false_iff]
        exact fun valid => noText valid.1.1.value
    | _ =>
      simp only [checkChoices, List.append_eq_nil_iff, wrongKind_ne_nil, false_and, false_iff]
      rintro ⟨each, _⟩
      obtain ⟨fields, impossible, _⟩ := each _ (.head _)
      cases impossible

theorem checkOptions_eq_nil_iff :
    checkOptions strict fields path = [] ↔ ValidChoices strict fields := by
  have empty : (if isEmptyList fields "options" = true then
      [Violation.because (path.field "options") .emptyDropdown] else []) = [] ↔
      isEmptyList fields "options" = false := by
    cases isEmptyList fields "options" <;> simp
  rw [checkOptions, List.append_eq_nil_iff, List.append_eq_nil_iff, empty, checkChoices_eq_nil_iff,
    List.map_nil, unseen_nil_left]
  constructor
  · rintro ⟨⟨list, notEmpty⟩, each, unique⟩
    exact ⟨hasItems_iff.mpr ⟨(requireList_eq_nil_iff _).mp ⟨list, each⟩, notEmpty⟩, unique⟩
  · rintro ⟨items, unique⟩
    obtain ⟨list, notEmpty⟩ := hasItems_iff.mp items
    obtain ⟨list, each⟩ := (requireList_eq_nil_iff path).mpr list
    exact ⟨⟨list, notEmpty⟩, each, unique⟩

/-- A number that is there is whole. -/
theorem checkWhole_eq_nil_iff :
    (allowNumber fields path "attributeValue" = [] ∧ checkWhole fields path = []) ↔
      MayHave fields "attributeValue" IsWhole := by
  unfold allowNumber checkWhole numberOf? MayHave
  cases fields.lookup "attributeValue" with
  | none => simp
  | some found => cases found <;> simp [IsWhole]

theorem checkInputKind_eq_nil_iff (kind : InputKind) :
    checkInputKind strict fields path kind = [] ↔ ValidInput strict fields kind := by
  cases kind with
  | integerInput =>
    rw [checkInputKind, List.append_eq_nil_iff, List.append_eq_nil_iff, checkWhole_eq_nil_iff,
      forbid_eq_nil_iff]
    rfl
  | _ =>
    simp only [checkInputKind, ValidInput, List.append_eq_nil_iff, forbid_eq_nil_iff,
      allowText_eq_nil_iff, allowNumber_eq_nil_iff, checkOptions_eq_nil_iff]

/-- The kind that is found for a name has the name. -/
theorem InputKind.name_of_ofName? {name : String} {kind : InputKind}
    (found : InputKind.ofName? name = some kind) : kind.name = name := by
  unfold InputKind.ofName? at found
  have same := List.find?_some found
  exact eq_of_beq same

theorem InputKind.ofName?_name (kind : InputKind) : InputKind.ofName? kind.name = some kind := by
  cases kind <;> rfl

theorem InputKind.ofName?_eq_some_iff {name : String} {kind : InputKind} :
    InputKind.ofName? name = some kind ↔ name = kind.name :=
  ⟨fun found => (InputKind.name_of_ofName? found).symm,
    fun same => same ▸ InputKind.ofName?_name kind⟩

theorem checkInput_eq_nil_iff :
    checkInput strict fields path = [] ↔
      ∃ kind : InputKind, fields.lookup "optionsType" = some (.text kind.name) ∧
        ValidInput strict fields kind := by
  rw [checkInput, List.append_eq_nil_iff, requireText_eq_nil_iff, hasText_iff]
  simp only [← textOf?_eq_some_iff]
  split
  · rename_i name same
    rw [same]
    split
    · rename_i kind found
      rw [checkInputKind_eq_nil_iff]
      have named := InputKind.name_of_ofName? found
      constructor
      · rintro ⟨_, valid⟩
        exact ⟨kind, by rw [named], valid⟩
      · rintro ⟨other, sameName, valid⟩
        rw [Option.some.inj sameName, InputKind.ofName?_name] at found
        exact ⟨⟨name, rfl⟩, Option.some.inj found ▸ valid⟩
    · rename_i nothing
      simp only [reduceCtorEq, and_false, false_iff, not_exists, not_and]
      intro kind sameName _
      rw [Option.some.inj sameName, InputKind.ofName?_name] at nothing
      cases nothing
  · rename_i nothing
    simp [nothing]

/-! ### Attributes and groups -/

theorem checkAttribute_eq_nil_iff :
    checkAttribute strict path fields = [] ↔ ValidAttribute strict fields := by
  simp only [checkAttribute, List.append_eq_nil_iff, checkKeys_eq_nil_iff, requireText_eq_nil_iff,
    allowFlag_eq_nil_iff, checkInput_eq_nil_iff]
  constructor
  · rintro ⟨⟨⟨⟨⟨⟨⟨⟨keys, id⟩, name⟩, description⟩, attributeName⟩, required⟩, types⟩, conditions⟩,
      input⟩
    exact ⟨keys, id, name, description, attributeName, required,
      (checkRestrictions_eq_nil_iff _).mp ⟨types, conditions⟩, input⟩
  · rintro ⟨keys, id, name, description, attributeName, required, restrictions, input⟩
    obtain ⟨types, conditions⟩ := (checkRestrictions_eq_nil_iff path).mpr restrictions
    exact ⟨⟨⟨⟨⟨⟨⟨⟨keys, id⟩, name⟩, description⟩, attributeName⟩, required⟩, types⟩, conditions⟩,
      input⟩

theorem checkMember_eq_nil_iff (path : Path) (document : Document) :
    checkMember strict path document = [] ↔ IsRecord (ValidMember strict) document := by
  refine inRecord_eq_nil_iff fun fields => ?_
  rw [List.append_eq_nil_iff, requireText_eq_nil_iff, hasText_iff]
  constructor
  · rintro ⟨⟨name, same⟩, nothing⟩
    rw [same] at nothing
    split at nothing
    · rename_i isAttribute
      cases isAttribute
      exact ⟨textOf?_eq_some_iff.mp same, checkAttribute_eq_nil_iff.mp nothing⟩
    · cases nothing
    · cases nothing
    · rename_i impossible
      cases impossible
  · rintro ⟨type, declared⟩
    have same := textOf?_eq_some_iff.mpr type
    refine ⟨⟨_, same⟩, ?_⟩
    rw [same]
    exact checkAttribute_eq_nil_iff.mpr declared

theorem checkGroup_eq_nil_iff :
    checkGroup strict path fields = [] ↔ ValidGroup strict fields := by
  have empty : (if isEmptyList fields "attributes" = true then
      [Violation.because (path.field "attributes") .emptyGroup] else []) = [] ↔
      isEmptyList fields "attributes" = false := by
    cases isEmptyList fields "attributes" <;> simp
  simp only [checkGroup, List.append_eq_nil_iff, checkKeys_eq_nil_iff, requireText_eq_nil_iff,
    empty, eachItem_eq_nil_iff checkMember_eq_nil_iff]
  constructor
  · rintro ⟨⟨⟨⟨⟨⟨keys, name⟩, types⟩, list⟩, notEmpty⟩, each⟩, conditions⟩
    exact ⟨keys, name, hasItems_iff.mpr ⟨(requireList_eq_nil_iff _).mp ⟨list, each⟩, notEmpty⟩,
      (checkRestrictions_eq_nil_iff _).mp ⟨types, conditions⟩⟩
  · rintro ⟨keys, name, members, restrictions⟩
    obtain ⟨types, conditions⟩ := (checkRestrictions_eq_nil_iff path).mpr restrictions
    obtain ⟨list, notEmpty⟩ := hasItems_iff.mp members
    obtain ⟨list, each⟩ := (requireList_eq_nil_iff path).mpr list
    exact ⟨⟨⟨⟨⟨⟨keys, name⟩, types⟩, list⟩, notEmpty⟩, each⟩, conditions⟩

theorem checkNode_eq_nil_iff (path : Path) (document : Document) :
    checkNode strict path document = [] ↔ IsRecord (ValidNode strict) document := by
  refine inRecord_eq_nil_iff fun fields => ?_
  rw [List.append_eq_nil_iff, requireText_eq_nil_iff, hasText_iff]
  constructor
  · rintro ⟨⟨name, same⟩, nothing⟩
    rw [same] at nothing
    split at nothing
    · rename_i isAttribute
      cases isAttribute
      exact .single (textOf?_eq_some_iff.mp same) (checkAttribute_eq_nil_iff.mp nothing)
    · rename_i isGroup
      cases isGroup
      exact .group (textOf?_eq_some_iff.mp same) (checkGroup_eq_nil_iff.mp nothing)
    · cases nothing
    · rename_i impossible
      cases impossible
  · intro valid
    cases valid with
    | single type declared =>
      have same := textOf?_eq_some_iff.mpr type
      refine ⟨⟨_, same⟩, ?_⟩
      rw [same]
      exact checkAttribute_eq_nil_iff.mpr declared
    | group type gathered =>
      have same := textOf?_eq_some_iff.mpr type
      refine ⟨⟨_, same⟩, ?_⟩
      rw [same]
      exact checkGroup_eq_nil_iff.mpr gathered

/-! ### Scripts and solutions -/

/-- A source that is there is a URL. -/
theorem checkSource_eq_nil_iff (path : Path) :
    (HasText fields "src" ∧ checkSource fields path = []) ↔
      ∃ source, fields.lookup "src" = some (.text source) ∧ Url.problem? source = none := by
  unfold checkSource
  rw [hasText_iff]
  simp only [← textOf?_eq_some_iff]
  cases textOf? fields "src" with
  | none => simp
  | some source => cases found : Url.problem? source <;> simp [found]

theorem checkScript_eq_nil_iff (path : Path) (document : Document) :
    checkScript strict path document = [] ↔ IsRecord (ValidScript strict) document := by
  refine inRecord_eq_nil_iff fun fields => ?_
  simp only [List.append_eq_nil_iff, checkKeys_eq_nil_iff, requireText_eq_nil_iff,
    allowFlag_eq_nil_iff]
  constructor
  · rintro ⟨⟨⟨⟨⟨⟨⟨keys, id⟩, text⟩, source⟩, deferred⟩, asynchronous⟩, location⟩, known⟩
    exact ⟨keys, id, (checkSource_eq_nil_iff _).mp ⟨text, source⟩, deferred, asynchronous,
      (requireName_eq_nil_iff ScriptLocation.isSome_ofName?_iff _ _).mp ⟨location, known⟩⟩
  · rintro ⟨keys, id, source, deferred, asynchronous, location⟩
    obtain ⟨text, source⟩ := (checkSource_eq_nil_iff path).mpr source
    obtain ⟨location, known⟩ :=
      (requireName_eq_nil_iff ScriptLocation.isSome_ofName?_iff path _).mpr location
    exact ⟨⟨⟨⟨⟨⟨⟨keys, id⟩, text⟩, source⟩, deferred⟩, asynchronous⟩, location⟩, known⟩

theorem checkSolution_eq_nil_iff (path : Path) (document : Document) :
    checkSolution strict path document = [] ↔ IsRecord (ValidSolution strict) document := by
  refine inRecord_eq_nil_iff fun fields => ?_
  simp only [List.append_eq_nil_iff, checkKeys_eq_nil_iff, requireText_eq_nil_iff,
    eachItem_eq_nil_iff checkScript_eq_nil_iff, eachItem_eq_nil_iff checkNode_eq_nil_iff]
  constructor
  · rintro ⟨⟨⟨⟨⟨⟨keys, id⟩, name⟩, scripts⟩, eachScript⟩, nodes⟩, eachNode⟩
    exact ⟨keys, id, name, (requireList_eq_nil_iff _).mp ⟨scripts, eachScript⟩,
      (requireList_eq_nil_iff _).mp ⟨nodes, eachNode⟩⟩
  · rintro ⟨keys, id, name, scripts, nodes⟩
    obtain ⟨scripts, eachScript⟩ := (requireList_eq_nil_iff path).mpr scripts
    obtain ⟨nodes, eachNode⟩ := (requireList_eq_nil_iff path).mpr nodes
    exact ⟨⟨⟨⟨⟨⟨keys, id⟩, name⟩, scripts⟩, eachScript⟩, nodes⟩, eachNode⟩

/-- **Nothing is found in the shape of a document exactly if it is well-shaped.** -/
theorem checkSchema_eq_nil_iff (document : Document) :
    checkSchema strict document = [] ↔ WellShaped strict document := by
  refine inRecord_eq_nil_iff fun fields => ?_
  simp only [List.append_eq_nil_iff, checkKeys_eq_nil_iff, requireText_eq_nil_iff,
    eachItem_eq_nil_iff checkSolution_eq_nil_iff]
  constructor
  · rintro ⟨⟨⟨⟨keys, id⟩, name⟩, solutions⟩, each⟩
    exact ⟨keys, id, name, (requireList_eq_nil_iff _).mp ⟨solutions, each⟩⟩
  · rintro ⟨keys, id, name, solutions⟩
    obtain ⟨solutions, each⟩ := (requireList_eq_nil_iff .root).mpr solutions
    exact ⟨⟨⟨⟨keys, id⟩, name⟩, solutions⟩, each⟩

end PageAttributes.Grammar
