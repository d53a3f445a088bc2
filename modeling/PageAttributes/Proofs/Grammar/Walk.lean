/-
**The walk over the checks of the shape.**

For each check of a part there is one lemma, which says what it reports. What it may report of the
part, and that unknown keys make no other difference, is the same for all of them; names are compared
only among the choices of a dropdown.

* `checks_checkCondition` — by induction on the levels that are left below the depth limit;
* `checks_checkOptions`, `Site.repeatedChoices` — the choices of a dropdown, and the values that
  repeat among them;
* `checks_checkAttribute`, `checks_checkGroup`, `checks_checkScript`, `checks_checkSolution` — the
  parts of a document;
* `checks_checkSchema`, `located_checkSchema` — the whole document.
-/

import PageAttributes.Proofs.Grammar.Checks

namespace PageAttributes.Grammar

variable {strict : Bool} {path : Path} {fields : Fields}

/-! ### Conditions -/

theorem checks_checkLeaf :
    Checks path (.record fields) (fun strict => checkLeaf strict path fields) [] :=
  checks_checkKeys
    |>.before (fieldCheck_requireText.checks (by decide))
    |>.before (fieldCheck_checkExpected.checks (by decide))

theorem checks_checkConditionGroup {members : Bool → List Violation}
    (checked : Checks path (.record fields) members []) :
    Checks path (.record fields)
      (fun strict => checkConditionGroup strict path fields (members strict)) [] := by
  have operator := @fieldCheck_checkName path fields "operator"
    (fun name => (Operator.ofName? name).isSome) .unknownOperator (fun _ => rfl) fun _ => rfl
  exact checks_checkKeys
    |>.before (fieldCheck_requireText.checks (by decide))
    |>.before (operator.checks (by decide))
    |>.before checked

theorem checks_checkConditionRecord {members : Bool → List Violation}
    (checked : Checks path (.record fields) members []) :
    Checks path (.record fields)
      (fun strict => checkConditionRecord strict path fields (members strict)) [] := by
  refine (fieldCheck_requireText.checks (by decide)).before ?_
  split
  · exact checks_checkLeaf
  · exact checks_checkConditionGroup checked
  · rename_i text
    exact (FieldCheck.ofText text rfl rfl).checks (by decide)
  · exact checks_nil

/-- What is found in the place of the members of a group. -/
theorem checks_checkMembersField {depth : Nat}
    (each : ∀ path item, Checks path item (fun strict => checkCondition strict depth path item) []) :
    Checks path (.record fields)
      (fun strict => checkMembersField strict depth (path.field "conditions") fields) [] := by
  have known : "conditions" ∈ keys := by decide
  simp only [checkMembersField_eq]
  cases found : fields.lookup "conditions" with
  | none => exact (FieldCheck.missing found).checks known
  | some value =>
    cases value with
    | list members =>
      cases members with
      | nil => exact (FieldCheck.wrong found rfl rfl).checks known
      | cons first rest =>
        have items := @checks_items_quiet path fields _ _ known each
        rw [listOf_of_lookup found] at items
        simp only [checkMembers, checkEach_eq]
        exact items
    | _ => exact (FieldCheck.wrong found rfl rfl).checks known

/-- A condition that is nested too deep is not looked at. -/
theorem checkCondition_deep {depth : Nat} (deep : Condition.depthLimit < depth) (path : Path)
    (item : Document) : checkCondition strict depth path item
      = [.because path (.nestedTooDeep Condition.depthLimit)] := by
  cases item <;> simp [checkCondition, deep]

/-- Every other condition has to be a record. -/
theorem checkCondition_shallow {depth : Nat} (notDeep : ¬ Condition.depthLimit < depth)
    (path : Path) (item : Document) : checkCondition strict depth path item
      = inRecord (fun fields => checkConditionRecord strict path fields
          (checkMembersField strict (depth + 1) (path.field "conditions") fields)) path item := by
  cases item <;> simp [checkCondition, notDeep, inRecord]

theorem checks_checkCondition (levels : Nat) :
    ∀ depth, Condition.depthLimit + 1 - depth = levels → ∀ path item,
      Checks path item (fun strict => checkCondition strict depth path item) [] := by
  -- The walk counts its depth upwards, so the levels that are left are what decreases.
  induction levels with
  | zero =>
    intro depth left path item
    have deep : Condition.depthLimit < depth := by omega
    simp only [checkCondition_deep deep]
    exact checks_because rfl
  | succ levels ih =>
    intro depth left path item
    have notDeep : ¬ Condition.depthLimit < depth := by omega
    have members := ih (depth + 1) (by omega)
    simp only [checkCondition_shallow notDeep]
    exact checks_inRecord_quiet
      (fun _ => checks_checkConditionRecord (checks_checkMembersField members)) item

theorem checks_checkConditions :
    Checks path (.record fields) (fun strict => checkConditions strict fields path) [] := by
  have known : "conditions" ∈ keys := by decide
  have each := checks_checkCondition Condition.depthLimit 1 (by omega)
  simp only [checkConditions, checkEach_eq]
  exact (fieldCheck_allowList.checks known).before (checks_items_quiet known each)

/-! ### Restrictions and inputs -/

theorem checks_checkNodeType (path : Path) (item : Document) :
    Checks path item (fun _ => checkNodeType path item) [] := by
  unfold checkNodeType
  split
  · split
    · exact checks_nil
    · exact checks_because rfl
  · exact checks_wrongKind

theorem checks_checkNodeTypes :
    Checks path (.record fields) (fun _ => checkNodeTypes fields path) [] := by
  have known : "nodeTypes" ∈ keys := by decide
  exact (fieldCheck_allowList.checks known).before (checks_items_quiet known checks_checkNodeType)

/-- The fields of a choice, up to the comparison of its value. -/
theorem checks_choice :
    Checks path (.record fields) (fun strict =>
      checkKeys strict choiceKeys fields path ++ requireText fields path "name"
        ++ requireText fields path "description" ++ requireText fields path "attributeValue") [] :=
  checks_checkKeys
    |>.before (fieldCheck_requireText.checks (by decide))
    |>.before (fieldCheck_requireText.checks (by decide))
    |>.before (fieldCheck_requireText.checks (by decide))

/-- The value of a choice is compared with those before it. -/
theorem checks_checkRepeatedChoice {seen : List (String × Path)} {value : String}
    (text : textOf? fields "attributeValue" = some value) :
    Checks path (.record fields)
      (fun _ => checkRepeatedChoice seen value (path.field "attributeValue"))
      (repetition? .repeatedChoice seen (value, path.field "attributeValue")).toList := by
  unfold checkRepeatedChoice repetition?
  split
  · rename_i first earlier
    have repeats := @checks_because (.text value) (path.field "attributeValue")
      (.repeatedChoice value first) rfl
    rw [earlier]
    exact repeats.field (by decide) (textOf?_eq_some_iff.mp text)
  · rename_i new
    rw [new]
    exact checks_nil

/-- The choices of a dropdown from a position on. -/
theorem checks_checkChoices (items : List Document) :
    ∀ (before : List Document) (seen : List (String × Path)),
      Checks path (.list (before ++ items))
        (fun strict => checkChoices strict path seen before.length items)
        (repetitions .repeatedChoice seen
          ((eachItem Site.ofDocument path before.length items).flatMap fun choice =>
            choice.textAt "attributeValue")) := by
  induction items with
  | nil => exact fun _ _ => checks_nil
  | cons item rest ih =>
    intro before seen
    have there : (before ++ item :: rest)[before.length]? = some item := by
      rw [List.getElem?_append_right (Nat.le_refl _), Nat.sub_self, List.getElem?_cons_zero]
    have others := ih (before ++ [item])
    rw [List.append_assoc, List.singleton_append, List.length_append,
      List.length_singleton] at others
    rw [eachItem, List.flatMap_append]
    cases item with
    | record fields =>
      rw [Site.ofDocument, List.flatMap_singleton, Site.textAt]
      unfold checkChoices
      dsimp only
      cases text : textOf? fields "attributeValue" with
      | some value =>
        have repeats := @checks_checkRepeatedChoice (path.index before.length) fields seen value text
        exact ((checks_choice.before repeats).item there).append (others _)
      | none => exact (checks_choice.item there).before (others _)
    | _ => exact (checks_wrongKind.item there).before (others _)

/-- The choices of a dropdown that have the value of an earlier one are reported as that. -/
theorem checks_checkOptions :
    Checks path (.record fields) (fun strict => checkOptions strict fields path)
      (Scope.choices (Site.choices ⟨path, fields⟩)).repeats := by
  have known : "options" ∈ keys := by decide
  have choices : Checks path (.record fields)
      (fun strict => checkChoices strict (path.field "options") [] 0 (listOf fields "options"))
      (Scope.choices (Site.choices ⟨path, fields⟩)).repeats := by
    rw [Scope.repeats_eq]
    show Checks _ _ _ (repetitions .repeatedChoice [] ((eachItem Site.ofDocument
      (path.field "options") 0 (listOf fields "options")).flatMap _))
    unfold listOf
    split
    · rename_i items listed
      exact (checks_checkChoices items [] []).field known listed
    · exact checks_nil
  exact (fieldCheck_requireList.checks known)
    |>.before ((fieldCheck_ifEmpty rfl rfl).checks known)
    |>.before choices

/-- The values that are repeated among the choices of an attribute, if it has any. -/
def Site.repeatedChoices (site : Site) : List Violation :=
  if site.isDropdown then (Scope.choices site.choices).repeats else []

theorem checks_checkInputKind (kind : InputKind) :
    Checks path (.record fields) (fun strict => checkInputKind strict fields path kind)
      (if kind = .dropdown then (Scope.choices (Site.choices ⟨path, fields⟩)).repeats else []) := by
  have value : "attributeValue" ∈ keys := by decide
  have options : "options" ∈ keys := by decide
  have noOptions : ∀ name, Checks path (.record fields) (fun _ => forbid fields path name "options")
      [] := fun _ => (fieldCheck_forbid rfl).checks options
  cases kind with
  | checkbox => exact ((fieldCheck_forbid rfl).checks value).before (noOptions _)
  | dropdown => exact (fieldCheck_allowText.checks value).before checks_checkOptions
  | textInput => exact (fieldCheck_allowText.checks value).before (noOptions _)
  | integerInput =>
    exact (fieldCheck_allowNumber.checks value)
      |>.before (fieldCheck_checkWhole.checks value)
      |>.before (noOptions _)
  | floatInput => exact (fieldCheck_allowNumber.checks value).before (noOptions _)

theorem checks_checkInput :
    Checks path (.record fields) (fun strict => checkInput strict fields path)
      (Site.repeatedChoices ⟨path, fields⟩) := by
  refine (fieldCheck_requireText.checks (by decide)).before ?_
  unfold Site.repeatedChoices Site.isDropdown
  cases text : textOf? fields "optionsType" with
  | none => exact checks_nil
  | some name =>
    have isDropdown : name = InputKind.dropdown.name ↔ InputKind.ofName? name = some .dropdown :=
      InputKind.ofName?_eq_some_iff.symm
    dsimp only
    cases known : InputKind.ofName? name with
    | none =>
      have unknown : FieldCheck path fields "optionsType"
          [.because (path.field "optionsType") (.unknownOptionsType name)] := .ofText text rfl rfl
      simpa [isDropdown, known] using unknown.checks (by decide)
    | some kind => simpa [isDropdown, known] using @checks_checkInputKind path fields kind

/-! ### Attributes and groups -/

theorem checks_checkAttribute :
    Checks path (.record fields) (fun strict => checkAttribute strict path fields)
      (Site.repeatedChoices ⟨path, fields⟩) :=
  checks_checkKeys
    |>.before (fieldCheck_requireText.checks (by decide))
    |>.before (fieldCheck_requireText.checks (by decide))
    |>.before (fieldCheck_requireText.checks (by decide))
    |>.before (fieldCheck_requireText.checks (by decide))
    |>.before (fieldCheck_allowFlag.checks (by decide))
    |>.before checks_checkNodeTypes
    |>.before checks_checkConditions
    |>.before checks_checkInput

/-- A member of a group is looked into if it is an attribute. -/
theorem checks_checkMember (path : Path) (item : Document) :
    Checks path item (fun strict => checkMember strict path item)
      ((Site.ofDocument path item).flatMap fun member =>
        if member.isOfType "attribute" then member.repeatedChoices else []) := by
  have known : "type" ∈ keys := by decide
  refine checks_inRecord (fun fields => (fieldCheck_requireText.checks known).before ?_) item
  unfold Site.isOfType
  dsimp only
  split
  · rename_i isAttribute
    rw [if_pos (beq_iff_eq.mpr isAttribute)]
    exact checks_checkAttribute
  · rename_i isGroup
    simpa [isGroup] using (FieldCheck.ofText isGroup rfl rfl).checks known
  · rename_i other differs _ named
    have notAttribute : other ≠ "attribute" := differs
    simpa [named, notAttribute] using (FieldCheck.ofText named rfl rfl).checks known
  · rename_i nothing
    simpa [nothing] using checks_nil

theorem checks_checkGroup :
    Checks path (.record fields) (fun strict => checkGroup strict path fields)
      ((Site.under ⟨path, fields⟩ "attributes").flatMap fun member =>
        if member.isOfType "attribute" then member.repeatedChoices else []) := by
  have known : "attributes" ∈ keys := by decide
  rw [← List.append_nil (List.flatMap _ _)]
  exact checks_checkKeys
    |>.before (fieldCheck_requireText.checks (by decide))
    |>.before checks_checkNodeTypes
    |>.before (fieldCheck_requireList.checks known)
    |>.before ((fieldCheck_ifEmpty rfl rfl).checks known)
    |>.before (checks_sites known checks_checkMember)
    |>.append checks_checkConditions

/-- An entry of an attribute list is looked into if it is an attribute or a group. -/
theorem checks_checkNode (path : Path) (item : Document) :
    Checks path item (fun strict => checkNode strict path item)
      ((Site.ofDocument path item).flatMap fun node =>
        (declaredIn node).flatMap fun declared => declared.site.repeatedChoices) := by
  have known : "type" ∈ keys := by decide
  refine checks_inRecord (fun fields => (fieldCheck_requireText.checks known).before ?_) item
  split
  · rename_i isAttribute
    rw [declaredIn_of_attribute isAttribute, List.flatMap_singleton]
    exact checks_checkAttribute
  · rename_i isGroup
    rw [declaredIn_of_group isGroup, flatMap_members]
    exact checks_checkGroup
  · rename_i other differs differsToo named
    have notAttribute : other ≠ "attribute" := differs
    have notGroup : other ≠ "group" := differsToo
    simpa [declaredIn, Site.isOfType, named, notAttribute, notGroup]
      using (FieldCheck.ofText named rfl rfl).checks known
  · rename_i nothing
    simpa [declaredIn, Site.isOfType, nothing] using checks_nil

/-! ### Scripts and solutions -/

theorem checks_checkScript (path : Path) (item : Document) :
    Checks path item (fun strict => checkScript strict path item) [] := by
  refine checks_inRecord_quiet (fun fields => ?_) item
  have location := @fieldCheck_checkName path fields "location"
    (fun name => (ScriptLocation.ofName? name).isSome) .unknownLocation (fun _ => rfl) fun _ => rfl
  exact checks_checkKeys
    |>.before (fieldCheck_requireText.checks (by decide))
    |>.before (fieldCheck_requireText.checks (by decide))
    |>.before (fieldCheck_checkSource.checks (by decide))
    |>.before (fieldCheck_allowFlag.checks (by decide))
    |>.before (fieldCheck_allowFlag.checks (by decide))
    |>.before (fieldCheck_requireText.checks (by decide))
    |>.before (location.checks (by decide))

theorem checks_checkSolution (path : Path) (item : Document) :
    Checks path item (fun strict => checkSolution strict path item)
      ((Site.ofDocument path item).flatMap fun solution =>
        solution.attributes.flatMap fun declared => declared.site.repeatedChoices) := by
  refine checks_inRecord (fun fields => ?_) item
  have known : "attributes" ∈ keys := by decide
  rw [Site.attributes, List.flatMap_assoc]
  exact checks_checkKeys
    |>.before (fieldCheck_requireText.checks (by decide))
    |>.before (fieldCheck_requireText.checks (by decide))
    |>.before (fieldCheck_requireList.checks (by decide))
    |>.before (checks_items_quiet (by decide) checks_checkScript)
    |>.before (fieldCheck_requireList.checks known)
    |>.before (checks_sites known checks_checkNode)

/-- **What the check of a whole document reports.** It stands where keys of the grammar lead; if
unknown keys are passed over, only those are left out; and the names that are compared are the values
of the choices of its dropdowns. -/
theorem checks_checkSchema (document : Document) :
    Checks .root document (fun strict => checkSchema strict document)
      ((solutions document).flatMap fun solution =>
        solution.attributes.flatMap fun declared => declared.site.repeatedChoices) := by
  rw [solutions, List.flatMap_assoc]
  refine checks_inRecord (fun fields => ?_) document
  have known : "solutions" ∈ keys := by decide
  exact checks_checkKeys
    |>.before (fieldCheck_requireText.checks (by decide))
    |>.before (fieldCheck_requireText.checks (by decide))
    |>.before (fieldCheck_requireList.checks known)
    |>.before (checks_sites known checks_checkSolution)

/-- **Whatever is found in the shape of a document points at something.** -/
theorem located_checkSchema (strict : Bool) (document : Document) :
    AllLocated document (checkSchema strict document) :=
  fun violation member => ((checks_checkSchema document).reported strict violation member).located rfl

end PageAttributes.Grammar
