/-
**Which reasons are worded as an unknown key or as a cycle.**

A report consists of texts, so that its parts are told apart by their wording.

* `Reason.reportsUnknownKey`, `Reason.reportsCycle` — the wording is that of an unknown key, or
  begins like that of a cycle;
* `Reason.isSteady` — the reasons that are reported whatever the options of a validator are;
* `Reason.wording_of_isSteady` — their wording is never that of an unknown key or of a cycle.
-/

import Mathlib.Data.List.Infix
import PageAttributes.Grammar.Violation

namespace PageAttributes.Reason

/-- How the violation of an unknown key is worded. -/
def unknownKeyWording : String := "unrecognized field"

/-- How the violation of a cycle begins. -/
def cycleWording : String := "conditions form a dependency cycle"

/-- The reason is worded as an unknown key. -/
def reportsUnknownKey (reason : Reason) : Bool := reason.message == unknownKeyWording

/-- The reason is worded as a cycle. -/
def reportsCycle (reason : Reason) : Bool := cycleWording.toList.isPrefixOf reason.message.toList

/-- The reason is reported whatever the options are. Nothing is forbidden but what belongs to the
input of an attribute. -/
def isSteady : Reason → Bool
  | .unrecognizedField => false
  | .cycle _ => false
  | .unreadable _ => false
  | .remark _ => false
  | .forbiddenField key _ => key == "attributeValue" || key == "options"
  | _ => true

/-- The words that the wording of a reason begins with. -/
def opening : Reason → String
  | .wrongKind .. => "expected "
  | .missingField => "required field is missing"
  | .unrecognizedField => unknownKeyWording
  | .forbiddenField key _ => key
  | .badUrl .. => "invalid URL '"
  | .unknownLocation _ => "unrecognized location '"
  | .unknownType .. => "unrecognized type '"
  | .nestedGroup => "groups cannot be nested inside groups"
  | .emptyGroup => "a group must contain at least one attribute"
  | .unknownOptionsType _ => "unrecognized optionsType '"
  | .notWhole _ => "expected a whole number, received "
  | .emptyDropdown => "a dropdown must offer at least one option"
  | .repeatedChoice .. => "duplicate option value '"
  | .nestedTooDeep _ => "conditions are nested deeper than "
  | .unknownOperator _ => "unrecognized operator '"
  | .emptyConditionGroup => "a condition group must contain at least one condition"
  | .unknownNodeType _ => "unknown nodeType '"
  | .repeatedId .. => "duplicate "
  | .unresolved .. => "attributeId '"
  | .selfReference _ => "condition refers to its own attribute '"
  | .memberReference .. => "group condition refers to attribute '"
  | .cycle _ => "conditions form a dependency cycle: "
  | .unreadable _ => ""
  | .remark _ => ""

/-- The wording of a reason begins with its opening. -/
theorem opening_prefix_message (reason : Reason) :
    reason.opening.toList <+: reason.message.toList := by
  -- `delta` opens the table of wordings as it stands; its equations, one for each of two dozen
  -- patterns, are slow to prove.
  cases reason <;> delta message opening <;> dsimp only <;>
    simp only [unknownKeyWording, String.toList_append, String.toList_empty, List.append_assoc,
      List.prefix_append, List.prefix_rfl, List.nil_prefix]

/-- A steady reason begins neither like an unknown key nor like a cycle. -/
theorem opening_of_isSteady {reason : Reason} (steady : reason.isSteady = true) :
    ¬ reason.opening.toList <+: unknownKeyWording.toList
      ∧ ¬ reason.opening.toList <+: cycleWording.toList
      ∧ ¬ cycleWording.toList <+: reason.opening.toList := by
  cases reason with
  | forbiddenField key =>
    rw [isSteady, Bool.or_eq_true, beq_iff_eq, beq_iff_eq] at steady
    rcases steady with rfl | rfl <;> rw [opening] <;> decide
  | unrecognizedField => cases steady
  | cycle => cases steady
  | unreadable => cases steady
  | remark => cases steady
  | _ => simp only [opening]; decide

/-- A steady reason is worded neither as an unknown key nor as a cycle. -/
theorem wording_of_isSteady {reason : Reason} (steady : reason.isSteady = true) :
    reason.reportsUnknownKey = false ∧ reason.reportsCycle = false := by
  obtain ⟨notKey, notCycle, notLonger⟩ := opening_of_isSteady steady
  have opens := opening_prefix_message reason
  constructor
  · rw [reportsUnknownKey, beq_eq_false_iff_ne]
    intro same
    exact notKey (same ▸ opens)
  · rw [reportsCycle, Bool.eq_false_iff]
    intro worded
    rcases List.prefix_or_prefix_of_prefix opens (List.isPrefixOf_iff_prefix.mp worded) with
      short | long
    · exact notCycle short
    · exact notLonger long

theorem wording_unrecognizedField :
    unrecognizedField.reportsUnknownKey = true ∧ unrecognizedField.reportsCycle = false := by
  decide

theorem wording_cycle (ids : List String) :
    (cycle ids).reportsUnknownKey = false ∧ (cycle ids).reportsCycle = true := by
  have opens := opening_prefix_message (cycle ids)
  have begins : cycleWording.toList <+: (cycle ids).opening.toList := by rw [opening]; decide
  have differs : ¬ (cycle ids).opening.toList <+: unknownKeyWording.toList := by rw [opening]; decide
  constructor
  · rw [reportsUnknownKey, beq_eq_false_iff_ne]
    intro same
    exact differs (same ▸ opens)
  · exact List.isPrefixOf_iff_prefix.mpr (begins.trans opens)

end PageAttributes.Reason
