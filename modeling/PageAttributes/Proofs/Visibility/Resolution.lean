/-
**What the resolver reports.**

* `Catalog.listed` — the labels of the nodes that apply, in declaration order;
* `Catalog.ends_visibleAmong` — nodes decided one after another are all decided, and those are
  listed that apply;
* `Catalog.Halts` — what is known of the session in which the resolver stops with an error;
* `Catalog.finalSession` — the session in which the resolver ends;
* `Catalog.justified_of_resolve` — an error of the resolver is justified;
* `Catalog.decided_of_resolve` — where the resolver reports something, every node has been decided,
  and what is reported is what every valuation lists that agrees with the decisions.
-/

import PageAttributes.Proofs.Visibility.Decision

namespace PageAttributes.Catalog

variable {catalog : Catalog} {assignment : Assignment} {kind : Option NodeType}

/-- The labels of the entries whose nodes apply, from a position on. -/
def listed {α : Type} (valuation : Valuation) (node : Nat → Node) (name : α → String)
    (position : Nat) (entries : List α) : List String :=
  ((entries.zipIdx position).filter fun entry => valuation (node entry.2)).map
    fun entry => name entry.1

/-- The labels of all nodes of a catalog that apply. -/
def report (catalog : Catalog) (valuation : Valuation) : VisibilityReport :=
  ⟨listed valuation .group AttributeGroup.name 0 catalog.groups,
    listed valuation .attribute (fun entry => entry.2.id) 0 catalog.attributes⟩

theorem listed_cons {α : Type} (valuation : Valuation) (node : Nat → Node) (name : α → String)
    (position : Nat) (entry : α) (rest : List α) :
    listed valuation node name position (entry :: rest)
      = if valuation (node position) then
          name entry :: listed valuation node name (position + 1) rest
        else listed valuation node name (position + 1) rest := by
  unfold listed
  rw [List.zipIdx_cons, List.filter_cons]
  split <;> rfl

/-- While no node waits, an action decides a node, or it stops with an error where that node is the
first one that waits. -/
def Begins (catalog : Catalog) (assignment : Assignment) (kind : Option NodeType)
    (action : Resolving Bool) (node : Node) : Prop :=
  ∀ session, Invariant catalog assignment kind session → session.stack = [] →
    Ends action session (Gives catalog assignment kind session fun valuation => valuation node)
      fun error after => Stops catalog assignment kind session error after
        ∧ after.stack.getLast? = some node

/-- Nodes are decided one after another, and what is decided first stays so. -/
theorem ends_visibleAmong {α : Type} {decide : Node → Resolving Bool} {node : Nat → Node}
    {name : α → String} (entries : List α) :
    ∀ position, (∀ offset < entries.length, Begins catalog assignment kind
        (decide (node (position + offset))) (node (position + offset))) →
      ∀ session, Invariant catalog assignment kind session → session.stack = [] →
        Ends (visibleAmong decide node name position entries) session
          (fun names after => Invariant catalog assignment kind after ∧ after.stack = []
            ∧ session.Extends after
            ∧ (∀ offset < entries.length, ∃ outcome,
                after.progress (node (position + offset)) = .resolved outcome)
            ∧ ∀ valuation, after.Agrees valuation →
                listed valuation node name position entries = names)
          (fun error after => Stops catalog assignment kind session error after
            ∧ ∃ number, after.stack.getLast? = some (node number)) := by
  induction entries with
  | nil =>
    intro position _ session invariant idle
    exact ends_pure ⟨invariant, idle, Session.Extends.refl session, fun _ => nofun, fun _ _ => rfl⟩
  | cons entry rest ih =>
    intro position decides session invariant idle
    have later : ∀ offset < rest.length, Begins catalog assignment kind
        (decide (node (position + 1 + offset))) (node (position + 1 + offset)) := by
      intro offset inside
      have shifted := decides (offset + 1) (by rw [List.length_cons]; omega)
      rwa [show position + (offset + 1) = position + 1 + offset by omega] at shifted
    rw [visibleAmong]
    refine Ends.bind ((decides 0 (Nat.zero_lt_succ _) session invariant idle).weaken
      (fun outcome between reached => ?_) fun error after stopped => ⟨stopped.1, _, stopped.2⟩)
    obtain ⟨invariant, same, extended, given⟩ := reached
    refine Ends.bind ((ih (position + 1) later between invariant (same.trans idle)).weaken
      (fun names after reached => ends_pure ?_) fun error after stopped =>
        ⟨stopped.1.since extended (same ▸ List.suffix_rfl), stopped.2⟩)
    obtain ⟨invariant, idle, extended', resolved, labels⟩ := reached
    refine ⟨invariant, idle, extended.trans extended', fun offset inside => ?_,
      fun valuation agrees => ?_⟩
    · cases offset with
      | zero => exact ⟨outcome, extended' _ _ (Session.resolved_of_agrees given)⟩
      | succ offset =>
        obtain ⟨value, known⟩ := resolved offset (by rw [List.length_cons] at inside; omega)
        exact ⟨value, by rwa [show position + (offset + 1) = position + 1 + offset by omega]⟩
    · have first : valuation (node position) = outcome :=
        given valuation (agrees.of_extends extended')
      rw [listed_cons, first, labels valuation agrees]

/-- Every node has been decided. -/
def IsComplete (catalog : Catalog) (session : Session) : Prop :=
  ∀ node, catalog.Has node → ∃ outcome, session.progress node = .resolved outcome

/-- The resolver stops with a justified error. Groups are decided first: unless it began with a
group where it stops, every group has been decided. -/
structure Halts (catalog : Catalog) (assignment : Assignment) (kind : Option NodeType)
    (error : VisibilityError) (session : Session) : Prop where
  invariant : Invariant catalog assignment kind session
  justified : catalog.Justified session error
  groupsFirst : (∃ number, session.stack.getLast? = some (.group number))
    ∨ ∀ number < catalog.groups.length, ∃ outcome,
        session.progress (.group number) = .resolved outcome

/-- The resolver decides every node, and lists those that apply. -/
theorem ends_resolving (numbered : catalog.IsNumbered) (assignment : Assignment)
    (kind : Option NodeType) :
    Ends (catalog.resolving assignment kind) (Session.initial catalog)
      (fun report after => Invariant catalog assignment kind after ∧ catalog.IsComplete after
        ∧ ∀ valuation, after.Agrees valuation → catalog.report valuation = report)
      (catalog.Halts assignment kind) := by
  have begins node (known : catalog.Has node) : Begins catalog assignment kind
      (visible catalog assignment kind chainLimit node) node :=
    fun _ invariant idle => ends_visible numbered known invariant idle
  rw [resolving]
  refine Ends.bind ((ends_visibleAmong catalog.groups 0 (fun offset inside => begins _ (by
    rw [Nat.zero_add]; exact inside)) _ (invariant_initial catalog assignment kind) rfl).weaken
      (fun groups between reached => ?_) fun error after stopped =>
        ⟨stopped.1.invariant, stopped.1.justified, Or.inl stopped.2⟩)
  obtain ⟨invariant, idle, _, groupsResolved, groupLabels⟩ := reached
  refine Ends.bind ((ends_visibleAmong catalog.attributes 0 (fun offset inside => begins _ (by
    rw [Nat.zero_add]; exact inside)) _ invariant idle).weaken
      (fun attributes after reached => ends_pure ?_) fun error after stopped =>
        ⟨stopped.1.invariant, stopped.1.justified, Or.inr fun number inside => ?_⟩)
  · obtain ⟨invariant, _, extended, attributesResolved, attributeLabels⟩ := reached
    refine ⟨invariant, fun node known => ?_, fun valuation agrees => ?_⟩
    · match node with
      | .attribute position =>
        obtain ⟨outcome, resolved⟩ := attributesResolved position known
        exact ⟨outcome, by rwa [Nat.zero_add] at resolved⟩
      | .group number =>
        obtain ⟨outcome, resolved⟩ := groupsResolved number known
        exact ⟨outcome, extended _ _ (by rwa [Nat.zero_add] at resolved)⟩
    · rw [Catalog.report, groupLabels valuation (agrees.of_extends extended),
        attributeLabels valuation agrees]
  · obtain ⟨outcome, resolved⟩ := groupsResolved number inside
    exact ⟨outcome, stopped.1.extended _ _ (by rwa [Nat.zero_add] at resolved)⟩

/-- The session in which the resolver ends. -/
def finalSession (catalog : Catalog) (assignment : Assignment) (kind : Option NodeType) : Session :=
  ((catalog.resolving assignment kind).run (Session.initial catalog)).2

section Final

variable {gives : VisibilityReport → Session → Prop} {fails : VisibilityError → Session → Prop}
  {report : VisibilityReport} {error : VisibilityError}

/-- What is said of how the resolver ends is true of what it reports. -/
theorem gives_of_resolve
    (ended : Ends (catalog.resolving assignment kind) (Session.initial catalog) gives fails)
    (resolved : catalog.resolve assignment kind = .ok report) :
    gives report (catalog.finalSession assignment kind) := by
  unfold Ends at ended
  unfold resolve at resolved
  unfold finalSession
  rcases result : (catalog.resolving assignment kind).run (Session.initial catalog) with
    ⟨outcome, after⟩
  rw [result] at ended resolved
  cases resolved
  exact ended

/-- What is said of how the resolver ends is true of the error with which it stops. -/
theorem fails_of_resolve
    (ended : Ends (catalog.resolving assignment kind) (Session.initial catalog) gives fails)
    (failed : catalog.resolve assignment kind = .error error) :
    fails error (catalog.finalSession assignment kind) := by
  unfold Ends at ended
  unfold resolve at failed
  unfold finalSession
  rcases result : (catalog.resolving assignment kind).run (Session.initial catalog) with
    ⟨outcome, after⟩
  rw [result] at ended failed
  cases failed
  exact ended

/-- **An error of the resolver is justified.** -/
theorem justified_of_resolve (numbered : catalog.IsNumbered)
    (failed : catalog.resolve assignment kind = .error error) :
    ∃ session, catalog.Halts assignment kind error session :=
  ⟨_, fails_of_resolve (ends_resolving numbered assignment kind) failed⟩

/-- Where the resolver reports something, every node has been decided in the end, and what is
reported is what every valuation lists that agrees with the decisions. -/
theorem decided_finalSession (numbered : catalog.IsNumbered)
    (resolved : catalog.resolve assignment kind = .ok report) :
    Invariant catalog assignment kind (catalog.finalSession assignment kind)
      ∧ catalog.IsComplete (catalog.finalSession assignment kind)
      ∧ ∀ valuation, (catalog.finalSession assignment kind).Agrees valuation →
          catalog.report valuation = report :=
  gives_of_resolve (ends_resolving numbered assignment kind) resolved

/-- **Where the resolver reports something, every node has been decided**, and what is reported is
what every valuation lists that agrees with the decisions. -/
theorem decided_of_resolve (numbered : catalog.IsNumbered)
    (resolved : catalog.resolve assignment kind = .ok report) :
    ∃ after, Invariant catalog assignment kind after ∧ catalog.IsComplete after
      ∧ ∀ valuation, after.Agrees valuation → catalog.report valuation = report :=
  ⟨_, decided_finalSession numbered resolved⟩

end Final

end PageAttributes.Catalog
