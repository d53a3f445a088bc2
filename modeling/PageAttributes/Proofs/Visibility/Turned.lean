/-
**Whose conditions are turned to.**

The conditions of an attribute are turned to once its group is known to apply, and those of any node
only if its kinds are admitted. So a session tells, of the nodes that have been begun in it, whose
conditions have been turned to.

* `Catalog.TurnsTo` — the way to the conditions of a node is free;
* `Catalog.GroupsFirst` — attributes are decided after their groups;
* `Catalog.Turned` — from one session to another, exactly some nodes have been turned to;
* `Catalog.Turned.trans`, `Catalog.Turned.leave` — two parts of a run, and a node from its begin to
  its end.

A part of a run that comes to an answer leaves no node in progress that it has begun. Its nodes are
decided, and so are their groups, which is why later parts turn to none of them again.
-/

import PageAttributes.Proofs.Visibility.Session

namespace PageAttributes

namespace Catalog

variable {catalog : Catalog} {kind : Option NodeType} {session before between after : Session}
  {node : Node} {turned : List Node}

/-- The way to the conditions of a node is free: its group applies, if it has one, and its kinds are
admitted. -/
def TurnsTo (catalog : Catalog) (kind : Option NodeType) (session : Session) : Node → Prop
  | .attribute position => ∃ group declared,
      catalog.attributes[position]? = some (group, declared)
        ∧ (∀ number, group = some number → session.progress (.group number) = .resolved true)
        ∧ admits declared.nodeTypes kind = true
  | .group number => ∃ gathered, catalog.groups[number]? = some gathered
      ∧ admits gathered.nodeTypes kind = true

/-- The group of a node has been decided, if it has one. -/
def HasGroupDecided (catalog : Catalog) (session : Session) (node : Node) : Prop :=
  ∀ position number declared, node = .attribute position →
    catalog.attributes[position]? = some (some number, declared) →
      ∃ outcome, session.progress (.group number) = .resolved outcome

/-- Attributes are decided after their groups. -/
def GroupsFirst (catalog : Catalog) (session : Session) : Prop :=
  ∀ node outcome, session.progress node = .resolved outcome → catalog.HasGroupDecided session node

section Entries

variable {position number : Nat} {declared : Attribute} {gathered : AttributeGroup}

theorem turnsTo_group_iff (there : catalog.groups[number]? = some gathered) :
    catalog.TurnsTo kind session (.group number) ↔ admits gathered.nodeTypes kind = true := by
  simp only [TurnsTo, there, Option.some.injEq, exists_eq_left']

theorem turnsTo_single_iff (there : catalog.attributes[position]? = some (none, declared)) :
    catalog.TurnsTo kind session (.attribute position)
      ↔ admits declared.nodeTypes kind = true := by
  simp [TurnsTo, there]

theorem turnsTo_member_iff (there : catalog.attributes[position]? = some (some number, declared)) :
    catalog.TurnsTo kind session (.attribute position)
      ↔ session.progress (.group number) = .resolved true
        ∧ admits declared.nodeTypes kind = true := by
  simp [TurnsTo, there]

/-- A group stands in no other group. -/
theorem hasGroupDecided_group : catalog.HasGroupDecided session (.group number) := by
  rintro _ _ _ ⟨⟩

theorem hasGroupDecided_single (there : catalog.attributes[position]? = some (none, declared)) :
    catalog.HasGroupDecided session (.attribute position) := by
  rintro _ _ _ ⟨⟩ here
  rw [there] at here
  cases here

theorem hasGroupDecided_member (there : catalog.attributes[position]? = some (some number, declared))
    {outcome : Bool} (decided : session.progress (.group number) = .resolved outcome) :
    catalog.HasGroupDecided session (.attribute position) := by
  rintro _ _ _ ⟨⟩ here
  rw [there] at here
  cases here
  exact ⟨outcome, decided⟩

end Entries

theorem HasGroupDecided.extend (decided : catalog.HasGroupDecided before node)
    (extended : before.Extends after) : catalog.HasGroupDecided after node := by
  intro position number declared same there
  obtain ⟨outcome, around⟩ := decided position number declared same there
  exact ⟨outcome, extended _ _ around⟩

/-- A way that is free stays so. -/
theorem TurnsTo.extend (turns : catalog.TurnsTo kind before node)
    (extended : before.Extends after) : catalog.TurnsTo kind after node := by
  match node with
  | .group _ => exact turns
  | .attribute _ =>
    obtain ⟨group, declared, there, around, admitted⟩ := turns
    exact ⟨group, declared, there, fun number its => extended _ _ (around number its), admitted⟩

/-- Once the group has been decided, a way that will be free is free. -/
theorem TurnsTo.of_extend (turns : catalog.TurnsTo kind after node)
    (extended : before.Extends after) (decided : catalog.HasGroupDecided before node) :
    catalog.TurnsTo kind before node := by
  match node with
  | .group _ => exact turns
  | .attribute position =>
    obtain ⟨group, declared, there, around, admitted⟩ := turns
    refine ⟨group, declared, there, fun number its => ?_, admitted⟩
    subst its
    obtain ⟨outcome, known⟩ := decided position number declared rfl there
    rw [known, ← extended _ _ known, around number rfl]

/-! ### Sessions -/

/-- A session that arises while nodes are decided. -/
structure Proper (catalog : Catalog) (session : Session) : Prop where
  tidy : session.Tidy catalog
  groupsFirst : catalog.GroupsFirst session

theorem proper_initial (catalog : Catalog) : catalog.Proper (Session.initial catalog) where
  tidy := Session.tidy_initial catalog
  groupsFirst := by
    intro node outcome decided
    rw [Session.progress_initial] at decided
    cases decided

theorem Proper.enter (proper : catalog.Proper session) (known : catalog.Has node)
    (pending : session.progress node = .pending) : catalog.Proper (session.enter node) where
  tidy := proper.tidy.enter known pending
  groupsFirst := by
    have decided := Session.resolved_enter_iff proper.tidy.fits known pending
    intro other outcome ended
    exact (proper.groupsFirst other outcome ((decided other outcome).mp ended)).extend
      fun other outcome before => (decided other outcome).mpr before

/-- To end the last node that was begun takes no decision back. -/
theorem Proper.extends_leave (proper : catalog.Proper session) {below : List Node}
    (last : session.stack = node :: below) (outcome : Bool) :
    session.Extends (session.leave node outcome) := by
  have member : node ∈ session.stack := last ▸ List.mem_cons_self
  have decided := Session.resolved_leave_iff proper.tidy.fits (proper.tidy.known node member)
    ((proper.tidy.open_ node).mpr member) outcome
  exact fun other value before => (decided other value).mpr (Or.inl before)

/-- The last node that was begun can be ended once its group has been decided. -/
theorem Proper.leave (proper : catalog.Proper session) {below : List Node}
    (last : session.stack = node :: below) (outcome : Bool)
    (around : catalog.HasGroupDecided session node) :
    catalog.Proper (session.leave node outcome) where
  tidy := proper.tidy.leave last outcome
  groupsFirst := by
    have extended := proper.extends_leave last outcome
    have member : node ∈ session.stack := last ▸ List.mem_cons_self
    have decided := Session.resolved_leave_iff proper.tidy.fits (proper.tidy.known node member)
      ((proper.tidy.open_ node).mpr member) outcome
    intro other value ended
    rcases (decided other value).mp ended with before | ⟨rfl, -⟩
    · exact (proper.groupsFirst other value before).extend extended
    · exact around.extend extended

/-- A node that has been begun and does not wait has been decided. -/
theorem Proper.exists_decided (proper : catalog.Proper session)
    (begun : session.progress node ≠ .pending) (ended : node ∉ session.stack) :
    ∃ outcome, session.progress node = .resolved outcome := by
  cases progress : session.progress node with
  | pending => exact absurd progress begun
  | inProgress => exact absurd ((proper.tidy.open_ node).mp progress) ended
  | resolved outcome => exact ⟨outcome, rfl⟩

/-! ### Parts of a run -/

/-- From one session to another, exactly some nodes have been turned to: of those that have been
begun, and of `own`, which was in progress already, those with a free way. What was in progress still
is. -/
structure Turned (catalog : Catalog) (kind : Option NodeType) (own : Option Node)
    (before after : Session) (turned : List Node) : Prop where
  extended : before.Extends after
  open_ : ∀ node, before.progress node = .inProgress → after.progress node = .inProgress
  exact_ : ∀ node, node ∈ turned ↔ (own = some node ∨ before.progress node = .pending)
    ∧ after.progress node ≠ .pending ∧ catalog.TurnsTo kind after node

/-- A node that has been begun stays so. -/
theorem Turned.begun {own : Option Node} (turned' : Turned catalog kind own before after turned)
    (begun : before.progress node ≠ .pending) : after.progress node ≠ .pending := by
  cases progress : before.progress node with
  | pending => exact absurd progress begun
  | inProgress =>
    rw [turned'.open_ node progress]
    exact nofun
  | resolved outcome =>
    rw [turned'.extended node outcome progress]
    exact nofun

/-- Where nothing happens no node is turned to. -/
theorem Turned.refl (session : Session) : Turned catalog kind none session session [] where
  extended := .refl session
  open_ := fun _ open_ => open_
  exact_ := by
    intro node
    refine ⟨nofun, fun ⟨early, late, _⟩ => ?_⟩
    exact absurd (early.resolve_left nofun) late

/-- The nodes of two parts of a run, of which the first one comes to an answer. -/
theorem Turned.trans {own : Option Node} {later : List Node} (proper : catalog.Proper before)
    (proper' : catalog.Proper between) (waiting : between.stack = before.stack)
    (early : Turned catalog kind none before between turned)
    (late : Turned catalog kind own between after later) :
    Turned catalog kind own before after (later ++ turned) where
  extended := early.extended.trans late.extended
  open_ := fun node open_ => late.open_ node (early.open_ node open_)
  exact_ := by
    intro node
    rw [List.mem_append, late.exact_, early.exact_]
    constructor
    · rintro (⟨own | pending, begun, turns⟩ | ⟨pending, begun, turns⟩)
      · exact ⟨Or.inl own, begun, turns⟩
      · refine ⟨Or.inr ?_, begun, turns⟩
        by_contra started
        exact early.begun started pending
      · exact ⟨Or.inr (pending.resolve_left nofun), late.begun begun,
          turns.extend late.extended⟩
    · rintro ⟨own | pending, begun, turns⟩
      · exact Or.inl ⟨Or.inl own, begun, turns⟩
      · by_cases still : between.progress node = .pending
        · exact Or.inl ⟨Or.inr still, begun, turns⟩
        -- The first part has begun it, and so has decided it, and its group before it.
        · have ended := proper.tidy.not_mem_of_pending pending
          obtain ⟨outcome, decided⟩ := proper'.exists_decided still (waiting ▸ ended)
          have around := proper'.groupsFirst node outcome decided
          exact Or.inr ⟨Or.inr pending, still, turns.of_extend late.extended around⟩

/-- The conditions of a node in progress are turned to, before anything else is. -/
theorem Turned.own (rest : Turned catalog kind none before after turned)
    (open_ : before.progress node ≠ .pending) (turns : catalog.TurnsTo kind after node) :
    Turned catalog kind (some node) before after (turned ++ [node]) where
  extended := rest.extended
  open_ := rest.open_
  exact_ := by
    intro other
    rw [List.mem_append, List.mem_singleton, rest.exact_]
    constructor
    · rintro (⟨pending, begun, turns⟩ | rfl)
      · exact ⟨Or.inr (pending.resolve_left nofun), begun, turns⟩
      · exact ⟨Or.inl rfl, rest.begun open_, turns⟩
    · rintro ⟨same | pending, begun, turns⟩
      · exact Or.inr (Option.some.inj same).symm
      · exact Or.inl ⟨Or.inr pending, begun, turns⟩

/-- The conditions of a node in progress are not turned to. -/
theorem Turned.notOwn (rest : Turned catalog kind none before after turned)
    (refused : ¬ catalog.TurnsTo kind after node) :
    Turned catalog kind (some node) before after turned where
  extended := rest.extended
  open_ := rest.open_
  exact_ := by
    intro other
    rw [rest.exact_]
    constructor
    · rintro ⟨pending, begun, turns⟩
      exact ⟨Or.inr (pending.resolve_left nofun), begun, turns⟩
    · rintro ⟨same | pending, begun, turns⟩
      · cases same
        exact absurd turns refused
      · exact ⟨Or.inr pending, begun, turns⟩

/-- What happens after a node has been begun, since before that. -/
theorem Turned.of_enter (proper : catalog.Proper before) (known : catalog.Has node)
    (pending : before.progress node = .pending)
    (rest : Turned catalog kind (some node) (before.enter node) after turned) :
    Turned catalog kind none before after turned := by
  have self : (before.enter node).progress node = .inProgress := by
    rw [Session.progress_enter, Session.progress_note_self proper.tidy.fits known]
  have other {next : Node} (apart : next ≠ node) :
      (before.enter node).progress next = before.progress next := by
    rw [Session.progress_enter, Session.progress_note_other apart]
  refine ⟨fun next outcome decided => rest.extended next outcome ?_, fun next open_ =>
    rest.open_ next ?_, fun next => ?_⟩
  · exact (Session.resolved_enter_iff proper.tidy.fits known pending next outcome).mpr decided
  · by_cases same : next = node
    · rw [same, self]
    · rwa [other same]
  · rw [rest.exact_]
    refine and_congr_left fun _ => ?_
    by_cases same : next = node
    · subst same
      exact ⟨fun _ => Or.inr pending, fun _ => Or.inl rfl⟩
    · rw [other same]
      exact or_congr_left (iff_of_false (fun its => same (Option.some.inj its).symm) nofun)

/-- A node from its begin to its end. -/
theorem Turned.leave (proper : catalog.Proper before) (proper' : catalog.Proper after)
    (last : after.stack = node :: before.stack) (around : catalog.HasGroupDecided after node)
    (outcome : Bool) (rest : Turned catalog kind none before after turned) :
    Turned catalog kind none before (after.leave node outcome) turned := by
  have extended := proper'.extends_leave last outcome
  have member : node ∈ after.stack := last ▸ List.mem_cons_self
  have begun (next : Node) :
      (after.leave node outcome).progress next ≠ .pending ↔ after.progress next ≠ .pending := by
    rw [Session.progress_leave]
    by_cases same : next = node
    · rw [same, Session.progress_note_self proper'.tidy.fits (proper'.tidy.known node member),
        (proper'.tidy.open_ node).mpr member]
      exact ⟨fun _ => nofun, fun _ => nofun⟩
    · rw [Session.progress_note_other same]
  refine ⟨rest.extended.trans extended, fun next open_ => ?_, fun next => ?_⟩
  · have apart : next ≠ node := by
      rintro rfl
      have distinct := proper'.tidy.distinct
      rw [last, List.nodup_cons] at distinct
      exact distinct.1 ((proper.tidy.open_ next).mp open_)
    rw [Session.progress_leave, Session.progress_note_other apart]
    exact rest.open_ next open_
  rw [rest.exact_, begun]
  refine and_congr_right fun pending => and_congr_right fun started => ?_
  refine ⟨fun turns => turns.extend extended, fun turns => turns.of_extend extended ?_⟩
  by_cases same : next = node
  · exact same ▸ around
  -- Whatever else has been begun has come to its end.
  · have outside : next ∉ after.stack := by
      rw [last, List.mem_cons]
      rintro (self | below)
      · exact same self
      · exact proper.tidy.not_mem_of_pending (pending.resolve_left nofun) below
    obtain ⟨value, decided⟩ := proper'.exists_decided started outside
    exact proper'.groupsFirst next value decided

end Catalog

end PageAttributes
