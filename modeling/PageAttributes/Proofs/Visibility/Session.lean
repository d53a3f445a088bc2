/-
**What is known while nodes are decided.**

* `Session.Tidy` — the stack is made of different nodes, and exactly they are in progress;
* `Session.Agrees`, `Session.Extends` — a valuation agrees with what has been decided, and what has
  been decided stays so;
* `Catalog.Invariant` — the stack is a chain of different nodes that wait for one another, exactly
  they are in progress, and whatever has been decided is what every valuation would give that agrees
  with the session, and what every fixed valuation gives;
* `Catalog.Invariant.enter`, `Catalog.Invariant.leave` — a node that is begun and one that is ended
  keep it.

Nothing is said about nodes that are still pending. That is why a cycle which no decision runs into
leaves no trace in a session.
-/

import PageAttributes.Proofs.Grammar.Search
import PageAttributes.Proofs.Visibility.Rule

namespace PageAttributes

namespace Session

variable {session : Session} {catalog : Catalog} {node other : Node}

/-! ### Progress -/

/-- A session keeps note of the nodes of a catalog. -/
structure Fits (catalog : Catalog) (session : Session) : Prop where
  attributes : session.attributes.length = catalog.attributes.length
  groups : session.groups.length = catalog.groups.length

theorem progress_note_other (different : other ≠ node) (progress : Progress) :
    (session.note node progress).progress other = session.progress other := by
  obtain position | number := node <;> obtain position' | number' := other
  · have apart : position ≠ position' := fun same => different (congrArg Node.attribute same.symm)
    simp [note, Session.progress, List.getElem?_set_ne apart]
  · rfl
  · rfl
  · have apart : number ≠ number' := fun same => different (congrArg Node.group same.symm)
    simp [note, Session.progress, List.getElem?_set_ne apart]

theorem progress_note_self (fits : session.Fits catalog) (known : catalog.Has node)
    (progress : Progress) : (session.note node progress).progress node = progress := by
  obtain position | number := node
  · have inside : position < session.attributes.length := by rw [fits.attributes]; exact known
    simp [note, Session.progress, List.getElem?_set_self inside]
  · have inside : number < session.groups.length := by rw [fits.groups]; exact known
    simp [note, Session.progress, List.getElem?_set_self inside]

theorem Fits.note (fits : session.Fits catalog) (node : Node) (progress : Progress) :
    (session.note node progress).Fits catalog := by
  obtain ⟨attributes, groups⟩ := fits
  obtain position | number := node
  · exact ⟨by rw [Session.note, List.length_set, attributes], groups⟩
  · exact ⟨attributes, by rw [Session.note, List.length_set, groups]⟩

theorem Fits.enter (fits : session.Fits catalog) (node : Node) :
    (session.enter node).Fits catalog := by
  obtain ⟨attributes, groups⟩ := fits.note node .inProgress
  exact ⟨attributes, groups⟩

theorem Fits.leave (fits : session.Fits catalog) (node : Node) (outcome : Bool) :
    (session.leave node outcome).Fits catalog := by
  obtain ⟨attributes, groups⟩ := fits.note node (.resolved outcome)
  exact ⟨attributes, groups⟩

@[simp] theorem progress_enter (session : Session) (node other : Node) :
    (session.enter node).progress other = (session.note node .inProgress).progress other := by
  obtain position | number := other <;> rfl

@[simp] theorem progress_leave (session : Session) (node other : Node) (outcome : Bool) :
    (session.leave node outcome).progress other
      = (session.note node (.resolved outcome)).progress other := by
  obtain position | number := other <;> rfl

@[simp] theorem stack_enter (session : Session) (node : Node) :
    (session.enter node).stack = node :: session.stack := rfl

@[simp] theorem stack_leave (session : Session) (node : Node) (outcome : Bool) :
    (session.leave node outcome).stack = session.stack.drop 1 := rfl

/-- At first every node is pending. -/
theorem progress_initial (catalog : Catalog) (node : Node) :
    (initial catalog).progress node = .pending := by
  obtain position | number := node
  · simp only [initial, progress, List.getElem?_map]
    cases catalog.attributes[position]? <;> rfl
  · simp only [initial, progress, List.getElem?_map]
    cases catalog.groups[number]? <;> rfl

/-! ### The stack -/

/-- The stack is made of different nodes of a catalog, and exactly they are in progress. -/
structure Tidy (catalog : Catalog) (session : Session) : Prop where
  fits : session.Fits catalog
  open_ : ∀ node, session.progress node = .inProgress ↔ node ∈ session.stack
  distinct : session.stack.Nodup
  known : ∀ node ∈ session.stack, catalog.Has node

theorem tidy_initial (catalog : Catalog) : (initial catalog).Tidy catalog := by
  refine ⟨⟨by simp [initial], by simp [initial]⟩, fun node => ?_, List.nodup_nil, fun _ => nofun⟩
  rw [progress_initial catalog node]
  exact ⟨nofun, nofun⟩

/-- A pending node is not on the stack. -/
theorem Tidy.not_mem_of_pending (tidy : session.Tidy catalog)
    (pending : session.progress node = .pending) : node ∉ session.stack := by
  intro member
  rw [← tidy.open_ node, pending] at member
  cases member

/-- A pending node can be begun. -/
theorem Tidy.enter (tidy : session.Tidy catalog) (known : catalog.Has node)
    (pending : session.progress node = .pending) : (session.enter node).Tidy catalog := by
  refine ⟨tidy.fits.enter node, fun other => ?_,
    List.nodup_cons.mpr ⟨tidy.not_mem_of_pending pending, tidy.distinct⟩,
    List.forall_mem_cons.mpr ⟨known, tidy.known⟩⟩
  rw [progress_enter, stack_enter, List.mem_cons]
  by_cases same : other = node
  · subst same
    exact ⟨fun _ => Or.inl rfl, fun _ => progress_note_self tidy.fits known _⟩
  · rw [progress_note_other same, tidy.open_ other]
    exact ⟨Or.inr, fun either => either.resolve_left same⟩

/-- The last node that was begun can be ended. -/
theorem Tidy.leave (tidy : session.Tidy catalog) {below : List Node}
    (last : session.stack = node :: below) (outcome : Bool) :
    (session.leave node outcome).Tidy catalog := by
  have known := tidy.known node (last ▸ List.mem_cons_self)
  have distinct := tidy.distinct
  rw [last] at distinct
  obtain ⟨outside, distinct⟩ := List.nodup_cons.mp distinct
  have rest : (session.leave node outcome).stack = below := by
    rw [stack_leave, last, List.drop_one, List.tail_cons]
  refine ⟨tidy.fits.leave node outcome, fun other => ?_, rest ▸ distinct, fun other inside => ?_⟩
  · rw [progress_leave, rest]
    by_cases same : other = node
    · subst same
      rw [progress_note_self tidy.fits known]
      exact ⟨nofun, fun member => (outside member).elim⟩
    · rw [progress_note_other same, tidy.open_ other, last, List.mem_cons]
      exact ⟨fun either => either.resolve_left same, Or.inr⟩
  · rw [rest] at inside
    exact tidy.known other (last ▸ List.mem_cons_of_mem node inside)

/-! ### What has been decided -/

/-- A valuation agrees with what has been decided. -/
def Agrees (session : Session) (valuation : Valuation) : Prop :=
  ∀ node outcome, session.progress node = .resolved outcome → valuation node = outcome

/-- Whatever has been decided stays so. -/
def Extends (before after : Session) : Prop :=
  ∀ node outcome, before.progress node = .resolved outcome →
    after.progress node = .resolved outcome

theorem Extends.refl (session : Session) : session.Extends session := fun _ _ decided => decided

theorem Extends.trans {first second third : Session} (early : first.Extends second)
    (late : second.Extends third) : first.Extends third :=
  fun node outcome decided => late node outcome (early node outcome decided)

/-- What agrees with more agrees with less. -/
theorem Agrees.of_extends {before after : Session} (extended : before.Extends after)
    {valuation : Valuation} (agrees : after.Agrees valuation) : before.Agrees valuation :=
  fun node outcome decided => agrees node outcome (extended node outcome decided)

/-- The nodes apply that have been decided to. -/
def valuation (session : Session) : Valuation :=
  fun node => decide (session.progress node = .resolved true)

theorem agrees_valuation (session : Session) : session.Agrees session.valuation := by
  intro node outcome decided
  unfold valuation
  rw [decided]
  cases outcome <;> rfl

/-- What all valuations give that agree with a session has been decided. -/
theorem resolved_of_agrees {outcome : Bool}
    (given : ∀ valuation, session.Agrees valuation → valuation node = outcome) :
    session.progress node = .resolved outcome := by
  by_contra undecided
  have flipped : session.Agrees fun other =>
      if other = node then !outcome else session.valuation other := by
    intro other value decided
    have same := agrees_valuation session other value decided
    by_cases self : other = node
    · subst self
      rw [given _ (agrees_valuation session)] at same
      exact (undecided (same ▸ decided)).elim
    · simp only [if_neg self]
      exact same
  have contrary := given _ flipped
  simp at contrary

/-- To begin a pending node decides nothing, and takes no decision back. -/
theorem resolved_enter_iff (fits : session.Fits catalog) (known : catalog.Has node)
    (pending : session.progress node = .pending) (other : Node) (outcome : Bool) :
    (session.enter node).progress other = .resolved outcome
      ↔ session.progress other = .resolved outcome := by
  rw [progress_enter]
  by_cases same : other = node
  · subst same
    rw [progress_note_self fits known, pending]
    exact ⟨nofun, nofun⟩
  · rw [progress_note_other same]

/-- To end a node in progress decides it, and nothing else. -/
theorem resolved_leave_iff (fits : session.Fits catalog) (known : catalog.Has node)
    (open_ : session.progress node = .inProgress) (outcome : Bool) (other : Node)
    (decided : Bool) :
    (session.leave node outcome).progress other = .resolved decided
      ↔ session.progress other = .resolved decided ∨ other = node ∧ outcome = decided := by
  rw [progress_leave]
  by_cases same : other = node
  · subst same
    rw [progress_note_self fits known, open_]
    simp
  · rw [progress_note_other same]
    simp [same]

end Session

/-! ### The invariant -/

namespace Catalog

variable {catalog : Catalog} {assignment : Assignment} {kind : Option NodeType}

/-- What holds between any two steps of deciding the nodes of a catalog. -/
structure Invariant (catalog : Catalog) (assignment : Assignment) (kind : Option NodeType)
    (session : Session) : Prop where
  fits : session.Fits catalog
  open_ : ∀ node, session.progress node = .inProgress ↔ node ∈ session.stack
  distinct : session.stack.Nodup
  chain : session.stack.IsChain fun later earlier => catalog.Depends earlier later
  known : ∀ node ∈ session.stack, catalog.Has node
  settled : ∀ valuation, session.Agrees valuation → ∀ node outcome,
    session.progress node = .resolved outcome →
      catalog.applies assignment kind valuation node = outcome
  forced : ∀ valuation, catalog.IsFixed assignment kind valuation → session.Agrees valuation

theorem invariant_initial (catalog : Catalog) (assignment : Assignment) (kind : Option NodeType) :
    Invariant catalog assignment kind (Session.initial catalog) := by
  have pending := Session.progress_initial catalog
  obtain ⟨fits, open_, distinct, known⟩ := Session.tidy_initial catalog
  refine ⟨fits, open_, distinct, List.isChain_nil, known, fun _ _ node outcome decided => ?_,
    fun _ _ node outcome decided => ?_⟩
  · rw [pending node] at decided
    cases decided
  · rw [pending node] at decided
    cases decided

variable {session : Session} {node : Node}

theorem Invariant.tidy (invariant : Invariant catalog assignment kind session) :
    session.Tidy catalog :=
  ⟨invariant.fits, invariant.open_, invariant.distinct, invariant.known⟩

/-- A pending node does not wait. -/
theorem Invariant.not_mem_of_pending (invariant : Invariant catalog assignment kind session)
    (pending : session.progress node = .pending) : node ∉ session.stack :=
  invariant.tidy.not_mem_of_pending pending

/-- A pending node can be begun if the last one that was begun waits for it. -/
theorem Invariant.enter (invariant : Invariant catalog assignment kind session)
    (known : catalog.Has node) (pending : session.progress node = .pending)
    (waits : ∀ last ∈ session.stack.head?, catalog.Depends last node) :
    Invariant catalog assignment kind (session.enter node) := by
  have decided := Session.resolved_enter_iff invariant.fits known pending
  obtain ⟨fits, open_, distinct, known⟩ := invariant.tidy.enter known pending
  refine ⟨fits, open_, distinct, List.isChain_cons.mpr ⟨waits, invariant.chain⟩, known,
    fun valuation agrees other outcome known => ?_, fun valuation isFixed other outcome known => ?_⟩
  · exact invariant.settled valuation (fun other outcome known => agrees other outcome
      ((decided other outcome).mpr known)) other outcome ((decided other outcome).mp known)
  · exact invariant.forced valuation isFixed other outcome ((decided other outcome).mp known)

/-- The last node that was begun can be ended with what every valuation gives that agrees with the
session. -/
theorem Invariant.leave (invariant : Invariant catalog assignment kind session)
    {below : List Node} (last : session.stack = node :: below) {outcome : Bool}
    (gives : ∀ valuation, session.Agrees valuation →
      catalog.applies assignment kind valuation node = outcome) :
    Invariant catalog assignment kind (session.leave node outcome) := by
  have member : node ∈ session.stack := last ▸ List.mem_cons_self
  have known := invariant.known node member
  have open_ := (invariant.open_ node).mpr member
  have decided := Session.resolved_leave_iff invariant.fits known open_ outcome
  have chain := invariant.chain
  rw [last] at chain
  have less : ∀ valuation, (session.leave node outcome).Agrees valuation →
      session.Agrees valuation :=
    fun valuation agrees other value known =>
      agrees other value ((decided other value).mpr (Or.inl known))
  obtain ⟨fits, open_, distinct, known'⟩ := invariant.tidy.leave last outcome
  refine ⟨fits, open_, distinct, ?_, known', fun valuation agrees other value ended => ?_,
    fun valuation isFixed other value ended => ?_⟩
  · rw [Session.stack_leave, last]
    exact chain.tail
  · rcases (decided other value).mp ended with before | ⟨rfl, rfl⟩
    · exact invariant.settled valuation (less valuation agrees) other value before
    · exact gives valuation (less valuation agrees)
  · rcases (decided other value).mp ended with before | ⟨rfl, rfl⟩
    · exact invariant.forced valuation isFixed other value before
    · rw [← isFixed other known]
      exact gives valuation (invariant.forced valuation isFixed)

end Catalog

end PageAttributes
