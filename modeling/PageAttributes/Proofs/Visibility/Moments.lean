/-
**The moments of the resolver.**

To say what is true while nodes are decided, the resolver is run one step at a time. A moment is all
that it has in hand between two steps.

* `Moment`, `Moment.step` — a moment, and the next one: an explicit list of remainders takes the
  place of the calls that wait for an answer;
* `Moment.consulted` — the nodes whose conditions have been turned to, a node as often as they were;
* `Moment.Orderly` — the nodes in progress are those on the stack, they are the nodes that remainders
  wait for, and the conditions of a node are turned to at most once;
* `Moment.Sound.step`, `Moment.sound_after` — one step keeps this, and so does a whole run.

The conditions of a node are turned to only when nothing but its end waits for an answer to it, and
with that answer it is decided. A node that is pending, or whose group is being decided, is in neither
state, so its conditions have not been turned to before.
-/

import Mathlib.Logic.Function.Iterate
import PageAttributes.Proofs.Visibility.Settling
import PageAttributes.Trace.Basic

namespace PageAttributes

/-! ### Moments -/

/-- What the resolver is about to do. -/
inductive Task where
  /-- Goes on with what is ahead. -/
  | next
  /-- Looks at what is known about a node. -/
  | decide (node : Node)
  /-- Looks at the restrictions of a node. -/
  | weigh (node : Node) (restrictions : Restrictions)
  /-- Looks at a condition at a depth. -/
  | test (depth : Nat) (condition : Condition)
  /-- Has an answer for what waits for one. -/
  | answer (holds : Bool)
  /-- Does nothing more. -/
  | stop (result : Except VisibilityError VisibilityReport)

/-- What remains to be done once there is an answer. -/
inductive Remainder where
  /-- The group of an attribute has been asked for, and the restrictions of the attribute remain. -/
  | around (node : Node) (restrictions : Restrictions)
  /-- The answer is whether a node applies. -/
  | outcome (node : Node)
  /-- The answer is whether the attribute applies that a condition reads. -/
  | leaf (id : String) (expected : ConditionValue)
  /-- The answer is about one condition of a list, and the others remain. -/
  | members (operator : Operator) (depth : Nat) (rest : List Condition)

/-- The node that is in progress until something remains no longer. -/
def Remainder.node? : Remainder → Option Node
  | .around node _ => some node
  | .outcome node => some node
  | .leaf _ _ => none
  | .members _ _ _ => none

/-- All that the resolver has in hand between two steps. -/
structure Moment where
  session : Session
  task : Task
  /-- What waits for an answer, the last one first. -/
  awaiting : List Remainder
  /-- The nodes whose conditions have been turned to, the last one first. -/
  consulted : List Node
  /-- What has been reported so far. -/
  found : VisibilityReport
  /-- The nodes that are still to be reported on, with their names. -/
  ahead : List (Node × String)

/-- Lists the name of a node that applies. -/
def VisibilityReport.add (report : VisibilityReport) (name : String) : Node → VisibilityReport
  | .group _ => { report with groups := report.groups ++ [name] }
  | .attribute _ => { report with attributes := report.attributes ++ [name] }

namespace Catalog

/-- Some groups or attributes as nodes, with their names. -/
def entriesFrom {α : Type} (node : Nat → Node) (name : α → String) (position : Nat)
    (entries : List α) : List (Node × String) :=
  (entries.zipIdx position).map fun entry => (node entry.2, name entry.1)

/-- All groups and attributes as nodes, with their names. -/
def entries (catalog : Catalog) : List (Node × String) :=
  entriesFrom .group AttributeGroup.name 0 catalog.groups
    ++ entriesFrom .attribute (fun entry => entry.2.id) 0 catalog.attributes

/-- What to do with a node that has been begun, and what remains then. -/
def opening (catalog : Catalog) : Node → Task × Remainder
  | .attribute position =>
    match catalog.attributes[position]? with
    | none => (.answer false, .outcome (.attribute position))
    | some (none, declared) =>
      (.weigh (.attribute position) declared.restrictions, .outcome (.attribute position))
    | some (some number, declared) =>
      (.decide (.group number), .around (.attribute position) declared.restrictions)
  | .group number =>
    match catalog.groups[number]? with
    | none => (.answer false, .outcome (.group number))
    | some gathered => (.weigh (.group number) gathered.restrictions, .outcome (.group number))

variable {catalog : Catalog} {node : Node}

theorem mem_entriesFrom {α : Type} {node : Nat → Node} {name : α → String} {entries : List α}
    {entry : Node × String} :
    entry ∈ entriesFrom node name 0 entries
      ↔ ∃ position, ∃ inside : position < entries.length,
          entry = (node position, name entries[position]) := by
  rw [entriesFrom, List.mem_map]
  constructor
  · rintro ⟨⟨value, position⟩, member, rfl⟩
    obtain ⟨inside, same⟩ := List.getElem?_eq_some_iff.mp (List.mem_zipIdx_iff_getElem?.mp member)
    exact ⟨position, inside, by rw [same]⟩
  · rintro ⟨position, inside, rfl⟩
    exact ⟨(entries[position], position),
      List.mem_zipIdx_iff_getElem?.mpr (List.getElem?_eq_getElem inside), rfl⟩

/-- The nodes of a catalog are those of its entries. -/
theorem mem_entries_iff : node ∈ catalog.entries.map Prod.fst ↔ catalog.Has node := by
  simp only [entries, List.map_append, List.mem_append, List.mem_map, mem_entriesFrom]
  constructor
  · rintro (⟨_, ⟨_, inside, rfl⟩, rfl⟩ | ⟨_, ⟨_, inside, rfl⟩, rfl⟩) <;> exact inside
  · intro known
    match node with
    | .attribute position => exact Or.inr ⟨_, ⟨position, known, rfl⟩, rfl⟩
    | .group number => exact Or.inl ⟨_, ⟨number, known, rfl⟩, rfl⟩

/-- A node that has been begun is either answered at once, or its restrictions are looked at, or
first those of its group. -/
theorem opening_cases (catalog : Catalog) (node : Node) :
    catalog.opening node = (.answer false, .outcome node)
      ∨ (∃ restrictions : Restrictions,
          catalog.opening node = (.weigh node restrictions, .outcome node)
            ∧ restrictions.conditions.getD [] = catalog.conditionsOf node)
      ∨ ∃ (restrictions : Restrictions) (next : Node),
          catalog.opening node = (.decide next, .around node restrictions)
            ∧ restrictions.conditions.getD [] = catalog.conditionsOf node
            ∧ (catalog.IsNumbered → catalog.Has next) := by
  match node with
  | .attribute position =>
    rw [opening, conditionsOf]
    cases there : catalog.attributes[position]? with
    | none => exact Or.inl rfl
    | some entry =>
      obtain ⟨_ | number, declared⟩ := entry
      · exact Or.inr (Or.inl ⟨_, rfl, rfl⟩)
      · exact Or.inr (Or.inr ⟨_, _, rfl, rfl, fun numbered =>
          numbered _ (List.mem_of_getElem? there) number rfl⟩)
  | .group number =>
    rw [opening, conditionsOf]
    cases catalog.groups[number]? with
    | none => exact Or.inl rfl
    | some gathered => exact Or.inr (Or.inl ⟨_, rfl, rfl⟩)

theorem node?_opening (catalog : Catalog) (node : Node) :
    (catalog.opening node).2.node? = some node := by
  rcases opening_cases catalog node with same | ⟨_, same, _⟩ | ⟨_, _, same, _⟩ <;>
    rw [same, Remainder.node?]

end Catalog

namespace Moment

/-! ### Steps -/

/-- Before the first step. -/
def first (catalog : Catalog) : Moment :=
  ⟨Session.initial catalog, .next, [], [], .empty, catalog.entries⟩

/-- Turns to something else. -/
def turn (moment : Moment) (task : Task) : Moment := { moment with task := task }

/-- Turns to something else, with something that remains to be done afterwards. -/
def suspend (moment : Moment) (remainder : Remainder) (task : Task) : Moment :=
  { moment with task := task, awaiting := remainder :: moment.awaiting }

/-- Gives up. -/
def fail (moment : Moment) (error : VisibilityError) : Moment := moment.turn (.stop (.error error))

/-- Turns to the first of some conditions. If there is none, all of them hold, and not any. -/
def test (moment : Moment) (operator : Operator) (depth : Nat) : List Condition → Moment
  | [] => moment.turn (.answer (!operator.decisive))
  | member :: rest => moment.suspend (.members operator depth rest) (.test depth member)

/-- Turns to the first node that is ahead. -/
def proceed (moment : Moment) : Moment :=
  match moment.ahead with
  | [] => moment.turn (.stop (.ok moment.found))
  | (node, _) :: _ => moment.turn (.decide node)

/-- Begins a node. -/
def begin_ (moment : Moment) (catalog : Catalog) (node : Node) : Moment :=
  { moment with session := moment.session.enter node }.suspend
    (catalog.opening node).2 (catalog.opening node).1

/-- Looks at what is known about a node, and begins it if nothing is. -/
def decide (moment : Moment) (catalog : Catalog) (node : Node) : Moment :=
  match moment.session.progress node with
  | .resolved outcome => moment.turn (.answer outcome)
  | .inProgress => moment.fail (.cycle ((moment.session.loop node).map catalog.label))
  | .pending =>
    if chainLimit ≤ moment.session.stack.length then moment.fail (.tooDeep chainLimit)
    else moment.begin_ catalog node

/-- Turns to the conditions of a node. -/
def consult (moment : Moment) (node : Node) (conditions : List Condition) : Moment :=
  { moment with consulted := node :: moment.consulted }.test .all 1 conditions

/-- Looks at the restrictions of a node. -/
def weigh (moment : Moment) (kind : Option NodeType) (node : Node) (restrictions : Restrictions) :
    Moment :=
  if admits restrictions.nodeTypes kind then
    moment.consult node (restrictions.conditions.getD [])
  else moment.turn (.answer false)

/-- Looks at the attribute that a condition reads. -/
def read (moment : Moment) (catalog : Catalog) (id : String) (expected : ConditionValue) : Moment :=
  match catalog.position? id with
  | none => moment.fail (.unknownAttribute id)
  | some position => moment.suspend (.leaf id expected) (.decide (.attribute position))

/-- Looks at a condition. -/
def look (moment : Moment) (catalog : Catalog) (depth : Nat) (condition : Condition) : Moment :=
  if Condition.depthLimit < depth then moment.fail (.tooDeep Condition.depthLimit)
  else
    match condition with
    | .leaf id expected => moment.read catalog id expected
    | .group operator members => moment.test operator (depth + 1) members

/-- Does what remained to be done until there was an answer. -/
def resume (moment : Moment) (assignment : Assignment) (holds : Bool) : Remainder → Moment
  | .around node restrictions =>
    moment.suspend (.outcome node) (if holds then .weigh node restrictions else .answer false)
  | .outcome node =>
    { moment with session := moment.session.leave node holds }.turn (.answer holds)
  | .leaf id expected => moment.turn (.answer
      ((if holds then assignment.get? id else none).any fun value => value.satisfies expected))
  | .members operator depth rest =>
    if holds = operator.decisive then moment.turn (.answer holds)
    else moment.test operator depth rest

/-- Reports on the first node that is ahead. -/
def record (moment : Moment) (holds : Bool) : Moment :=
  match moment.ahead with
  | [] => moment.turn (.stop (.ok moment.found))
  | (node, name) :: rest =>
    { moment with
      task := .next
      found := if holds then moment.found.add name node else moment.found
      ahead := rest }

/-- Gives an answer to the last one that waits for it. -/
def deliver (moment : Moment) (assignment : Assignment) (holds : Bool) : Moment :=
  match moment.awaiting with
  | [] => moment.record holds
  | remainder :: rest => { moment with awaiting := rest }.resume assignment holds remainder

/-- The next moment. -/
def step (catalog : Catalog) (assignment : Assignment) (kind : Option NodeType) (moment : Moment) :
    Moment :=
  match moment.task with
  | .next => moment.proceed
  | .decide node => moment.decide catalog node
  | .weigh node restrictions => moment.weigh kind node restrictions
  | .test depth condition => moment.look catalog depth condition
  | .answer holds => moment.deliver assignment holds
  | .stop _ => moment

/-- The moment after so many steps of resolving a catalog. -/
def after (catalog : Catalog) (assignment : Assignment) (kind : Option NodeType) (count : Nat) :
    Moment :=
  (step catalog assignment kind)^[count] (first catalog)

/-! ### Order -/

/-- What holds between any two steps, whatever is done next. -/
structure Orderly (catalog : Catalog) (moment : Moment) : Prop where
  tidy : moment.session.Tidy catalog
  bounded : moment.session.stack.length ≤ chainLimit
  begun : moment.session.stack = moment.awaiting.filterMap Remainder.node?
  once : moment.consulted.Nodup
  /-- A node whose conditions have been turned to is decided, or ends with the next answer to it. -/
  weighed : ∀ node ∈ moment.consulted,
    (∃ outcome, moment.session.progress node = .resolved outcome)
      ∨ .outcome node ∈ moment.awaiting
  known : ∀ entry ∈ moment.ahead, catalog.Has entry.1

/-- What is done next concerns a node of the catalog, and if it is to look at restrictions, its
conditions have not been turned to. -/
def Ready (catalog : Catalog) (moment : Moment) : Prop :=
  match moment.task with
  | .decide node => catalog.Has node
  | .weigh node _ => .outcome node ∈ moment.awaiting ∧ node ∉ moment.consulted
  | _ => True

variable {catalog : Catalog} {assignment : Assignment} {kind : Option NodeType} {moment : Moment}
  {node : Node}

theorem orderly_first (catalog : Catalog) : (first catalog).Orderly catalog where
  tidy := Session.tidy_initial catalog
  bounded := Nat.zero_le _
  begun := rfl
  once := List.nodup_nil
  weighed := nofun
  known := fun _ member => Catalog.mem_entries_iff.mp (List.mem_map_of_mem member)

theorem Orderly.turn (orderly : moment.Orderly catalog) (task : Task) :
    (moment.turn task).Orderly catalog :=
  ⟨orderly.tidy, orderly.bounded, orderly.begun, orderly.once, orderly.weighed, orderly.known⟩

/-- What remains of a condition concerns no node in progress. -/
theorem Orderly.suspend (orderly : moment.Orderly catalog) {remainder : Remainder}
    (apart : remainder.node? = none) (task : Task) :
    (moment.suspend remainder task).Orderly catalog where
  tidy := orderly.tidy
  bounded := orderly.bounded
  begun := by
    rw [Moment.suspend, List.filterMap_cons_none apart]
    exact orderly.begun
  once := orderly.once
  weighed := fun node member => (orderly.weighed node member).imp_right (List.mem_cons_of_mem _)
  known := orderly.known

theorem Orderly.test (orderly : moment.Orderly catalog) (operator : Operator) (depth : Nat)
    (conditions : List Condition) : (moment.test operator depth conditions).Orderly catalog := by
  cases conditions with
  | nil => exact orderly.turn _
  | cons member rest => exact orderly.suspend rfl _

theorem ready_test (operator : Operator) (depth : Nat) (conditions : List Condition) :
    (moment.test operator depth conditions).Ready catalog := by
  cases conditions <;> exact trivial

/-- The conditions of a pending node have not been turned to. -/
theorem Orderly.not_mem_consulted (orderly : moment.Orderly catalog)
    (undecided : ∀ outcome, moment.session.progress node ≠ .resolved outcome)
    (apart : .outcome node ∉ moment.awaiting) : node ∉ moment.consulted := by
  intro member
  rcases orderly.weighed node member with ⟨outcome, decided⟩ | waits
  · exact undecided outcome decided
  · exact apart waits

/-- A remainder that ends a node waits for a node in progress. -/
theorem Orderly.mem_stack (orderly : moment.Orderly catalog) {remainder : Remainder}
    (waits : remainder ∈ moment.awaiting) (its : remainder.node? = some node) :
    node ∈ moment.session.stack := by
  rw [orderly.begun]
  exact List.mem_filterMap.mpr ⟨remainder, waits, its⟩

/-- A pending node can be begun while there is room. -/
theorem Orderly.begin_ (orderly : moment.Orderly catalog) (known : catalog.Has node)
    (pending : moment.session.progress node = .pending)
    (room : moment.session.stack.length < chainLimit) :
    (moment.begin_ catalog node).Orderly catalog where
  tidy := orderly.tidy.enter known pending
  bounded := room
  begun := by
    rw [Moment.begin_, Moment.suspend, Session.stack_enter,
      List.filterMap_cons_some (Catalog.node?_opening catalog node), ← orderly.begun]
  once := orderly.once
  weighed := by
    intro other member
    refine (orderly.weighed other member).imp ?_ (List.mem_cons_of_mem _)
    rintro ⟨outcome, decided⟩
    exact ⟨outcome, (Session.resolved_enter_iff orderly.tidy.fits known pending other outcome).mpr
      decided⟩
  known := orderly.known

theorem ready_begin_ (numbered : catalog.IsNumbered) (orderly : moment.Orderly catalog)
    (pending : moment.session.progress node = .pending) :
    (moment.begin_ catalog node).Ready catalog := by
  have fresh : node ∉ moment.consulted := by
    refine orderly.not_mem_consulted (fun outcome decided => ?_) fun waits => ?_
    · rw [pending] at decided
      cases decided
    · exact orderly.tidy.not_mem_of_pending pending (orderly.mem_stack waits rfl)
  rcases Catalog.opening_cases catalog node with same | ⟨_, same, _⟩ | ⟨_, _, same, _, known⟩
  · rw [begin_, same]
    exact trivial
  · rw [begin_, same]
    exact ⟨List.mem_cons_self, fresh⟩
  · rw [begin_, same]
    exact known numbered

/-! ### One step -/

/-- A moment after which the resolver can go on. -/
structure Sound (catalog : Catalog) (moment : Moment) : Prop where
  orderly : moment.Orderly catalog
  ready : moment.Ready catalog

theorem Orderly.answer (orderly : moment.Orderly catalog) (holds : Bool) :
    (moment.turn (.answer holds)).Sound catalog := ⟨orderly.turn _, trivial⟩

theorem Orderly.stop (orderly : moment.Orderly catalog)
    (result : Except VisibilityError VisibilityReport) :
    (moment.turn (.stop result)).Sound catalog := ⟨orderly.turn _, trivial⟩

theorem Orderly.proceed (orderly : moment.Orderly catalog) : moment.proceed.Sound catalog := by
  unfold Moment.proceed
  split
  · exact orderly.stop _
  · rename_i node _ _ ahead
    exact ⟨orderly.turn _, orderly.known (node, _) (ahead ▸ List.mem_cons_self)⟩

theorem Orderly.decide (numbered : catalog.IsNumbered) (orderly : moment.Orderly catalog)
    (known : catalog.Has node) : (moment.decide catalog node).Sound catalog := by
  unfold Moment.decide
  split
  · exact orderly.answer _
  · exact orderly.stop _
  · rename_i pending
    split
    · exact orderly.stop _
    · rename_i room
      exact ⟨orderly.begin_ known pending (Nat.lt_of_not_le room),
        ready_begin_ numbered orderly pending⟩

/-- The conditions of a node may be turned to if they have not been, and the node ends with the next
answer to it. -/
theorem Orderly.consult (orderly : moment.Orderly catalog) (waits : .outcome node ∈ moment.awaiting)
    (fresh : node ∉ moment.consulted) (conditions : List Condition) :
    (moment.consult node conditions).Sound catalog := by
  have noted : ({ moment with consulted := node :: moment.consulted } : Moment).Orderly catalog :=
    { orderly with
      once := List.nodup_cons.mpr ⟨fresh, orderly.once⟩
      weighed := List.forall_mem_cons.mpr ⟨Or.inr waits, orderly.weighed⟩ }
  exact ⟨noted.test .all 1 conditions, ready_test .all 1 conditions⟩

theorem Orderly.weigh (orderly : moment.Orderly catalog) (waits : .outcome node ∈ moment.awaiting)
    (fresh : node ∉ moment.consulted) (restrictions : Restrictions) :
    (moment.weigh kind node restrictions).Sound catalog := by
  unfold Moment.weigh
  split
  · exact orderly.consult waits fresh _
  · exact orderly.answer false

theorem Orderly.look (orderly : moment.Orderly catalog) (depth : Nat) (condition : Condition) :
    (moment.look catalog depth condition).Sound catalog := by
  unfold Moment.look
  split
  · exact orderly.stop _
  · match condition with
    | .leaf id expected =>
      dsimp only
      unfold Moment.read
      split
      · exact orderly.stop _
      · rename_i position found
        obtain ⟨_, there, _⟩ := Catalog.getElem?_of_position? found
        exact ⟨orderly.suspend rfl _, (List.getElem?_eq_some_iff.mp there).1⟩
    | .group operator members => exact ⟨orderly.test _ _ members, ready_test _ _ members⟩

section Deliver

variable {remainder : Remainder} {rest : List Remainder}

/-- What remains of a condition can be taken up. -/
theorem Orderly.dropped (orderly : moment.Orderly catalog)
    (waiting : moment.awaiting = remainder :: rest) (apart : remainder.node? = none) :
    ({ moment with awaiting := rest } : Moment).Orderly catalog :=
  { orderly with
    begun := by rw [orderly.begun, waiting, List.filterMap_cons_none apart]
    weighed := fun node member => (orderly.weighed node member).imp_right fun waits => by
      rw [waiting, List.mem_cons] at waits
      refine waits.resolve_left ?_
      rintro rfl
      cases apart }

/-- The node that the last remainder is about is the last one that was begun. -/
theorem Orderly.stack_eq (orderly : moment.Orderly catalog)
    (waiting : moment.awaiting = remainder :: rest) (its : remainder.node? = some node) :
    moment.session.stack = node :: rest.filterMap Remainder.node? := by
  rw [orderly.begun, waiting, List.filterMap_cons_some its]

/-- Once its group has been decided, an attribute is weighed or ended. -/
theorem Orderly.resume_around (orderly : moment.Orderly catalog) {restrictions : Restrictions}
    (waiting : moment.awaiting = .around node restrictions :: rest) (holds : Bool) :
    (({ moment with awaiting := rest } : Moment).resume assignment holds
      (.around node restrictions)).Sound catalog := by
  have last := orderly.stack_eq waiting rfl
  -- The node is in progress, and as it is on the stack once, its end does not wait as well.
  have fresh : node ∉ moment.consulted := by
    refine orderly.not_mem_consulted (fun outcome decided => ?_) fun waits => ?_
    · have open_ := (orderly.tidy.open_ node).mpr (last ▸ List.mem_cons_self)
      rw [decided] at open_
      cases open_
    · have distinct := orderly.tidy.distinct
      rw [last, List.nodup_cons] at distinct
      rw [waiting, List.mem_cons] at waits
      exact distinct.1 (List.mem_filterMap.mpr ⟨_, waits.resolve_left nofun, rfl⟩)
  refine ⟨{ orderly with begun := last, weighed := fun other member => ?_ }, ?_⟩
  · refine (orderly.weighed other member).imp_right fun waits => ?_
    rw [waiting, List.mem_cons] at waits
    exact List.mem_cons_of_mem _ (waits.resolve_left nofun)
  · cases holds with
    | false => exact trivial
    | true => exact ⟨List.mem_cons_self, fresh⟩

/-- The last node that was begun can be ended. -/
theorem Orderly.resume_outcome (orderly : moment.Orderly catalog)
    (waiting : moment.awaiting = .outcome node :: rest) (holds : Bool) :
    (({ moment with awaiting := rest } : Moment).resume assignment holds
      (.outcome node)).Sound catalog := by
  have last := orderly.stack_eq waiting rfl
  have member : node ∈ moment.session.stack := last ▸ List.mem_cons_self
  have decided := Session.resolved_leave_iff orderly.tidy.fits (orderly.tidy.known node member)
    ((orderly.tidy.open_ node).mpr member) holds
  have less : (moment.session.leave node holds).stack = rest.filterMap Remainder.node? := by
    rw [Session.stack_leave, last, List.drop_one, List.tail_cons]
  have ended : ({ moment with
      session := moment.session.leave node holds
      awaiting := rest } : Moment).Orderly catalog := by
    refine { orderly with
      tidy := orderly.tidy.leave last holds
      bounded := ?_
      begun := less
      weighed := fun other consulted => ?_ }
    · have bounded := orderly.bounded
      rw [last, List.length_cons] at bounded
      rw [less]
      exact Nat.le_of_succ_le bounded
    · rcases orderly.weighed other consulted with ⟨outcome, before⟩ | waits
      · exact Or.inl ⟨outcome, (decided other outcome).mpr (Or.inl before)⟩
      · rw [waiting, List.mem_cons] at waits
        rcases waits with same | waits
        · cases same
          exact Or.inl ⟨holds, (decided node holds).mpr (Or.inr ⟨rfl, rfl⟩)⟩
        · exact Or.inr waits
  exact ended.answer holds

theorem Orderly.record (orderly : moment.Orderly catalog) (holds : Bool) :
    (moment.record holds).Sound catalog := by
  unfold Moment.record
  split
  · exact orderly.stop _
  · rename_i ahead
    refine ⟨{ orderly with known := fun entry member => orderly.known entry ?_ }, trivial⟩
    rw [ahead]
    exact List.mem_cons_of_mem _ member

theorem Orderly.deliver (orderly : moment.Orderly catalog) (holds : Bool) :
    (moment.deliver assignment holds).Sound catalog := by
  unfold Moment.deliver
  split
  · exact orderly.record holds
  · rename_i remainder rest waiting
    cases remainder with
    | around node restrictions => exact orderly.resume_around waiting holds
    | outcome node => exact orderly.resume_outcome waiting holds
    | leaf id expected => exact (orderly.dropped waiting rfl).answer _
    | members operator depth conditions =>
      have dropped := orderly.dropped waiting rfl
      rw [resume]
      split
      · exact dropped.answer holds
      · exact ⟨dropped.test operator depth conditions, ready_test operator depth conditions⟩

end Deliver

/-- **One step keeps order.** -/
theorem Sound.step (numbered : catalog.IsNumbered) (sound : moment.Sound catalog) :
    (moment.step catalog assignment kind).Sound catalog := by
  obtain ⟨orderly, ready⟩ := sound
  unfold Ready at ready
  unfold Moment.step
  cases task : moment.task with
  | next => exact orderly.proceed
  | decide node =>
    rw [task] at ready
    exact orderly.decide numbered ready
  | weigh node restrictions =>
    rw [task] at ready
    exact orderly.weigh ready.1 ready.2 restrictions
  | test depth condition => exact orderly.look depth condition
  | answer holds => exact orderly.deliver holds
  | stop result =>
    have ready : moment.Ready catalog := by
      rw [Ready, task]
      exact trivial
    exact ⟨orderly, ready⟩

/-- **A whole run keeps order.** -/
theorem sound_after (numbered : catalog.IsNumbered) (assignment : Assignment)
    (kind : Option NodeType) (count : Nat) : (after catalog assignment kind count).Sound catalog := by
  unfold after
  induction count with
  | zero => exact ⟨orderly_first catalog, trivial⟩
  | succ count ih =>
    rw [Function.iterate_succ_apply']
    exact ih.step numbered

end Moment

end PageAttributes
