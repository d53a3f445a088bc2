/-
**Deciding a node gives what should apply.**

* `Ends` — how an action ends, well or with an error, and its rules for `pure`, `throw`, `bind`;
* `Catalog.Justified` — in the session in which it arises, an error tells of something that is
  really there: a cycle, an id that is not declared, a condition that is too deep, or a full stack;
* `Catalog.Decides` — an action keeps the invariant and gives what every valuation gives that agrees
  with the session after it, or stops with a justified error;
* `Catalog.decides_allHoldReading`, `Catalog.decides_visible` — so do conditions, and so does a
  node.

The induction is on the room that is left on the stack, which together with the nodes on it makes up
the limit.
-/

import PageAttributes.Proofs.Visibility.Session

namespace PageAttributes

/-! ### How actions end -/

section Ends

variable {α β : Type} {session : Session} {gives : α → Session → Prop}
  {fails : VisibilityError → Session → Prop}

/-- An action ends with a value and a session that are as wanted, or with an error and a session
that are. -/
def Ends (action : Resolving α) (session : Session) (gives : α → Session → Prop)
    (fails : VisibilityError → Session → Prop) : Prop :=
  match action.run session with
  | (.ok value, after) => gives value after
  | (.error error, after) => fails error after

theorem ends_pure {value : α} (given : gives value session) :
    Ends (pure value) session gives fails := given

theorem ends_throw {error : VisibilityError} (failed : fails error session) :
    Ends (throw error : Resolving α) session gives fails := failed

theorem run_bind (action : Resolving α) (next : α → Resolving β) (session : Session) :
    (action >>= next).run session
      = ExceptT.bindCont next (action.run session).1 (action.run session).2 := rfl

theorem Ends.bind {action : Resolving α} {next : α → Resolving β} {gives : β → Session → Prop}
    (first : Ends action session (fun value after => Ends (next value) after gives fails) fails) :
    Ends (action >>= next) session gives fails := by
  unfold Ends at first ⊢
  rw [run_bind]
  rcases ended : action.run session with ⟨value | error, after⟩
  · rw [ended] at first
    exact first
  · rw [ended] at first
    exact first

theorem ends_get_bind {next : Session → Resolving α}
    (rest : Ends (next session) session gives fails) :
    Ends (get >>= next) session gives fails := rest

theorem ends_modify_bind {change : Session → Session} {next : PUnit → Resolving α}
    (rest : Ends (next ⟨⟩) (change session) gives fails) :
    Ends (modify change >>= next) session gives fails := rest

theorem Ends.weaken {action : Resolving α} {more : α → Session → Prop}
    {others : VisibilityError → Session → Prop} (ended : Ends action session gives fails)
    (weaker : ∀ value after, gives value after → more value after)
    (weakerToo : ∀ error after, fails error after → others error after) :
    Ends action session more others := by
  unfold Ends at ended ⊢
  rcases result : action.run session with ⟨error | value, after⟩
  · rw [result] at ended
    exact weakerToo _ _ ended
  · rw [result] at ended
    exact weaker _ _ ended

theorem Ends.mono {action : Resolving α} {more : α → Session → Prop}
    (ended : Ends action session gives fails)
    (weaker : ∀ value after, gives value after → more value after) :
    Ends action session more fails :=
  ended.weaken weaker fun _ _ failed => failed

/-- Two things may be said of how one action ends. -/
theorem Ends.and {action : Resolving α} {more : α → Session → Prop}
    {others : VisibilityError → Session → Prop} (one : Ends action session gives fails)
    (another : Ends action session more others) :
    Ends action session (fun value after => gives value after ∧ more value after)
      fun error after => fails error after ∧ others error after := by
  unfold Ends at one another ⊢
  rcases result : action.run session with ⟨error | value, after⟩
  · rw [result] at one another
    exact ⟨one, another⟩
  · rw [result] at one another
    exact ⟨one, another⟩

end Ends

namespace Catalog

variable {catalog : Catalog} {assignment : Assignment} {kind : Option NodeType}
  {stack : List Node}

/-! ### Justified errors -/

/-- An error tells of something that is really there in the session in which it arises: a node that
waits is waited for, or one more node is waited for than may wait. -/
inductive Justified (catalog : Catalog) (session : Session) : VisibilityError → Prop
  | cycle (node : Node) (member : node ∈ session.stack)
      (waits : ∀ last ∈ session.stack.head?, catalog.Depends last node) :
    Justified catalog session (.cycle ((session.loop node).map catalog.label))
  | unknownAttribute (id : String) (node : Node) (read : id ∈ catalog.readsOf node)
      (unknown : catalog.position? id = none) : Justified catalog session (.unknownAttribute id)
  | tooDeep (node : Node)
      (deep : Condition.depthLimit < Condition.allLevels (catalog.conditionsOf node)) :
    Justified catalog session (.tooDeep Condition.depthLimit)
  | tooLong (node : Node) (known : catalog.Has node) (pending : session.progress node = .pending)
      (waits : ∀ last ∈ session.stack.head?, catalog.Depends last node)
      (full : session.stack.length = chainLimit) :
    Justified catalog session (.tooDeep chainLimit)

/-! ### Actions that decide something -/

/-- An action that began in one session gives, with the session after it, what every valuation gives
that agrees with that session. -/
structure Gives {α : Type} (catalog : Catalog) (assignment : Assignment) (kind : Option NodeType)
    (before : Session) (value : Valuation → α) (result : α) (after : Session) : Prop where
  invariant : Invariant catalog assignment kind after
  waiting : after.stack = before.stack
  extended : before.Extends after
  given : ∀ valuation, after.Agrees valuation → value valuation = result

/-- An action that began in one session stops with a justified error in another one, in which all
nodes still wait that did before. -/
structure Stops (catalog : Catalog) (assignment : Assignment) (kind : Option NodeType)
    (before : Session) (error : VisibilityError) (after : Session) : Prop where
  invariant : Invariant catalog assignment kind after
  extended : before.Extends after
  waiting : before.stack <:+ after.stack
  justified : catalog.Justified after error

/-- While some nodes wait, an action keeps the invariant and gives what every valuation gives that
agrees with the session after it, or stops with a justified error. -/
def Decides {α : Type} (catalog : Catalog) (assignment : Assignment) (kind : Option NodeType)
    (stack : List Node) (action : Resolving α) (value : Valuation → α) : Prop :=
  ∀ session, Invariant catalog assignment kind session → session.stack = stack →
    Ends action session (Gives catalog assignment kind session value)
      (Stops catalog assignment kind session)

/-- An action that stops has stopped since any session before it. -/
theorem Stops.since {before between after : Session} {error : VisibilityError}
    (stops : Stops catalog assignment kind between error after)
    (extended : before.Extends between) (waiting : before.stack <:+ between.stack) :
    Stops catalog assignment kind before error after :=
  ⟨stops.invariant, extended.trans stops.extended, waiting.trans stops.waiting, stops.justified⟩

section Decides

variable {α β : Type}

theorem decides_pure (result : α) :
    Decides catalog assignment kind stack (pure result) fun _ => result :=
  fun session invariant _ =>
    ends_pure ⟨invariant, rfl, Session.Extends.refl session, fun _ _ => rfl⟩

theorem decides_throw {error : VisibilityError} {value : Valuation → α}
    (justified : ∀ session, catalog.Justified session error) :
    Decides catalog assignment kind stack (throw error) value :=
  fun session invariant _ =>
    ends_throw ⟨invariant, Session.Extends.refl session, List.suffix_rfl, justified session⟩

/-- What one action decides can be used by the next one. -/
theorem Decides.bind {action : Resolving α} {next : α → Resolving β} {first : Valuation → α}
    (early : Decides catalog assignment kind stack action first) {second : α → Valuation → β}
    (late : ∀ result, Decides catalog assignment kind stack (next result) (second result)) :
    Decides catalog assignment kind stack (action >>= next)
      fun valuation => second (first valuation) valuation := by
  intro session invariant waiting
  refine Ends.bind ((early session invariant waiting).mono fun result between known => ?_)
  obtain ⟨invariant, same, extended, given⟩ := known
  refine (late result between invariant (same.trans waiting)).weaken (fun final after known => ?_)
    fun error after stops => stops.since extended (same ▸ List.suffix_rfl)
  obtain ⟨invariant, same', extended', given'⟩ := known
  refine ⟨invariant, same'.trans same, extended.trans extended', fun valuation agrees => ?_⟩
  show second (first valuation) valuation = final
  rw [given valuation (agrees.of_extends extended'), given' valuation agrees]

/-- What is decided may be said in another way. -/
theorem Decides.congr {action : Resolving α} {value value' : Valuation → α}
    (decides : Decides catalog assignment kind stack action value)
    (same : ∀ valuation, value valuation = value' valuation) :
    Decides catalog assignment kind stack action value' := by
  rwa [show value' = value from funext fun valuation => (same valuation).symm]

end Decides

/-! ### Conditions -/

section Conditions

variable {read : String → Resolving (Option AttributeValue)} {top : Nat}

mutual

/-- A condition holds as it does where only attributes that apply have a value. It is at most as
deep as some conditions of which it is a part. -/
theorem decides_holdsReading
    (tooDeep : Condition.depthLimit < top →
      ∀ session, catalog.Justified session (.tooDeep Condition.depthLimit))
    (depth : Nat) (condition : Condition) (within : depth + condition.levels ≤ top + 1)
    (reads : ∀ id ∈ condition.leafIds, Decides catalog assignment kind stack (read id)
      fun valuation => (catalog.seen assignment valuation).get? id) :
    Decides catalog assignment kind stack (condition.holdsReading read depth)
      fun valuation => condition.holds (catalog.seen assignment valuation) := by
  match condition with
  | .leaf id expected =>
    rw [Condition.levels] at within
    rw [Condition.holdsReading]
    split
    · exact decides_throw (tooDeep (by omega))
    · refine ((reads id (.head _)).bind fun actual => decides_pure _).congr fun valuation => ?_
      rw [Condition.holds, Assignment.satisfies]
      cases (catalog.seen assignment valuation).get? id <;> rfl
  | .group operator members =>
    rw [Condition.levels] at within
    rw [Condition.leafIds] at reads
    cases operator with
    | all =>
      rw [Condition.holdsReading]
      split
      · exact decides_throw (tooDeep (by omega))
      · refine (decides_allHoldReading tooDeep (depth + 1) members (by omega) reads).congr ?_
        exact fun _ => by rw [Condition.holds]
    | any =>
      rw [Condition.holdsReading]
      split
      · exact decides_throw (tooDeep (by omega))
      · refine (decides_anyHoldsReading tooDeep (depth + 1) members (by omega) reads).congr ?_
        exact fun _ => by rw [Condition.holds]

/-- Conditions hold together as they do where only attributes that apply have a value. -/
theorem decides_allHoldReading
    (tooDeep : Condition.depthLimit < top →
      ∀ session, catalog.Justified session (.tooDeep Condition.depthLimit))
    (depth : Nat) (members : List Condition)
    (within : depth + Condition.allLevels members ≤ top + 1)
    (reads : ∀ id ∈ Condition.allLeafIds members, Decides catalog assignment kind stack (read id)
      fun valuation => (catalog.seen assignment valuation).get? id) :
    Decides catalog assignment kind stack (Condition.allHoldReading read depth members)
      fun valuation => Condition.allHold (catalog.seen assignment valuation) members := by
  match members with
  | [] =>
    rw [Condition.allHoldReading]
    exact (decides_pure true).congr fun _ => by rw [Condition.allHold]
  | member :: rest =>
    rw [Condition.allLevels] at within
    rw [Condition.allLeafIds] at reads
    rw [Condition.allHoldReading]
    have first := decides_holdsReading tooDeep depth member (by omega)
      fun id named => reads id (List.mem_append_left _ named)
    have others := decides_allHoldReading tooDeep depth rest (by omega)
      fun id named => reads id (List.mem_append_right _ named)
    have next (holds : Bool) : Decides catalog assignment kind stack
        (if holds then Condition.allHoldReading read depth rest else pure false)
        fun valuation => holds && Condition.allHold (catalog.seen assignment valuation) rest := by
      cases holds with
      | false => exact decides_pure false
      | true => exact others
    exact (first.bind next).congr fun valuation => by rw [Condition.allHold]

/-- Any of some conditions holds as it does where only attributes that apply have a value. -/
theorem decides_anyHoldsReading
    (tooDeep : Condition.depthLimit < top →
      ∀ session, catalog.Justified session (.tooDeep Condition.depthLimit))
    (depth : Nat) (members : List Condition)
    (within : depth + Condition.allLevels members ≤ top + 1)
    (reads : ∀ id ∈ Condition.allLeafIds members, Decides catalog assignment kind stack (read id)
      fun valuation => (catalog.seen assignment valuation).get? id) :
    Decides catalog assignment kind stack (Condition.anyHoldsReading read depth members)
      fun valuation => Condition.anyHolds (catalog.seen assignment valuation) members := by
  match members with
  | [] =>
    rw [Condition.anyHoldsReading]
    exact (decides_pure false).congr fun _ => by rw [Condition.anyHolds]
  | member :: rest =>
    rw [Condition.allLevels] at within
    rw [Condition.allLeafIds] at reads
    rw [Condition.anyHoldsReading]
    have first := decides_holdsReading tooDeep depth member (by omega)
      fun id named => reads id (List.mem_append_left _ named)
    have others := decides_anyHoldsReading tooDeep depth rest (by omega)
      fun id named => reads id (List.mem_append_right _ named)
    have next (holds : Bool) : Decides catalog assignment kind stack
        (if holds then pure true else Condition.anyHoldsReading read depth rest)
        fun valuation => holds || Condition.anyHolds (catalog.seen assignment valuation) rest := by
      cases holds with
      | false => exact others
      | true => exact decides_pure true
    exact (first.bind next).congr fun valuation => by rw [Condition.anyHolds]

end

/-- Restrictions are met as they are where only attributes that apply have a value. -/
theorem decides_restrictionsHold (node : Node) (nodeTypes : Option (List NodeType))
    (conditions : Option (List Condition)) (its : catalog.conditionsOf node = conditions.getD [])
    (reads : ∀ id ∈ catalog.readsOf node, Decides catalog assignment kind stack (read id)
      fun valuation => (catalog.seen assignment valuation).get? id) :
    Decides catalog assignment kind stack (restrictionsHold read nodeTypes conditions kind)
      fun valuation => restrictionsMet (catalog.seen assignment valuation) nodeTypes conditions
        kind := by
  unfold restrictionsHold restrictionsMet
  split
  · rename_i admitted
    rw [readsOf, its] at reads
    have tooDeep (deep : Condition.depthLimit < Condition.allLevels (conditions.getD []))
        (session : Session) : catalog.Justified session (.tooDeep Condition.depthLimit) :=
      .tooDeep node (by rwa [its])
    refine (decides_allHoldReading tooDeep 1 _ (by omega) reads).congr fun valuation => ?_
    rw [admitted, Bool.true_and, Condition.listHolds]
  · rename_i refused
    exact (decides_pure false).congr fun valuation => by
      rw [Bool.not_eq_true _ |>.mp refused, Bool.false_and]

end Conditions

/-! ### Nodes -/

/-- What a condition reads under an id, with room for so many more nodes. -/
def readWith (catalog : Catalog) (assignment : Assignment) (kind : Option NodeType) (room : Nat)
    (id : String) : Resolving (Option AttributeValue) :=
  match catalog.position? id with
  | none => throw (.unknownAttribute id)
  | some position => do
    let applies ← visible catalog assignment kind room (.attribute position)
    pure (if applies then assignment.get? id else none)

/-- Decides the group around an attribute, if there is one. -/
def decideAround (catalog : Catalog) (assignment : Assignment) (kind : Option NodeType)
    (room : Nat) : Option Nat → Resolving Bool
  | some number => visible catalog assignment kind room (.group number)
  | none => pure true

/-- Decides a node that has been begun. -/
def decideBegun (catalog : Catalog) (assignment : Assignment) (kind : Option NodeType)
    (room : Nat) : Node → Resolving Bool
  | .attribute position =>
    match catalog.attributes[position]? with
    | none => pure false
    | some (group, declared) =>
      decideAround catalog assignment kind room group >>= fun around =>
        if around then
          restrictionsHold (readWith catalog assignment kind room) declared.nodeTypes
            declared.conditions kind
        else pure false
  | .group number =>
    match catalog.groups[number]? with
    | none => pure false
    | some gathered =>
      restrictionsHold (readWith catalog assignment kind room) gathered.nodeTypes
        gathered.conditions kind

/-- Looks at what is known about a node, and begins it if nothing is. -/
def lookUp (catalog : Catalog) (node : Node) (begin_ : Resolving Bool) : Resolving Bool :=
  get >>= fun session =>
    match session.progress node with
    | .resolved outcome => pure outcome
    | .inProgress => throw (.cycle ((session.loop node).map catalog.label))
    | .pending => begin_

theorem visible_zero (catalog : Catalog) (assignment : Assignment) (kind : Option NodeType)
    (node : Node) :
    visible catalog assignment kind 0 node
      = lookUp catalog node (throw (.tooDeep chainLimit)) := by
  unfold visible lookUp
  rfl

theorem visible_succ (catalog : Catalog) (assignment : Assignment) (kind : Option NodeType)
    (room : Nat) (node : Node) :
    visible catalog assignment kind (room + 1) node
      = lookUp catalog node (do
          modify fun session => session.enter node
          let outcome ← decideBegun catalog assignment kind room node
          modify fun session => session.leave node outcome
          pure outcome) := by
  rw [visible, lookUp]
  congr 1
  funext session
  cases session.progress node with
  | resolved outcome => rfl
  | inProgress => rfl
  | pending =>
    obtain position | number := node
    · simp only [decideBegun]
      cases catalog.attributes[position]? with
      | none => rfl
      | some entry =>
        obtain ⟨_ | number, declared⟩ := entry
        · rfl
        · simp only [bind_assoc]
          congr 1
          funext _
          congr 1
          funext around
          cases around <;> rfl
    · simp only [decideBegun]
      cases catalog.groups[number]? <;> rfl

/-- What a condition reads of an attribute depends on whether the attribute applies. -/
theorem decides_readWith {node : Node} {room : Nat}
    (decides : ∀ next, catalog.Depends node next → Decides catalog assignment kind stack
      (visible catalog assignment kind room next) fun valuation => valuation next)
    {id : String} (read : id ∈ catalog.readsOf node) :
    Decides catalog assignment kind stack (readWith catalog assignment kind room id)
      fun valuation => (catalog.seen assignment valuation).get? id := by
  unfold readWith
  cases found : catalog.position? id with
  | none => exact decides_throw fun _ => .unknownAttribute id node read found
  | some position =>
    refine ((decides _ (.reads node id position read found)).bind fun applies =>
      decides_pure _).congr fun valuation => ?_
    rw [get?_seen, isSeen, found, Option.any_some]

/-- A node that has been begun is decided as it should be, if all that it waits for is. -/
theorem decides_decideBegun {node : Node} {room : Nat}
    (decides : ∀ next, catalog.Depends node next → Decides catalog assignment kind stack
      (visible catalog assignment kind room next) fun valuation => valuation next) :
    Decides catalog assignment kind stack (decideBegun catalog assignment kind room node)
      fun valuation => catalog.applies assignment kind valuation node := by
  have reads id (read : id ∈ catalog.readsOf node) := decides_readWith decides read
  match node with
  | .attribute position =>
    cases there : catalog.attributes[position]? with
    | none =>
      simp only [decideBegun, applies, there, Option.any_none]
      exact decides_pure false
    | some entry =>
      obtain ⟨group, declared⟩ := entry
      have around : Decides catalog assignment kind stack
          (decideAround catalog assignment kind room group)
          fun valuation => group.all fun number => valuation (.group number) := by
        cases group with
        | none => exact decides_pure true
        | some number => exact decides _ (.inside position number declared there)
      have own := decides_restrictionsHold (.attribute position) declared.nodeTypes
        declared.conditions (by simp [conditionsOf, there]) reads
      simp only [decideBegun, applies, there, Option.any_some]
      refine around.bind (fun around => ?_ : ∀ around : Bool, Decides catalog assignment kind stack
        _ fun valuation => around && restrictionsMet (catalog.seen assignment valuation)
          declared.nodeTypes declared.conditions kind)
      cases around with
      | false => exact decides_pure false
      | true => exact own
  | .group number =>
    cases there : catalog.groups[number]? with
    | none =>
      simp only [decideBegun, applies, there, Option.any_none]
      exact decides_pure false
    | some gathered =>
      simp only [decideBegun, applies, there, Option.any_some]
      exact decides_restrictionsHold (.group number) gathered.nodeTypes gathered.conditions
        (by simp [conditionsOf, there]) reads

/-- What is known about a node is what it should be. -/
theorem ends_lookUp {session : Session} {node : Node} {begin_ : Resolving Bool}
    {fails : VisibilityError → Session → Prop} (invariant : Invariant catalog assignment kind session)
    (repeats : session.progress node = .inProgress →
      fails (.cycle ((session.loop node).map catalog.label)) session)
    (begins : session.progress node = .pending → Ends begin_ session
      (Gives catalog assignment kind session fun valuation => valuation node) fails) :
    Ends (lookUp catalog node begin_) session
      (Gives catalog assignment kind session fun valuation => valuation node) fails := by
  refine ends_get_bind ?_
  cases progress : session.progress node with
  | resolved outcome =>
    exact ends_pure ⟨invariant, rfl, Session.Extends.refl session,
      fun valuation agrees => agrees node outcome progress⟩
  | inProgress => exact ends_throw (repeats progress)
  | pending => exact begins progress

/-- What is known about a node is what it should be, and a node that is waiting is on a cycle. -/
theorem decides_lookUp {node : Node} {begin_ : Resolving Bool}
    (waits : ∀ last ∈ stack.head?, catalog.Depends last node)
    (begins : ∀ session, Invariant catalog assignment kind session → session.stack = stack →
      session.progress node = .pending → Ends begin_ session
        (Gives catalog assignment kind session fun valuation => valuation node)
        (Stops catalog assignment kind session)) :
    Decides catalog assignment kind stack (lookUp catalog node begin_)
      fun valuation => valuation node := by
  intro session invariant waiting
  refine ends_lookUp invariant (fun progress => ?_) (begins session invariant waiting)
  have member := (invariant.open_ node).mp progress
  exact ⟨invariant, Session.Extends.refl session, List.suffix_rfl,
    .cycle node member (waiting ▸ waits)⟩

/-- Once a node that was begun is decided, it can be ended. -/
theorem Decides.ended {node : Node} (known : catalog.Has node) {action : Resolving Bool}
    (decides : Decides catalog assignment kind (node :: stack) action
      fun valuation => catalog.applies assignment kind valuation node)
    {session : Session} (invariant : Invariant catalog assignment kind session)
    (waiting : session.stack = stack) (pending : session.progress node = .pending)
    (waits : ∀ last ∈ stack.head?, catalog.Depends last node) :
    Ends (action >>= fun outcome => do
        modify fun session => session.leave node outcome
        pure outcome) (session.enter node)
      (Gives catalog assignment kind session fun valuation => valuation node)
      (Stops catalog assignment kind (session.enter node)) := by
  subst waiting
  refine Ends.bind ((decides _ (invariant.enter known pending waits) rfl).mono
    fun outcome after reached => ?_)
  obtain ⟨invariant', waiting, extended, given⟩ := reached
  rw [Session.stack_enter] at waiting
  have open_ := (invariant'.open_ node).mpr (waiting ▸ List.mem_cons_self)
  have decided := Session.resolved_leave_iff invariant'.fits known open_ outcome
  refine ends_modify_bind (ends_pure ⟨invariant'.leave waiting given, ?_, ?_, ?_⟩)
  · rw [Session.stack_leave, waiting, List.drop_one, List.tail_cons]
  · intro other value before
    have kept := (Session.resolved_enter_iff invariant.fits known pending other value).mpr before
    exact (decided other value).mpr (Or.inl (extended other value kept))
  · exact fun valuation agrees =>
      agrees node outcome ((decided node outcome).mpr (Or.inr ⟨rfl, rfl⟩))

/-- What stops after a node was begun has stopped since before. -/
theorem Stops.of_enter {session after : Session} {node : Node} {error : VisibilityError}
    (invariant : Invariant catalog assignment kind session) (known : catalog.Has node)
    (pending : session.progress node = .pending)
    (stops : Stops catalog assignment kind (session.enter node) error after) :
    Stops catalog assignment kind session error after := by
  refine stops.since (fun other outcome decided => ?_) (List.suffix_cons node session.stack)
  exact (Session.resolved_enter_iff invariant.fits known pending other outcome).mpr decided

/-- **A node is decided as it should be.** -/
theorem decides_visible (numbered : catalog.IsNumbered) (room : Nat) :
    ∀ stack node, catalog.Has node → room + stack.length = chainLimit →
      (∀ last ∈ stack.head?, catalog.Depends last node) →
        Decides catalog assignment kind stack (visible catalog assignment kind room node)
          fun valuation => valuation node := by
  induction room with
  | zero =>
    intro stack node known full waits
    rw [visible_zero]
    refine decides_lookUp waits fun session invariant waiting pending => ?_
    rw [Nat.zero_add] at full
    subst waiting
    exact ends_throw ⟨invariant, Session.Extends.refl session, List.suffix_rfl,
      .tooLong node known pending waits full⟩
  | succ room ih =>
    intro stack node known enough waits
    rw [visible_succ]
    refine decides_lookUp waits fun session invariant waiting pending => ?_
    have begun : Decides catalog assignment kind (node :: stack)
        (decideBegun catalog assignment kind room node)
        fun valuation => catalog.applies assignment kind valuation node := by
      refine decides_decideBegun fun next depends =>
        ih (node :: stack) next (depends.has numbered) ?_ ?_
      · rw [List.length_cons]
        omega
      · rintro last ⟨⟩
        exact depends
    refine ends_modify_bind ((begun.ended known invariant waiting pending waits).weaken
      (fun _ _ given => given) fun _ _ stops => ?_)
    exact stops.of_enter invariant known pending

/-- A node that has been begun is decided as it should be. -/
theorem decides_begun (numbered : catalog.IsNumbered) {room : Nat} {node : Node}
    (enough : room + (node :: stack).length = chainLimit) :
    Decides catalog assignment kind (node :: stack)
      (decideBegun catalog assignment kind room node)
      fun valuation => catalog.applies assignment kind valuation node := by
  refine decides_decideBegun fun next depends =>
    decides_visible numbered room (node :: stack) next (depends.has numbered) enough ?_
  rintro last ⟨⟩
  exact depends

/-- While no node waits, a node is decided as it should be, or it is the first one that waits where
an error arises. -/
theorem ends_visible (numbered : catalog.IsNumbered) {node : Node} (known : catalog.Has node)
    {session : Session} (invariant : Invariant catalog assignment kind session)
    (idle : session.stack = []) :
    Ends (visible catalog assignment kind chainLimit node) session
      (Gives catalog assignment kind session fun valuation => valuation node)
      fun error after => Stops catalog assignment kind session error after
        ∧ after.stack.getLast? = some node := by
  rw [show chainLimit = 255 + 1 from rfl, visible_succ]
  refine ends_lookUp invariant (fun progress => ?_) fun pending => ?_
  · have member := (invariant.open_ node).mp progress
    rw [idle] at member
    cases member
  · have begun : Decides catalog assignment kind [node]
        (decideBegun catalog assignment kind 255 node)
        fun valuation => catalog.applies assignment kind valuation node :=
      decides_begun numbered rfl
    refine ends_modify_bind ((begun.ended known invariant idle pending fun _ => nofun).weaken
      (fun _ _ given => given) fun _ after stops => ?_)
    refine ⟨stops.of_enter invariant known pending, ?_⟩
    have waiting := stops.waiting
    rw [Session.stack_enter, idle] at waiting
    obtain ⟨above, same⟩ := waiting
    rw [← same, List.getLast?_concat]

end Catalog

end PageAttributes
