/-
**The resolver decides what settles.**

* `Catalog.Grounded` — whatever has been decided in a session also settles without one;
* `Catalog.Tracks` — an action gives what settles, and stops only where nothing does;
* `Catalog.tracks_allHoldReading`, `Catalog.tracks_visible` — so do conditions, and so does a node;
* `Catalog.resolve_eq_ok_iff` — for a catalog of not too many nodes the resolver reports something
  exactly if all nodes settle, and then it reports what they settle to.

An action stops where a node is needed that waits for the action itself. So what is said of it is
conditional: as long as no node settles that waits, neither does what the action is for. A node that
is begun waits for itself, and no number of steps is the first one after which it settles.
-/

import PageAttributes.Proofs.Visibility.Settling
import PageAttributes.Proofs.Visibility.Waiting

namespace PageAttributes.Catalog

variable {catalog : Catalog} {assignment : Assignment} {kind : Option NodeType}
  {stack : List Node} {session : Session} {node : Node}

/-! ### Sessions -/

/-- Whatever has been decided settles, and to the same. -/
structure Grounded (catalog : Catalog) (assignment : Assignment) (kind : Option NodeType)
    (session : Session) : Prop where
  invariant : Invariant catalog assignment kind session
  settles : ∀ node outcome, session.progress node = .resolved outcome →
    ∃ steps, catalog.outcomeWithin assignment kind steps node = some outcome

theorem grounded_initial (catalog : Catalog) (assignment : Assignment) (kind : Option NodeType) :
    Grounded catalog assignment kind (Session.initial catalog) where
  invariant := invariant_initial catalog assignment kind
  settles := by
    intro node outcome decided
    rw [Session.progress_initial] at decided
    cases decided

/-- To begin a node decides nothing. -/
theorem Grounded.enter (grounded : Grounded catalog assignment kind session)
    (known : catalog.Has node) (pending : session.progress node = .pending)
    (waits : ∀ last ∈ session.stack.head?, catalog.Depends last node) :
    Grounded catalog assignment kind (session.enter node) where
  invariant := grounded.invariant.enter known pending waits
  settles := by
    intro other outcome decided
    refine grounded.settles other outcome ?_
    have fits := grounded.invariant.fits
    exact (Session.resolved_enter_iff fits known pending other outcome).mp decided

/-- A node can be ended with what it settles to. -/
theorem Grounded.leave (grounded : Grounded catalog assignment kind session) {below : List Node}
    (last : session.stack = node :: below) {outcome : Bool}
    (gives : ∀ valuation, session.Agrees valuation →
      catalog.applies assignment kind valuation node = outcome)
    (settled : ∃ steps, catalog.outcomeWithin assignment kind steps node = some outcome) :
    Grounded catalog assignment kind (session.leave node outcome) where
  invariant := grounded.invariant.leave last gives
  settles := by
    intro other value decided
    have member : node ∈ session.stack := last ▸ List.mem_cons_self
    have known := grounded.invariant.known node member
    have open_ := (grounded.invariant.open_ node).mpr member
    rcases (Session.resolved_leave_iff grounded.invariant.fits known open_ outcome other value).mp
      decided with before | ⟨rfl, rfl⟩
    · exact grounded.settles other value before
    · exact settled

/-! ### Actions that decide what settles -/

/-- None of some nodes has settled after so many steps. -/
def Unsettled (catalog : Catalog) (assignment : Assignment) (kind : Option NodeType)
    (nodes : List Node) (steps : Nat) : Prop :=
  ∀ node ∈ nodes, catalog.outcomeWithin assignment kind steps node = none

/-- What has not settled had not settled before. -/
theorem Unsettled.earlier {nodes : List Node} {steps more : Nat}
    (unsettled : Unsettled catalog assignment kind nodes more) (le : steps ≤ more) :
    Unsettled catalog assignment kind nodes steps := by
  intro node member
  rw [Option.eq_none_iff_forall_ne_some]
  intro outcome settled
  have settledStill := outcomeWithin_refines le node outcome settled
  rw [unsettled node member] at settledStill
  cases settledStill

/-- An action that is over has given what a value settles to that is worked out in steps. -/
structure Finds {α : Type} (catalog : Catalog) (assignment : Assignment) (kind : Option NodeType)
    (stack : List Node) (value : Nat → Option α) (result : α) (after : Session) : Prop where
  grounded : Grounded catalog assignment kind after
  waiting : after.stack = stack
  settled : ∃ steps, value steps = some result

/-- An action has stopped because too many nodes wait, or because a value does not settle unless one
of the nodes does that wait. -/
def Misses {α : Type} (catalog : Catalog) (assignment : Assignment) (kind : Option NodeType)
    (stack : List Node) (value : Nat → Option α) (error : VisibilityError) (_after : Session) :
    Prop :=
  error = .tooDeep chainLimit
    ∨ ∀ steps, Unsettled catalog assignment kind stack steps → value steps = none

/-- While some nodes wait, an action gives what a value settles to that is worked out in steps, or
it stops where the value does not settle or too many nodes wait. -/
structure Tracks {α : Type} (catalog : Catalog) (assignment : Assignment) (kind : Option NodeType)
    (stack : List Node) (action : Resolving α) (value : Nat → Option α) : Prop where
  grows : ∀ steps more, steps ≤ more → ∀ result, value steps = some result →
    value more = some result
  tracked : ∀ session, Grounded catalog assignment kind session → session.stack = stack →
    Ends action session (Finds catalog assignment kind stack value)
      (Misses catalog assignment kind stack value)

section Tracks

variable {α β : Type}

theorem tracks_pure (result : α) :
    Tracks catalog assignment kind stack (pure result) fun _ => some result where
  grows := fun _ _ _ _ settled => settled
  tracked := fun _ grounded waiting => ends_pure ⟨grounded, waiting, 0, rfl⟩

theorem tracks_throw (error : VisibilityError) :
    Tracks catalog assignment kind stack (throw error : Resolving α) fun _ => none where
  grows := fun _ _ _ _ settled => settled
  tracked := fun _ _ _ => ends_throw (Or.inr fun _ _ => rfl)

/-- Whatever number of steps a value settles in, it is the same value. -/
theorem Tracks.unique {action : Resolving α} {value : Nat → Option α} {steps more : Nat}
    {result other : α} (tracks : Tracks catalog assignment kind stack action value)
    (settled : value steps = some result) (settledToo : value more = some other) :
    result = other := by
  have one := tracks.grows steps _ (Nat.le_max_left steps more) result settled
  have two := tracks.grows more _ (Nat.le_max_right steps more) other settledToo
  exact Option.some.inj (one.symm.trans two)

/-- What one action gives can be used by the next one. -/
theorem Tracks.bind {action : Resolving α} {next : α → Resolving β} {first : Nat → Option α}
    (early : Tracks catalog assignment kind stack action first) {second : α → Nat → Option β}
    (late : ∀ result, Tracks catalog assignment kind stack (next result) (second result)) :
    Tracks catalog assignment kind stack (action >>= next)
      fun steps => (first steps).bind fun result => second result steps where
  grows := by
    intro steps more le final settled
    obtain ⟨result, here, there⟩ := Option.bind_eq_some_iff.mp settled
    exact Option.bind_eq_some_iff.mpr
      ⟨result, early.grows steps more le result here, (late result).grows steps more le final there⟩
  tracked := by
    intro session grounded waiting
    refine Ends.bind ((early.tracked session grounded waiting).weaken
      (fun result between reached => ?_) fun error _ stopped =>
        stopped.imp_right fun never steps unsettled => by
          show (first steps).bind _ = none
          rw [never steps unsettled, Option.bind_none])
    obtain ⟨grounded, waiting, enough, settled⟩ := reached
    refine ((late result).tracked between grounded waiting).weaken
      (fun final after reached => ⟨reached.grounded, reached.waiting, ?_⟩) fun error _ stopped =>
        stopped.imp_right fun never steps unsettled => ?_
    · obtain ⟨more, settledToo⟩ := reached.settled
      refine ⟨max enough more, Option.bind_eq_some_iff.mpr ⟨result, ?_, ?_⟩⟩
      · exact early.grows enough _ (Nat.le_max_left enough more) result settled
      · exact (late result).grows more _ (Nat.le_max_right enough more) final settledToo
    · -- The first value may not have settled yet; if it has, then to what the action gave.
      rw [Option.bind_eq_none_iff]
      intro other settledToo
      rw [← early.unique settled settledToo]
      exact never steps unsettled

/-- What is tracked may be said in another way. -/
theorem Tracks.congr {action : Resolving α} {value value' : Nat → Option α}
    (tracks : Tracks catalog assignment kind stack action value)
    (same : ∀ steps, value steps = value' steps) :
    Tracks catalog assignment kind stack action value' := by
  rwa [show value' = value from funext fun steps => (same steps).symm]

end Tracks

/-! ### Conditions -/

section Conditions

variable {read : String → Resolving (Option AttributeValue)}
  {known : Nat → String → Option (Option AttributeValue)}

mutual

/-- Whether a condition holds is tracked if the values that it reads are. -/
theorem tracks_holdsReading (depth : Nat) (condition : Condition)
    (reads : ∀ id ∈ condition.leafIds,
      Tracks catalog assignment kind stack (read id) fun steps => known steps id) :
    Tracks catalog assignment kind stack (condition.holdsReading read depth)
      fun steps => condition.holdsKnowing (known steps) depth := by
  match condition with
  | .leaf id expected =>
    simp only [Condition.holdsReading, Condition.holdsKnowing]
    split
    · exact tracks_throw _
    · exact (reads id (.head _)).bind fun actual => tracks_pure _
  | .group operator members =>
    rw [Condition.leafIds] at reads
    cases operator with
    | all =>
      simp only [Condition.holdsReading, Condition.holdsKnowing]
      split
      · exact tracks_throw _
      · exact tracks_allHoldReading (depth + 1) members reads
    | any =>
      simp only [Condition.holdsReading, Condition.holdsKnowing]
      split
      · exact tracks_throw _
      · exact tracks_anyHoldsReading (depth + 1) members reads

/-- Whether conditions hold together is tracked if the values that they read are. -/
theorem tracks_allHoldReading (depth : Nat) (members : List Condition)
    (reads : ∀ id ∈ Condition.allLeafIds members,
      Tracks catalog assignment kind stack (read id) fun steps => known steps id) :
    Tracks catalog assignment kind stack (Condition.allHoldReading read depth members)
      fun steps => Condition.allHoldKnowing (known steps) depth members := by
  match members with
  | [] =>
    simp only [Condition.allHoldReading, Condition.allHoldKnowing]
    exact tracks_pure true
  | member :: rest =>
    simp only [Condition.allHoldReading, Condition.allHoldKnowing]
    rw [Condition.allLeafIds] at reads
    have first := tracks_holdsReading depth member
      fun id named => reads id (List.mem_append_left _ named)
    have others := tracks_allHoldReading depth rest
      fun id named => reads id (List.mem_append_right _ named)
    have next (holds : Bool) : Tracks catalog assignment kind stack
        (if holds then Condition.allHoldReading read depth rest else pure false)
        fun steps => if holds then Condition.allHoldKnowing (known steps) depth rest
          else some false := by
      cases holds with
      | false => exact tracks_pure false
      | true => exact others
    exact first.bind next

/-- Whether any of some conditions holds is tracked if the values that they read are. -/
theorem tracks_anyHoldsReading (depth : Nat) (members : List Condition)
    (reads : ∀ id ∈ Condition.allLeafIds members,
      Tracks catalog assignment kind stack (read id) fun steps => known steps id) :
    Tracks catalog assignment kind stack (Condition.anyHoldsReading read depth members)
      fun steps => Condition.anyHoldsKnowing (known steps) depth members := by
  match members with
  | [] =>
    simp only [Condition.anyHoldsReading, Condition.anyHoldsKnowing]
    exact tracks_pure false
  | member :: rest =>
    simp only [Condition.anyHoldsReading, Condition.anyHoldsKnowing]
    rw [Condition.allLeafIds] at reads
    have first := tracks_holdsReading depth member
      fun id named => reads id (List.mem_append_left _ named)
    have others := tracks_anyHoldsReading depth rest
      fun id named => reads id (List.mem_append_right _ named)
    have next (holds : Bool) : Tracks catalog assignment kind stack
        (if holds then pure true else Condition.anyHoldsReading read depth rest)
        fun steps => if holds then some true
          else Condition.anyHoldsKnowing (known steps) depth rest := by
      cases holds with
      | false => exact others
      | true => exact tracks_pure true
    exact first.bind next

end

/-- Whether restrictions are met is tracked if the values that their conditions read are. -/
theorem tracks_restrictionsHold (restrictions : Restrictions)
    (reads : ∀ id ∈ Condition.allLeafIds (restrictions.conditions.getD []),
      Tracks catalog assignment kind stack (read id) fun steps => known steps id) :
    Tracks catalog assignment kind stack
      (restrictionsHold read restrictions.nodeTypes restrictions.conditions kind)
      fun steps => restrictions.metKnowing (known steps) kind := by
  unfold restrictionsHold Restrictions.metKnowing
  split
  · exact tracks_allHoldReading 1 _ reads
  · exact tracks_pure false

end Conditions

/-! ### Nodes -/

/-- What a condition reads is tracked if it is tracked whether the attribute applies. -/
theorem tracks_readWith {room : Nat}
    (tracks : ∀ next, catalog.Depends node next → Tracks catalog assignment kind stack
      (visible catalog assignment kind room next)
      fun steps => catalog.outcomeWithin assignment kind steps next)
    {id : String} (read : id ∈ catalog.readsOf node) :
    Tracks catalog assignment kind stack (readWith catalog assignment kind room id)
      fun steps => knownValue catalog.look assignment
        (settle catalog.look assignment kind steps) id := by
  unfold readWith
  cases found : catalog.position? id with
  | none =>
    exact (tracks_throw _).congr fun steps => by rw [knownValue_look, found, Option.bind_none]
  | some position =>
    refine ((tracks _ (.reads node id position read found)).bind fun applies =>
      tracks_pure _).congr fun steps => ?_
    rw [knownValue_look, found, Option.bind_some]

/-- A node that has been begun settles in one step more than what it waits for. -/
theorem tracks_decideBegun (numbered : catalog.IsNumbered) (known : catalog.Has node) {room : Nat}
    (tracks : ∀ next, catalog.Depends node next → Tracks catalog assignment kind stack
      (visible catalog assignment kind room next)
      fun steps => catalog.outcomeWithin assignment kind steps next) :
    Tracks catalog assignment kind stack (decideBegun catalog assignment kind room node)
      fun steps => catalog.outcomeWithin assignment kind (steps + 1) node := by
  have reads id (read : id ∈ catalog.readsOf node) := tracks_readWith tracks read
  match node with
  | .attribute position =>
    obtain ⟨⟨group, declared⟩, there⟩ : ∃ entry, catalog.attributes[position]? = some entry :=
      ⟨_, List.getElem?_eq_getElem known⟩
    have around : Tracks catalog assignment kind stack
        (decideAround catalog assignment kind room group)
        fun steps => group.elim (some true) fun number =>
          catalog.outcomeWithin assignment kind steps (.group number) := by
      cases group with
      | none => exact tracks_pure true
      | some number => exact tracks _ (.inside position number declared there)
    simp only [readsOf, conditionsOf, there, Option.bind_some] at reads
    have own := tracks_restrictionsHold declared.restrictions reads
    have next (inside : Bool) : Tracks catalog assignment kind stack
        (if inside then
          restrictionsHold (readWith catalog assignment kind room) declared.nodeTypes
            declared.conditions kind
        else pure false)
        fun steps => if inside then
          declared.restrictions.metKnowing (knownValue catalog.look assignment
            (settle catalog.look assignment kind steps)) kind
        else some false := by
      cases inside with
      | false => exact tracks_pure false
      | true => exact own
    simp only [decideBegun, there]
    exact (around.bind next).congr fun steps => by rw [outcomeWithin_attribute numbered there]
  | .group number =>
    obtain ⟨gathered, there⟩ : ∃ entry, catalog.groups[number]? = some entry :=
      ⟨_, List.getElem?_eq_getElem known⟩
    simp only [readsOf, conditionsOf, there, Option.bind_some] at reads
    have own := tracks_restrictionsHold gathered.restrictions reads
    simp only [decideBegun, there]
    exact own.congr fun steps => by rw [outcomeWithin_group there]

/-- If a node needs one step more than the nodes do that wait, itself among them, then it settles no
sooner than the others do. -/
theorem unsettled_of_begun
    (never : ∀ steps, Unsettled catalog assignment kind (node :: stack) steps →
      catalog.outcomeWithin assignment kind (steps + 1) node = none) (steps : Nat)
    (unsettled : Unsettled catalog assignment kind stack steps) :
    catalog.outcomeWithin assignment kind steps node = none := by
  induction steps with
  | zero => exact outcomeWithin_zero node
  | succ steps ih =>
    have before := unsettled.earlier (Nat.le_succ steps)
    exact never steps (List.forall_mem_cons.mpr ⟨ih before, before⟩)

/-- Once a node that was begun is decided, it can be ended. -/
theorem Tracks.ended (known : catalog.Has node) {action : Resolving Bool}
    (tracks : Tracks catalog assignment kind (node :: stack) action
      fun steps => catalog.outcomeWithin assignment kind (steps + 1) node)
    (decides : Decides catalog assignment kind (node :: stack) action
      fun valuation => catalog.applies assignment kind valuation node)
    (grounded : Grounded catalog assignment kind session) (waiting : session.stack = stack)
    (pending : session.progress node = .pending)
    (waits : ∀ last ∈ stack.head?, catalog.Depends last node) :
    Ends (action >>= fun outcome => do
        modify fun session => session.leave node outcome
        pure outcome) (session.enter node)
      (Finds catalog assignment kind stack
        fun steps => catalog.outcomeWithin assignment kind steps node)
      (Misses catalog assignment kind stack
        fun steps => catalog.outcomeWithin assignment kind steps node) := by
  subst waiting
  have begun := grounded.enter known pending waits
  refine Ends.bind (((tracks.tracked _ begun rfl).and (decides _ begun.invariant rfl)).weaken
    (fun outcome after reached => ?_) fun error _ stopped => stopped.1.imp_right unsettled_of_begun)
  obtain ⟨⟨grounded', waiting, steps, settled⟩, gives⟩ := reached
  have settles : ∃ steps, catalog.outcomeWithin assignment kind steps node = some outcome :=
    ⟨steps + 1, settled⟩
  refine ends_modify_bind (ends_pure ⟨grounded'.leave waiting gives.given settles, ?_, settles⟩)
  rw [Session.stack_leave, waiting, List.drop_one, List.tail_cons]

/-- What is known about a node is what it settles to, and a node that waits does not settle before
itself. -/
theorem tracks_lookUp {begin_ : Resolving Bool}
    (begins : ∀ session, Grounded catalog assignment kind session → session.stack = stack →
      session.progress node = .pending → Ends begin_ session
        (Finds catalog assignment kind stack
          fun steps => catalog.outcomeWithin assignment kind steps node)
        (Misses catalog assignment kind stack
          fun steps => catalog.outcomeWithin assignment kind steps node)) :
    Tracks catalog assignment kind stack (lookUp catalog node begin_)
      fun steps => catalog.outcomeWithin assignment kind steps node where
  grows := fun _ _ le outcome settled => outcomeWithin_refines le node outcome settled
  tracked := by
    intro session grounded waiting
    refine ends_get_bind ?_
    cases progress : session.progress node with
    | resolved outcome =>
      exact ends_pure ⟨grounded, waiting, grounded.settles node outcome progress⟩
    | inProgress =>
      have member := (grounded.invariant.open_ node).mp progress
      exact ends_throw (Or.inr fun steps unsettled => unsettled node (waiting ▸ member))
    | pending => exact begins session grounded waiting progress

/-- **The resolver decides what settles**, and stops at a node only where the node does not settle
or too many nodes wait. -/
theorem tracks_visible (numbered : catalog.IsNumbered) (room : Nat) :
    ∀ stack node, catalog.Has node → room + stack.length = chainLimit →
      (∀ last ∈ stack.head?, catalog.Depends last node) →
        Tracks catalog assignment kind stack (visible catalog assignment kind room node)
          fun steps => catalog.outcomeWithin assignment kind steps node := by
  induction room with
  | zero =>
    intro stack node _ _ _
    rw [visible_zero]
    exact tracks_lookUp fun _ _ _ _ => ends_throw (Or.inl rfl)
  | succ room ih =>
    intro stack node known enough waits
    rw [visible_succ]
    refine tracks_lookUp fun session grounded waiting pending => ends_modify_bind ?_
    have room_ : room + (node :: stack).length = chainLimit := by
      rw [List.length_cons]
      omega
    have next : ∀ other, catalog.Depends node other →
        ∀ last ∈ (node :: stack).head?, catalog.Depends last other := by
      rintro other depends last ⟨⟩
      exact depends
    have tracks := tracks_decideBegun numbered known fun other depends =>
      ih (node :: stack) other (depends.has numbered) room_ (next other depends)
    exact tracks.ended known (decides_begun numbered room_) grounded waiting pending waits

/-! ### Reports -/

/-- Where it is tracked of each entry whether it applies, the names of those that do are tracked. -/
theorem tracks_visibleAmong {α : Type} {decide : Node → Resolving Bool} {number : Nat → Node}
    (named : α → String × Standing) (entries : List α) :
    ∀ position, (∀ offset entry, entries[offset]? = some entry →
        Tracks catalog assignment kind stack (decide (number (position + offset)))
          fun steps => settle catalog.look assignment kind steps (named entry).2) →
      Tracks catalog assignment kind stack
        (visibleAmong decide number (fun entry => (named entry).1) position entries)
        fun steps => settledNames (settle catalog.look assignment kind steps)
          (entries.map named) := by
  induction entries with
  | nil => exact fun _ _ => tracks_pure []
  | cons entry rest ih =>
    intro position tracks
    have first := tracks 0 entry rfl
    have later := ih (position + 1) fun offset other there => by
      have shifted := tracks (offset + 1) other there
      rwa [show position + (offset + 1) = position + 1 + offset by omega] at shifted
    rw [visibleAmong]
    exact first.bind fun applies => later.bind fun names => tracks_pure _

/-- What the resolver reports is tracked. -/
theorem tracks_resolving (numbered : catalog.IsNumbered) :
    Tracks catalog assignment kind [] (catalog.resolving assignment kind)
      (catalog.reportWithin assignment kind) := by
  have applies {node : Node} {standing : Standing} (known : catalog.Has node)
      (there : catalog.standing? node = some standing) :
      Tracks catalog assignment kind [] (visible catalog assignment kind chainLimit node)
        fun steps => settle catalog.look assignment kind steps standing :=
    (tracks_visible numbered chainLimit [] node known rfl fun _ => nofun).congr fun steps => by
      rw [outcomeWithin, there, Option.bind_some]
  have groups : Tracks catalog assignment kind []
      (visibleAmong (visible catalog assignment kind chainLimit) .group AttributeGroup.name 0
        catalog.groups)
      fun steps => settledNames (settle catalog.look assignment kind steps)
        catalog.groupStandings := by
    refine tracks_visibleAmong groupStanding catalog.groups 0 fun number gathered there => ?_
    rw [Nat.zero_add]
    refine applies (List.getElem?_eq_some_iff.mp there).1 ?_
    rw [standing?, groupStandings, List.getElem?_map, there, Option.map_some, Option.map_some]
  have attributes : Tracks catalog assignment kind []
      (visibleAmong (visible catalog assignment kind chainLimit) .attribute
        (fun entry => entry.2.id) 0 catalog.attributes)
      fun steps => settledNames (settle catalog.look assignment kind steps)
        catalog.attributeStandings := by
    refine tracks_visibleAmong catalog.attributeStanding catalog.attributes 0
      fun position entry there => ?_
    rw [Nat.zero_add]
    refine applies (List.getElem?_eq_some_iff.mp there).1 ?_
    rw [standing?, attributeStandings, List.getElem?_map, there, Option.map_some, Option.map_some]
  exact groups.bind fun names => attributes.bind fun ids =>
    tracks_pure (⟨names, ids⟩ : VisibilityReport)

/-- The resolver reports what settles, or it stops because too many nodes wait, or because nothing
ever settles to a report. -/
theorem ends_resolving_tracked (numbered : catalog.IsNumbered) :
    Ends (catalog.resolving assignment kind) (Session.initial catalog)
      (fun report _ => ∃ steps, catalog.reportWithin assignment kind steps = some report)
      fun error _ => error = .tooDeep chainLimit
        ∨ ∀ steps, catalog.reportWithin assignment kind steps = none := by
  have grounded := grounded_initial catalog assignment kind
  refine ((tracks_resolving numbered).tracked _ grounded rfl).weaken
    (fun report after found => found.settled) fun error after missed => ?_
  exact missed.imp_right fun never steps => never steps fun _ => nofun

/-- Too many nodes wait only where there are too many. -/
theorem resolve_ne_tooDeep (numbered : catalog.IsNumbered)
    (few : catalog.attributes.length + catalog.groups.length ≤ chainLimit) :
    catalog.resolve assignment kind ≠ .error (.tooDeep chainLimit) := by
  intro failed
  obtain ⟨session, halts⟩ := justified_of_resolve numbered failed
  rcases halts.tooDeep with ⟨same, _⟩ | ⟨_, full, node, _, waits⟩
  · cases same
  · exact Nat.not_lt_of_le few (waits.chainLimit_lt full)

/-- **The resolver reports what settles.** In a catalog of at most 256 attributes and groups, it
reports something exactly if that is what all nodes settle to in some number of steps. -/
theorem resolve_eq_ok_iff (numbered : catalog.IsNumbered)
    (few : catalog.attributes.length + catalog.groups.length ≤ chainLimit)
    {report : VisibilityReport} :
    catalog.resolve assignment kind = .ok report
      ↔ ∃ steps, catalog.reportWithin assignment kind steps = some report := by
  have ended : Ends (catalog.resolving assignment kind) _ _ _ := ends_resolving_tracked numbered
  refine ⟨gives_of_resolve ended, ?_⟩
  rintro ⟨steps, settled⟩
  cases result : catalog.resolve assignment kind with
  | ok other =>
    obtain ⟨more, settledToo⟩ := gives_of_resolve ended result
    rw [(tracks_resolving numbered).unique settledToo settled]
  | error error =>
    rcases fails_of_resolve ended result with rfl | never
    · exact (resolve_ne_tooDeep numbered few result).elim
    · rw [never steps] at settled
      cases settled

end PageAttributes.Catalog
