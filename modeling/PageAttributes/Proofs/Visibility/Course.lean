/-
**The steps of the resolver are what it computes.**

* `Moment.Reaches` — some steps lead from one moment to another;
* `Moment.FollowsAt`, `Moment.Follows` — from some moments on, the steps lead to what an action gives,
  in the session in which the action ends, with everything that waits for an answer left in place; of
  the nodes that the action begins, those with a free way are the ones whose conditions are turned to;
* `Moment.follows_holdsReading`, `Moment.follows_visible` — so they do for conditions, and for nodes;
* `Moment.ends_resolving` — and for a whole catalog;
* `Solution.resolve_moments` — the resolver stops with its result after a bounded number of steps, and
  what is true at every moment until then.

The induction is on the room that is left on the stack, as it is for what the resolver decides. What
an action leaves waiting is a prefix of remainders: nothing, or the end of a node whose group has
been decided.
-/

import PageAttributes.Proofs.Visibility.Pace
import PageAttributes.Proofs.Visibility.Resolution
import PageAttributes.Proofs.Visibility.Turned

namespace PageAttributes

/-! ### Lists of conditions -/

namespace Condition

variable {read : String → Resolving (Option AttributeValue)}

/-- The outcome of the conditions of a list under an operator. -/
def gatherReading (read : String → Resolving (Option AttributeValue)) (depth : Nat) :
    Operator → List Condition → Resolving Bool
  | .all, members => allHoldReading read depth members
  | .any, members => anyHoldsReading read depth members

theorem gatherReading_nil (depth : Nat) (operator : Operator) :
    gatherReading read depth operator [] = pure (!operator.decisive) := by
  cases operator <;> rfl

theorem gatherReading_cons (depth : Nat) (operator : Operator) (member : Condition)
    (rest : List Condition) :
    gatherReading read depth operator (member :: rest)
      = (member.holdsReading read depth >>= fun holds =>
          if holds = operator.decisive then pure holds
          else gatherReading read depth operator rest) := by
  cases operator with
  | all =>
    rw [gatherReading, allHoldReading]
    congr 1
    funext holds
    cases holds <;> rfl
  | any =>
    rw [gatherReading, anyHoldsReading]
    congr 1
    funext holds
    cases holds <;> rfl

theorem holdsReading_group (depth : Nat) (operator : Operator) (members : List Condition) :
    (group operator members).holdsReading read depth
      = if depthLimit < depth then throw (.tooDeep depthLimit)
        else gatherReading read (depth + 1) operator members := by
  cases operator <;> rw [holdsReading] <;> rfl

end Condition

namespace Moment

variable {catalog : Catalog} {assignment : Assignment} {kind : Option NodeType}
  {moment later last : Moment} {node : Node} {room : Nat}

/-! ### Some steps -/

/-- Some steps lead from one moment to another. -/
def Reaches (catalog : Catalog) (assignment : Assignment) (kind : Option NodeType)
    (moment later : Moment) : Prop :=
  ∃ count, (step catalog assignment kind)^[count] moment = later

theorem Reaches.refl (moment : Moment) : Reaches catalog assignment kind moment moment := ⟨0, rfl⟩

theorem Reaches.of_step (next : moment.step catalog assignment kind = later) :
    Reaches catalog assignment kind moment later := ⟨1, next⟩

theorem Reaches.trans (early : Reaches catalog assignment kind moment later)
    (late : Reaches catalog assignment kind later last) :
    Reaches catalog assignment kind moment last := by
  obtain ⟨count, rfl⟩ := early
  obtain ⟨more, rfl⟩ := late
  exact ⟨more + count, Function.iterate_add_apply _ _ _ _⟩

/-- Where the resolver stops it comes to in the end. -/
theorem Reaches.unique {result other : Except VisibilityError VisibilityReport}
    (reaches : Reaches catalog assignment kind moment later) (stopped : later.task = .stop result)
    (reachesToo : Reaches catalog assignment kind moment last) (stoppedToo : last.task = .stop other) :
    later = last := by
  obtain ⟨count, reached⟩ := reaches
  obtain ⟨more, reachedToo⟩ := reachesToo
  calc later = (Moment.step catalog assignment kind)^[more] later :=
        (iterate_step_of_stop stopped more).symm
    _ = (Moment.step catalog assignment kind)^[more + count] moment := by
        rw [Function.iterate_add_apply, reached]
    _ = (Moment.step catalog assignment kind)^[count] last := by
        rw [Nat.add_comm, Function.iterate_add_apply, reachedToo]
    _ = last := iterate_step_of_stop stoppedToo count

/-! ### Actions -/

/-- The resolver has come to an answer in a session, and everything waits for it that did at a
moment, and some remainders besides. It has noted the nodes whose conditions it has turned to. -/
structure Answered (catalog : Catalog) (assignment : Assignment) (kind : Option NodeType)
    (own : Option Node) (origin moment : Moment) (left : List Remainder) (holds : Bool)
    (after : Session) : Prop where
  waiting : after.stack = moment.session.stack
  proper : catalog.Proper after
  around : ∀ node, own = some node → catalog.HasGroupDecided after node
  reached : ∃ turned, catalog.Turned kind own moment.session after turned
    ∧ Reaches catalog assignment kind origin
      { moment with
        session := after
        task := .answer holds
        awaiting := left ++ moment.awaiting
        consulted := turned ++ moment.consulted }

/-- The resolver has come to an error in a session, and has noted the nodes whose conditions it has
turned to since a moment. -/
def Failed (catalog : Catalog) (assignment : Assignment) (kind : Option NodeType)
    (own : Option Node) (origin moment : Moment) (error : VisibilityError) (after : Session) : Prop :=
  ∃ last turned, catalog.Turned kind own moment.session after turned
    ∧ Reaches catalog assignment kind origin last ∧ last.session = after
    ∧ last.task = .stop (.error error) ∧ last.consulted = turned ++ moment.consulted

/-- The steps from `origin` lead to what an action gives at a moment. -/
def FollowsAt (catalog : Catalog) (assignment : Assignment) (kind : Option NodeType)
    (own : Option Node) (action : Resolving Bool) (origin moment : Moment)
    (left : List Remainder) : Prop :=
  Ends action moment.session (Answered catalog assignment kind own origin moment left)
    (Failed catalog assignment kind own origin moment)

/-- With room for so many nodes, the steps from the moments that `start` makes of others lead to what
an action gives. -/
def Follows (catalog : Catalog) (assignment : Assignment) (kind : Option NodeType) (room : Nat)
    (action : Resolving Bool) (start : Moment → Moment) : Prop :=
  ∀ moment : Moment, catalog.Proper moment.session →
    room + moment.session.stack.length = chainLimit →
      FollowsAt catalog assignment kind none action (start moment) moment []

section Follows

variable {own : Option Node} {action : Resolving Bool} {next : Bool → Resolving Bool}
  {origin between : Moment} {start : Moment → Moment} {left : List Remainder}
  {remainder : Remainder} {task : Task}

theorem Answered.since {holds : Bool} {after : Session}
    (reaches : Reaches catalog assignment kind origin between)
    (answered : Answered catalog assignment kind own between moment left holds after) :
    Answered catalog assignment kind own origin moment left holds after := by
  obtain ⟨waiting, proper, around, turned, exactly, reached⟩ := answered
  exact ⟨waiting, proper, around, turned, exactly, reaches.trans reached⟩

theorem Failed.since {error : VisibilityError} {after : Session}
    (reaches : Reaches catalog assignment kind origin between)
    (failed : Failed catalog assignment kind own between moment error after) :
    Failed catalog assignment kind own origin moment error after := by
  obtain ⟨last, turned, exactly, reached, ended⟩ := failed
  exact ⟨last, turned, exactly, reaches.trans reached, ended⟩

/-- What has been noted in two parts of a run, of which the first one comes to an answer. -/
theorem Failed.behind {later : Moment} {turned : List Node} {error : VisibilityError}
    {after : Session} (failed : Failed catalog assignment kind own origin later error after)
    (proper : catalog.Proper moment.session) (proper' : catalog.Proper later.session)
    (waiting : later.session.stack = moment.session.stack)
    (exactly : catalog.Turned kind none moment.session later.session turned)
    (noted : later.consulted = turned ++ moment.consulted) :
    Failed catalog assignment kind own origin moment error after := by
  obtain ⟨last, more, exactly', reached, session, stopped, noted'⟩ := failed
  refine ⟨last, more ++ turned, exactly.trans proper proper' waiting exactly', reached, session,
    stopped, ?_⟩
  rw [noted', noted, List.append_assoc]

/-- What is true from a later moment on is true. -/
theorem FollowsAt.since (reaches : Reaches catalog assignment kind origin between)
    (follows : FollowsAt catalog assignment kind own action between moment left) :
    FollowsAt catalog assignment kind own action origin moment left :=
  follows.weaken (fun _ _ answered => answered.since reaches) fun _ _ failed => failed.since reaches

/-- What waits already is left waiting. -/
theorem FollowsAt.over
    (follows : FollowsAt catalog assignment kind own action origin
      { moment with awaiting := remainder :: moment.awaiting } []) :
    FollowsAt catalog assignment kind own action origin moment [remainder] :=
  follows.mono fun _ _ answered =>
    ⟨answered.waiting, answered.proper, answered.around, answered.reached⟩

/-- A node in progress is not turned to, and nothing else happens. -/
theorem followsAt_false (proper : catalog.Proper moment.session)
    (around : catalog.HasGroupDecided moment.session node)
    (refused : ¬ catalog.TurnsTo kind moment.session node) :
    FollowsAt catalog assignment kind (some node) (pure false) (moment.turn (.answer false)) moment
      [] :=
  ends_pure ⟨rfl, proper, fun _ same => Option.some.inj same ▸ around, [],
    (Catalog.Turned.refl moment.session).notOwn refused, .refl _⟩

/-- Once there is an answer, what waits for it is done. -/
theorem FollowsAt.bind (known : Bool → Session → Prop) (proper : catalog.Proper moment.session)
    (early : Ends action moment.session
      (fun holds after => Answered catalog assignment kind none origin
        { moment with awaiting := remainder :: moment.awaiting } [] holds after ∧ known holds after)
      (fun error after => Failed catalog assignment kind none origin
        { moment with awaiting := remainder :: moment.awaiting } error after
          ∧ ∀ node, own = some node → ¬ catalog.TurnsTo kind after node))
    (late : ∀ holds (later : Moment) turned, catalog.Proper later.session →
      known holds later.session → later.session.stack = moment.session.stack →
      catalog.Turned kind none moment.session later.session turned →
        FollowsAt catalog assignment kind own (next holds) (later.resume assignment holds remainder)
          later left) :
    FollowsAt catalog assignment kind own (action >>= next) origin moment left := by
  refine Ends.bind (early.weaken (fun holds between both => ?_) fun error after both => ?_)
  · obtain ⟨⟨waiting, proper', _, turned, exactly, reached⟩, knows⟩ := both
    have delivered := reached.trans (.of_step rfl)
    refine (late holds
      { moment with
        session := between
        task := .answer holds
        consulted := turned ++ moment.consulted }
      turned proper' knows waiting exactly).weaken (fun _ _ answered => ?_)
      fun _ _ failed => (failed.since delivered).behind proper proper' waiting exactly rfl
    obtain ⟨waiting', proper'', around, more, exactly', reached'⟩ := answered
    refine ⟨waiting'.trans waiting, proper'', around, more ++ turned,
      exactly.trans proper proper' waiting exactly', ?_⟩
    rw [List.append_assoc]
    exact delivered.trans reached'
  · obtain ⟨⟨last, turned, exactly, reached, ended⟩, refused⟩ := both
    cases own with
    | none => exact ⟨last, turned, exactly, reached, ended⟩
    | some node => exact ⟨last, turned, exactly.notOwn (refused node rfl), reached, ended⟩

theorem follows_pure (holds : Bool) :
    Follows catalog assignment kind room (pure holds) (fun moment => moment.turn (.answer holds)) :=
  fun moment proper _ => ends_pure ⟨rfl, proper, nofun, [], .refl moment.session, .refl _⟩

theorem follows_throw (error : VisibilityError) :
    Follows catalog assignment kind room (throw error) (fun moment => moment.fail error) :=
  fun moment _ _ => ends_throw ⟨moment.fail error, [], .refl moment.session, .refl _, rfl, rfl, rfl⟩

/-- What is true from the next step on is true. -/
theorem Follows.step
    (follows : Follows catalog assignment kind room action
      (fun moment => (start moment).step catalog assignment kind)) :
    Follows catalog assignment kind room action start :=
  fun moment proper enough => (follows moment proper enough).since (.of_step rfl)

/-- Once there is an answer, what waits for it is done. -/
theorem Follows.bind
    (early : Follows catalog assignment kind room action (fun moment => moment.turn task))
    (late : ∀ holds, Follows catalog assignment kind room (next holds)
      (fun moment => moment.resume assignment holds remainder)) :
    Follows catalog assignment kind room (action >>= next)
      (fun moment => moment.suspend remainder task) := by
  intro moment proper enough
  have first := early { moment with awaiting := remainder :: moment.awaiting } proper enough
  refine FollowsAt.bind (fun _ _ => True) proper (first.weaken
    (fun _ _ answered => ⟨answered, trivial⟩) fun _ _ failed => ⟨failed, nofun⟩) ?_
  intro holds later _ proper' _ waiting _
  exact late holds later proper' (by rw [waiting]; exact enough)

end Follows

/-! ### Conditions -/

/-- The steps for a node at a moment lead to what an action gives, and this is what is known of the
node then. -/
def FollowsNodeAt (catalog : Catalog) (assignment : Assignment) (kind : Option NodeType)
    (action : Resolving Bool) (node : Node) (moment : Moment) : Prop :=
  Ends action moment.session
    (fun holds after =>
      Answered catalog assignment kind none (moment.turn (.decide node)) moment [] holds after
        ∧ after.progress node = .resolved holds)
    (fun error after =>
      Failed catalog assignment kind none (moment.turn (.decide node)) moment error after
        ∧ ∀ outcome, after.progress node ≠ .resolved outcome)

/-- With room for so many nodes, the steps for every node lead to whether it applies. -/
def FollowsNodes (catalog : Catalog) (assignment : Assignment) (kind : Option NodeType)
    (room : Nat) : Prop :=
  ∀ node, catalog.Has node → ∀ moment : Moment, catalog.Proper moment.session →
    room + moment.session.stack.length = chainLimit →
      FollowsNodeAt catalog assignment kind (visible catalog assignment kind room node) node moment

theorem FollowsNodes.follows (decides : FollowsNodes catalog assignment kind room)
    (known : catalog.Has node) :
    Follows catalog assignment kind room (visible catalog assignment kind room node)
      (fun moment => moment.turn (.decide node)) :=
  fun moment proper enough => (decides node known moment proper enough).weaken
    (fun _ _ both => both.1) fun _ _ both => both.1

/-- What a condition reads is decided, and then compared. -/
theorem follows_read (decides : FollowsNodes catalog assignment kind room) (id : String)
    (expected : ConditionValue) :
    Follows catalog assignment kind room
      (catalog.readWith assignment kind room id >>= fun actual =>
        pure (actual.any fun value => value.satisfies expected))
      (fun moment => moment.read catalog id expected) := by
  unfold Catalog.readWith Moment.read
  cases found : catalog.position? id with
  | none => exact follows_throw (.unknownAttribute id)
  | some position =>
    obtain ⟨_, there, _⟩ := Catalog.getElem?_of_position? found
    have known : catalog.Has (.attribute position) := (List.getElem?_eq_some_iff.mp there).1
    simp only [bind_assoc, pure_bind]
    exact (decides.follows known).bind fun holds => follows_pure _

mutual

/-- The steps for a condition lead to whether it holds. -/
theorem follows_holdsReading (decides : FollowsNodes catalog assignment kind room) (depth : Nat)
    (condition : Condition) :
    Follows catalog assignment kind room
      (condition.holdsReading (catalog.readWith assignment kind room) depth)
      (fun moment => moment.turn (.test depth condition)) := by
  refine Follows.step ?_
  match condition with
  | .leaf id expected =>
    rw [Condition.holdsReading]
    by_cases deep : Condition.depthLimit < depth
    · simp only [Moment.step, turn, look, if_pos deep]
      exact follows_throw _
    · simp only [Moment.step, turn, look, if_neg deep]
      exact follows_read decides id expected
  | .group operator members =>
    rw [Condition.holdsReading_group]
    by_cases deep : Condition.depthLimit < depth
    · simp only [Moment.step, turn, look, if_pos deep]
      exact follows_throw _
    · simp only [Moment.step, turn, look, if_neg deep]
      exact follows_gatherReading decides (depth + 1) operator members

/-- The steps for a list of conditions lead to its outcome. -/
theorem follows_gatherReading (decides : FollowsNodes catalog assignment kind room) (depth : Nat)
    (operator : Operator) (members : List Condition) :
    Follows catalog assignment kind room
      (Condition.gatherReading (catalog.readWith assignment kind room) depth operator members)
      (fun moment => moment.test operator depth members) := by
  match members with
  | [] =>
    rw [Condition.gatherReading_nil]
    exact follows_pure _
  | member :: rest =>
    rw [Condition.gatherReading_cons]
    refine (follows_holdsReading decides depth member).bind fun holds => ?_
    unfold resume
    by_cases decisive : holds = operator.decisive
    · simp only [if_pos decisive]
      exact follows_pure holds
    · simp only [if_neg decisive]
      exact follows_gatherReading decides depth operator rest

end

/-! ### Nodes -/

/-- The steps for the restrictions of a node in progress, which only its end waits for, lead to
whether they are met. -/
theorem followsAt_restrictionsHold (decides : FollowsNodes catalog assignment kind room)
    (restrictions : Restrictions) (proper : catalog.Proper moment.session)
    (enough : room + moment.session.stack.length = chainLimit)
    (begun : moment.session.progress node ≠ .pending)
    (around : catalog.HasGroupDecided moment.session node)
    (turns : ∀ after, moment.session.Extends after →
      (catalog.TurnsTo kind after node ↔ admits restrictions.nodeTypes kind = true)) :
    FollowsAt catalog assignment kind (some node)
      (restrictionsHold (catalog.readWith assignment kind room) restrictions.nodeTypes
        restrictions.conditions kind)
      (moment.turn (.weigh node restrictions)) moment [] := by
  refine FollowsAt.since (.of_step rfl) ?_
  unfold restrictionsHold
  by_cases admitted : admits restrictions.nodeTypes kind
  · simp only [Moment.step, turn, weigh, if_pos admitted]
    have conditions := follows_gatherReading decides 1 .all (restrictions.conditions.getD [])
      { moment with consulted := node :: moment.consulted } proper enough
    refine conditions.weaken (fun holds after answered => ?_) fun error after failed => ?_
    · obtain ⟨waiting, proper', _, turned, exactly, reached⟩ := answered
      refine ⟨waiting, proper', fun _ same => Option.some.inj same ▸ around.extend exactly.extended,
        turned ++ [node], exactly.own begun ((turns after exactly.extended).mpr admitted), ?_⟩
      rw [List.append_assoc]
      exact reached
    · obtain ⟨last, turned, exactly, reached, session, stopped, noted⟩ := failed
      refine ⟨last, turned ++ [node],
        exactly.own begun ((turns after exactly.extended).mpr admitted), reached, session, stopped,
        ?_⟩
      rw [List.append_assoc]
      exact noted
  · simp only [Moment.step, turn, weigh, if_neg admitted]
    exact followsAt_false proper around fun free =>
      admitted ((turns moment.session (.refl _)).mp free)

/-- The steps for a node that has been begun lead to whether it applies, and leave its end to be
done. -/
theorem followsAt_decideBegun (numbered : catalog.IsNumbered)
    (decides : FollowsNodes catalog assignment kind room) (proper : catalog.Proper moment.session)
    (enough : room + moment.session.stack.length = chainLimit)
    (known : catalog.Has node) (begun : moment.session.progress node ≠ .pending) :
    FollowsAt catalog assignment kind (some node) (catalog.decideBegun assignment kind room node)
      (moment.suspend (catalog.opening node).2 (catalog.opening node).1) moment
      [.outcome node] := by
  match node with
  | .group number =>
    have inside : number < catalog.groups.length := known
    obtain ⟨gathered, there⟩ : ∃ gathered, catalog.groups[number]? = some gathered :=
      ⟨_, List.getElem?_eq_getElem inside⟩
    simp only [Catalog.decideBegun, Catalog.opening, there]
    refine FollowsAt.over (followsAt_restrictionsHold decides gathered.restrictions proper enough
      begun Catalog.hasGroupDecided_group fun _ _ => ?_)
    exact Catalog.turnsTo_group_iff there
  | .attribute position =>
    have inside : position < catalog.attributes.length := known
    obtain ⟨⟨_ | number, declared⟩, there⟩ : ∃ entry, catalog.attributes[position]? = some entry :=
      ⟨_, List.getElem?_eq_getElem inside⟩
    · simp only [Catalog.decideBegun, Catalog.opening, there]
      refine FollowsAt.over (followsAt_restrictionsHold decides declared.restrictions proper enough
        begun (Catalog.hasGroupDecided_single there) fun _ _ => ?_)
      exact Catalog.turnsTo_single_iff there
    · simp only [Catalog.decideBegun, Catalog.opening, there]
      have group : catalog.Has (.group number) :=
        numbered _ (List.mem_of_getElem? there) number rfl
      refine FollowsAt.bind (fun holds after => after.progress (.group number) = .resolved holds)
        proper ((decides (.group number) group
          { moment with
            awaiting := .around (.attribute position) declared.restrictions :: moment.awaiting }
          proper enough).weaken (fun _ _ both => both) fun error after both => ⟨both.1, ?_⟩) ?_
      · rintro _ ⟨⟩ free
        exact both.2 true ((Catalog.turnsTo_member_iff there).mp free).1
      intro holds later turned proper' decided waiting exactly
      have around := Catalog.hasGroupDecided_member there decided
      cases holds with
      | false =>
        refine FollowsAt.over (followsAt_false proper' around fun free => ?_)
        rw [Catalog.turnsTo_member_iff there, decided] at free
        cases free.1
      | true =>
        refine FollowsAt.over (followsAt_restrictionsHold decides declared.restrictions proper'
          (by rw [waiting]; exact enough) (exactly.begun begun) around fun after extended => ?_)
        rw [Catalog.turnsTo_member_iff there, extended _ _ decided]
        exact and_iff_right rfl

theorem step_decide (moment : Moment) (node : Node) :
    (moment.turn (.decide node)).step catalog assignment kind = moment.decide catalog node := rfl

/-- What is known about a node is the answer, or it is in progress, and otherwise it is begun. -/
theorem followsNodeAt_lookUp {begin_ : Resolving Bool} (proper : catalog.Proper moment.session)
    (begins : moment.session.progress node = .pending →
      FollowsNodeAt catalog assignment kind begin_ node moment) :
    FollowsNodeAt catalog assignment kind (catalog.lookUp node begin_) node moment := by
  refine ends_get_bind ?_
  cases progress : moment.session.progress node with
  | resolved outcome =>
    have next : (moment.turn (.decide node)).step catalog assignment kind
        = moment.turn (.answer outcome) := by
      rw [step_decide, decide, progress]
    exact ends_pure ⟨⟨rfl, proper, nofun, [], .refl moment.session, .of_step next⟩, progress⟩
  | inProgress =>
    have next : (moment.turn (.decide node)).step catalog assignment kind
        = moment.fail (.cycle ((moment.session.loop node).map catalog.label)) := by
      rw [step_decide, decide, progress]
    refine ends_throw ⟨⟨_, [], .refl moment.session, .of_step next, rfl, rfl, rfl⟩, ?_⟩
    rw [progress]
    exact nofun
  | pending => exact begins progress

/-- **The steps for every node lead to whether it applies.** -/
theorem follows_visible (numbered : catalog.IsNumbered) (assignment : Assignment)
    (kind : Option NodeType) (room : Nat) : FollowsNodes catalog assignment kind room := by
  induction room with
  | zero =>
    intro node known moment proper enough
    rw [Catalog.visible_zero]
    refine followsNodeAt_lookUp proper fun pending => ?_
    have full : chainLimit ≤ moment.session.stack.length := by omega
    have next : (moment.turn (.decide node)).step catalog assignment kind
        = moment.fail (.tooDeep chainLimit) := by
      rw [step_decide, decide, pending]
      exact if_pos full
    refine ends_throw ⟨⟨_, [], .refl moment.session, .of_step next, rfl, rfl, rfl⟩, ?_⟩
    rw [pending]
    exact nofun
  | succ room ih =>
    intro node known moment proper enough
    rw [Catalog.visible_succ]
    refine followsNodeAt_lookUp proper fun pending => ?_
    have free : ¬ chainLimit ≤ moment.session.stack.length := by omega
    have next : (moment.turn (.decide node)).step catalog assignment kind
        = moment.begin_ catalog node := by
      rw [step_decide, decide, pending]
      exact if_neg free
    have entered : (moment.session.enter node).progress node = .inProgress := by
      rw [Session.progress_enter, Session.progress_note_self proper.tidy.fits known]
    have enough' : room + (moment.session.enter node).stack.length = chainLimit := by
      rw [Session.stack_enter, List.length_cons]
      omega
    have begun := @followsAt_decideBegun catalog assignment kind
      { moment with session := moment.session.enter node } node room numbered ih
      (proper.enter known pending) enough' known (by rw [entered]; exact nofun)
    refine ends_modify_bind (Ends.bind (begun.weaken (fun holds between answered => ?_)
      fun error after failed => ?_))
    · obtain ⟨waiting, proper', around, turned, exactly, reached⟩ := answered
      have last : between.stack = node :: moment.session.stack := waiting
      have its := around node rfl
      have ended := (exactly.of_enter proper known pending).leave proper proper' last its holds
      refine ends_modify_bind (ends_pure ⟨⟨?_, proper'.leave last holds its, nofun, turned, ended,
        ?_⟩, ?_⟩)
      · rw [Session.stack_leave, last]
        rfl
      · exact (Reaches.of_step next).trans (reached.trans (.of_step rfl))
      · rw [Session.progress_leave, Session.progress_note_self proper'.tidy.fits known]
    · obtain ⟨last, turned, exactly, reached, ended⟩ := failed
      refine ⟨⟨last, turned, exactly.of_enter proper known pending,
        (Reaches.of_step next).trans reached, ended⟩, ?_⟩
      rw [exactly.open_ node entered]
      exact nofun

/-! ### Catalogs -/

/-- A moment at which nothing waits for an answer. -/
def idle (session : Session) (consulted : List Node) (found : VisibilityReport)
    (ahead : List (Node × String)) : Moment :=
  ⟨session, .next, [], consulted, found, ahead⟩

/-- The steps for some nodes lead to the names of those that apply. -/
theorem ends_visibleAmong {α : Type} (numbered : catalog.IsNumbered) (assignment : Assignment)
    (kind : Option NodeType) (node : Nat → Node) (name : α → String)
    (extend : VisibilityReport → List String → VisibilityReport)
    (same : ∀ found, extend found [] = found)
    (added : ∀ found position first rest,
      extend (found.add first (node position)) rest = extend found (first :: rest))
    (more : List (Node × String)) (entries : List α) :
    ∀ (position : Nat) (session : Session) (consulted : List Node) (found : VisibilityReport),
      (∀ entry ∈ Catalog.entriesFrom node name position entries, catalog.Has entry.1) →
      catalog.Proper session → session.stack = [] →
      Ends (visibleAmong (visible catalog assignment kind chainLimit) node name position entries)
        session
        (fun names after => catalog.Proper after ∧ after.stack = []
          ∧ ∃ turned, catalog.Turned kind none session after turned
            ∧ Reaches catalog assignment kind
              (idle session consulted found
                (Catalog.entriesFrom node name position entries ++ more))
              (idle after (turned ++ consulted) (extend found names) more))
        (Failed catalog assignment kind none
          (idle session consulted found (Catalog.entriesFrom node name position entries ++ more))
          (idle session consulted found
            (Catalog.entriesFrom node name position entries ++ more))) := by
  induction entries with
  | nil =>
    intro position session consulted found _ proper empty
    refine ends_pure ⟨proper, empty, [], .refl session, ?_⟩
    rw [same]
    exact .refl _
  | cons entry rest ih =>
    intro position session consulted found known proper empty
    have ahead : Catalog.entriesFrom node name position (entry :: rest)
        = (node position, name entry) :: Catalog.entriesFrom node name (position + 1) rest := by
      rw [Catalog.entriesFrom, List.zipIdx_cons]
      rfl
    rw [ahead] at known ⊢
    obtain ⟨here, others⟩ := List.forall_mem_cons.mp known
    have decided := follows_visible numbered assignment kind chainLimit (node position) here
      (idle session consulted found
        ((node position, name entry) :: Catalog.entriesFrom node name (position + 1) rest ++ more))
      proper (by rw [idle, empty]; rfl)
    refine Ends.bind (decided.weaken (fun applies between both => ?_)
      fun error after both => both.1.since (.of_step rfl))
    obtain ⟨⟨waiting, proper', _, turned, exactly, reached⟩, _⟩ := both
    have recorded : Reaches catalog assignment kind
        (idle session consulted found
          ((node position, name entry) :: Catalog.entriesFrom node name (position + 1) rest ++ more))
        (idle between (turned ++ consulted)
          (if applies then found.add (name entry) (node position) else found)
          (Catalog.entriesFrom node name (position + 1) rest ++ more)) :=
      (Reaches.of_step rfl).trans (reached.trans (.of_step rfl))
    have behind := ih (position + 1) between (turned ++ consulted)
      (if applies then found.add (name entry) (node position) else found) others proper'
      (waiting.trans empty)
    refine Ends.bind (behind.weaken (fun names after reached' => ends_pure ?_)
      fun error after failed => (failed.since recorded).behind proper proper' waiting exactly rfl)
    obtain ⟨proper'', empty', later, exactly', reached'⟩ := reached'
    refine ⟨proper'', empty', later ++ turned, exactly.trans proper proper' waiting exactly',
      recorded.trans ?_⟩
    rw [← List.append_assoc] at reached'
    cases applies with
    | false => exact reached'
    | true =>
      simp only [if_true] at reached' ⊢
      rw [← added]
      exact reached'

/-- **The steps for a catalog lead to its result.** -/
theorem ends_resolving (numbered : catalog.IsNumbered) (assignment : Assignment)
    (kind : Option NodeType) :
    Ends (catalog.resolving assignment kind) (Session.initial catalog)
      (fun report after => ∃ last, Reaches catalog assignment kind (first catalog) last
        ∧ last.session = after ∧ last.task = .stop (.ok report)
        ∧ catalog.Turned kind none (Session.initial catalog) after last.consulted)
      (Failed catalog assignment kind none (first catalog) (first catalog)) := by
  have known (entry : Node × String) (member : entry ∈ catalog.entries) : catalog.Has entry.1 :=
    Catalog.mem_entries_iff.mp (List.mem_map_of_mem member)
  have groups := ends_visibleAmong numbered assignment kind .group AttributeGroup.name
    (fun found names => { found with groups := found.groups ++ names })
    (fun found => by rw [List.append_nil])
    (fun found position first rest => by simp only [VisibilityReport.add, List.append_assoc,
      List.singleton_append])
    (Catalog.entriesFrom .attribute (fun entry => entry.2.id) 0 catalog.attributes)
    catalog.groups 0 (Session.initial catalog) [] .empty
    (fun entry member => known entry (List.mem_append_left _ member))
    (Catalog.proper_initial catalog) rfl
  refine Ends.bind (groups.weaken (fun groups between reached => ?_) fun _ _ failed => failed)
  obtain ⟨proper, empty, turned, exactly, reached⟩ := reached
  rw [List.append_nil] at reached
  have attributes := ends_visibleAmong numbered assignment kind .attribute
    (fun entry : Option Nat × Attribute => entry.2.id)
    (fun found names => { found with attributes := found.attributes ++ names })
    (fun found => by rw [List.append_nil])
    (fun found position first rest => by simp only [VisibilityReport.add, List.append_assoc,
      List.singleton_append])
    [] catalog.attributes 0 between turned ⟨groups, []⟩
    (fun entry member => known entry (List.mem_append_right _ member)) proper empty
  rw [List.append_nil] at attributes
  refine Ends.bind (attributes.weaken (fun attributes after reached' => ends_pure ?_)
    fun error after failed => (failed.since reached).behind (Catalog.proper_initial catalog) proper
      empty exactly (List.append_nil turned).symm)
  obtain ⟨_, _, later, exactly', reached'⟩ := reached'
  exact ⟨_, reached.trans (reached'.trans (.of_step rfl)), rfl, rfl,
    exactly.trans (Catalog.proper_initial catalog) proper empty exactly'⟩

/-- The steps lead to the result of the resolver, in the session in which it ends, and what has been
noted are the nodes that the session tells to have been turned to. -/
theorem exists_reaches (numbered : catalog.IsNumbered) (assignment : Assignment)
    (kind : Option NodeType) :
    ∃ last, Reaches catalog assignment kind (first catalog) last
      ∧ last.session = catalog.finalSession assignment kind
      ∧ last.task = .stop (catalog.resolve assignment kind)
      ∧ catalog.Turned kind none (Session.initial catalog) (catalog.finalSession assignment kind)
        last.consulted := by
  have ended := ends_resolving numbered assignment kind
  cases resolved : catalog.resolve assignment kind with
  | ok report =>
    obtain ⟨last, reached, session, stopped, exactly⟩ := Catalog.gives_of_resolve ended resolved
    exact ⟨last, reached, session, stopped, exactly⟩
  | error error =>
    obtain ⟨last, turned, exactly, reached, session, stopped, noted⟩ :=
      Catalog.fails_of_resolve ended resolved
    rw [first, List.append_nil] at noted
    exact ⟨last, reached, session, stopped, noted ▸ exactly⟩

/-- The steps of a catalog are enough for its result. -/
theorem after_budget (numbered : catalog.IsNumbered) (assignment : Assignment)
    (kind : Option NodeType) :
    (after catalog assignment kind catalog.budget).task = .stop (catalog.resolve assignment kind)
      ∧ (after catalog assignment kind catalog.budget).session
        = catalog.finalSession assignment kind
      ∧ catalog.Turned kind none (Session.initial catalog) (catalog.finalSession assignment kind)
        (after catalog assignment kind catalog.budget).consulted := by
  obtain ⟨result, stopped⟩ := exists_stop numbered assignment kind
  obtain ⟨last, reached, session, ended, exactly⟩ := exists_reaches numbered assignment kind
  have same := Reaches.unique ⟨catalog.budget, rfl⟩ stopped reached ended
  rw [after, same]
  exact ⟨ended, session, exactly⟩

end Moment

namespace Solution

/-- **What is true while a solution is resolved.** After a number of steps that grows with the size
of the solution, the resolver has stopped, with its report or its error, and has turned to the
conditions of exactly those nodes that have been begun, are of an admitted kind, and have no group
or one that applies. At every moment until then, and when it has stopped, the conditions of every
attribute and of every group have been turned to at most once; and there are at most 256 nodes on the
stack, all of them different, which are exactly the nodes in progress. -/
theorem resolve_moments (solution : Solution) (assignment : Assignment) (kind : Option NodeType) :
    let catalog := Catalog.ofSolution solution
    let moment := Moment.after catalog assignment kind
    ((moment catalog.budget).task = .stop (solution.resolve assignment kind)
        ∧ (moment catalog.budget).session = catalog.finalSession assignment kind
        ∧ ∀ node, node ∈ (moment catalog.budget).consulted
            ↔ (catalog.finalSession assignment kind).progress node ≠ .pending
              ∧ catalog.TurnsTo kind (catalog.finalSession assignment kind) node)
      ∧ ∀ count, (moment count).consulted.Nodup
        ∧ (moment count).session.stack.length ≤ 256
        ∧ (moment count).session.stack.Nodup
        ∧ ∀ node, (moment count).session.progress node = .inProgress
            ↔ node ∈ (moment count).session.stack := by
  intro catalog moment
  have numbered := Catalog.isNumbered_ofSolution solution
  obtain ⟨stopped, session, exactly⟩ := Moment.after_budget numbered assignment kind
  refine ⟨⟨stopped, session, fun node => ?_⟩, fun count => ?_⟩
  · rw [exactly.exact_]
    exact and_iff_right (Or.inr (Session.progress_initial catalog node))
  · obtain ⟨orderly, _⟩ := Moment.sound_after numbered assignment kind count
    exact ⟨orderly.once, orderly.bounded, orderly.tidy.distinct, orderly.tidy.open_⟩

end Solution

end PageAttributes
