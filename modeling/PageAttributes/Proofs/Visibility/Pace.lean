/-
**How many steps the resolver takes.**

* `Condition.steps`, `Catalog.stepsOf` — the steps that a condition takes, and a node;
* `Moment.budget` — the steps that are left: those of what is done next, of everything that remains
  to be done, of every node that is still to be reported on, and of every node that is pending;
* `Moment.Sound.budget_step_lt` — every step uses up one of them at least;
* `Moment.exists_stop` — so the resolver stops, with a report or with an error, after at most as many
  steps as the budget has, which is proportional to the size of the solution.

A condition leads to attributes, whose conditions lead to further ones, but each of them is begun
only while it is pending. What the budget pays for a node is taken from the pending nodes when it is
begun, and whatever else is left only gets smaller.
-/

import Mathlib.Algebra.GroupWithZero.Nat
import Mathlib.Algebra.Order.BigOperators.Group.List
import Mathlib.Algebra.Order.Group.Nat
import PageAttributes.Proofs.Visibility.Moments

namespace PageAttributes

/-! ### Steps of parts -/

namespace Condition

mutual

/-- The steps that a condition takes at most: a leaf four, and a group those of its members and one
more. -/
def steps : Condition → Nat
  | .leaf _ _ => 4
  | .group _ members => allSteps members + 1

/-- The steps that some conditions take at most, and the answer to them. -/
def allSteps : List Condition → Nat
  | [] => 1
  | member :: rest => steps member + allSteps rest

end

theorem steps_pos (condition : Condition) : 0 < condition.steps := by
  cases condition with
  | leaf _ _ => exact Nat.zero_lt_succ 3
  | group _ members => exact Nat.zero_lt_succ (allSteps members)

theorem allSteps_pos (conditions : List Condition) : 0 < allSteps conditions := by
  cases conditions with
  | nil => exact Nat.one_pos
  | cons member rest => exact Nat.add_pos_left member.steps_pos _

end Condition

/-- The steps that restrictions take at most. -/
def Restrictions.steps (restrictions : Restrictions) : Nat :=
  Condition.allSteps (restrictions.conditions.getD []) + 1

/-- The steps that something takes at most, apart from those of nodes that are begun meanwhile. -/
def Task.steps : Task → Nat
  | .next => 3
  | .decide _ => 2
  | .weigh _ restrictions => restrictions.steps
  | .test _ condition => condition.steps
  | .answer _ => 1
  | .stop _ => 0

/-- The steps that remain at most once there is an answer. -/
def Remainder.steps : Remainder → Nat
  | .around _ restrictions => restrictions.steps + 1
  | .outcome _ => 1
  | .leaf _ _ => 1
  | .members _ _ rest => Condition.allSteps rest

namespace Catalog

/-- The steps that a node takes at most once it is begun. -/
def stepsOf (catalog : Catalog) (node : Node) : Nat :=
  Condition.allSteps (catalog.conditionsOf node) + 4

/-- The steps of the nodes that are pending. -/
def pendingSteps (catalog : Catalog) (session : Session) : Nat :=
  (catalog.entries.map fun entry =>
    if session.progress entry.1 = .pending then catalog.stepsOf entry.1 else 0).sum

/-- The steps that all nodes take at most: seven for every node, besides those of its conditions. -/
def budget (catalog : Catalog) : Nat :=
  3 + (catalog.entries.map fun entry => 3 + catalog.stepsOf entry.1).sum

variable {catalog : Catalog} {session after : Session} {node : Node}

theorem pendingSteps_le
    (fewer : ∀ other, after.progress other = .pending → session.progress other = .pending) :
    catalog.pendingSteps after ≤ catalog.pendingSteps session := by
  refine List.sum_le_sum fun entry _ => ?_
  split
  · rename_i pending
    rw [if_pos (fewer _ pending)]
  · exact Nat.zero_le _

/-- When a node is begun, its steps no longer count as those of a pending node. -/
theorem pendingSteps_enter (fits : session.Fits catalog) (known : catalog.Has node)
    (pending : session.progress node = .pending) :
    catalog.pendingSteps (session.enter node) + catalog.stepsOf node
      ≤ catalog.pendingSteps session := by
  have begun : (session.enter node).progress node = .inProgress := by
    rw [Session.progress_enter, Session.progress_note_self fits known]
  have fewer : ∀ entry : Node × String,
      (if (session.enter node).progress entry.1 = .pending then catalog.stepsOf entry.1 else 0)
        ≤ if session.progress entry.1 = .pending then catalog.stepsOf entry.1 else 0 := by
    intro entry
    by_cases same : entry.1 = node
    · rw [same, begun, if_neg nofun]
      exact Nat.zero_le _
    · rw [Session.progress_enter, Session.progress_note_other same]
  obtain ⟨entry, member, rfl⟩ := List.mem_map.mp (mem_entries_iff.mpr known)
  obtain ⟨before, behind, parts⟩ := List.append_of_mem member
  have early := List.sum_le_sum fun other (_ : other ∈ before) => fewer other
  have late := List.sum_le_sum fun other (_ : other ∈ behind) => fewer other
  simp only [pendingSteps, parts, List.map_append, List.map_cons, List.sum_append, List.sum_cons,
    begun, pending, if_true, reduceCtorEq, if_false]
  omega

/-- What is done with a node that is begun, and what remains then, takes no more steps than the
node. -/
theorem steps_opening (catalog : Catalog) (node : Node) :
    (catalog.opening node).1.steps + (catalog.opening node).2.steps ≤ catalog.stepsOf node := by
  rw [stepsOf]
  rcases opening_cases catalog node with same | ⟨restrictions, same, its⟩
    | ⟨restrictions, _, same, its, _⟩
  · simp only [same, Task.steps, Remainder.steps]
    omega
  · simp only [same, Task.steps, Remainder.steps, Restrictions.steps, its]
    omega
  · simp only [same, Task.steps, Remainder.steps, Restrictions.steps, its]
    omega

end Catalog

namespace Moment

variable {catalog : Catalog} {assignment : Assignment} {kind : Option NodeType} {moment : Moment}
  {node : Node}

/-! ### The steps that are left -/

/-- The steps that are left at most, besides those of what is done next. -/
def reserve (catalog : Catalog) (moment : Moment) : Nat :=
  (moment.awaiting.map Remainder.steps).sum + 3 * moment.ahead.length
    + catalog.pendingSteps moment.session

/-- The steps that are left at most. -/
def budget (catalog : Catalog) (moment : Moment) : Nat :=
  moment.task.steps + moment.reserve catalog

theorem budget_turn (moment : Moment) (task : Task) :
    (moment.turn task).budget catalog = task.steps + moment.reserve catalog := rfl

theorem budget_suspend (moment : Moment) (remainder : Remainder) (task : Task) :
    (moment.suspend remainder task).budget catalog
      = task.steps + remainder.steps + moment.reserve catalog := by
  simp only [budget, reserve, suspend, List.map_cons, List.sum_cons]
  omega

theorem budget_test (moment : Moment) (operator : Operator) (depth : Nat)
    (conditions : List Condition) :
    (moment.test operator depth conditions).budget catalog
      = Condition.allSteps conditions + moment.reserve catalog := by
  cases conditions with
  | nil => rfl
  | cons member rest => exact budget_suspend moment _ _

/-! ### One step -/

theorem budget_proceed_lt (moment : Moment) :
    moment.proceed.budget catalog < 3 + moment.reserve catalog := by
  unfold proceed
  split
  · rw [budget_turn, Task.steps]
    omega
  · rw [budget_turn, Task.steps]
    omega

theorem Orderly.budget_decide_lt (orderly : moment.Orderly catalog) (known : catalog.Has node) :
    (moment.decide catalog node).budget catalog < 2 + moment.reserve catalog := by
  unfold Moment.decide
  split
  · rw [budget_turn, Task.steps]
    omega
  · rw [fail, budget_turn, Task.steps]
    omega
  · rename_i pending
    split
    · rw [fail, budget_turn, Task.steps]
      omega
    · have opening := catalog.steps_opening node
      have taken := Catalog.pendingSteps_enter orderly.tidy.fits known pending
      rw [Moment.begin_, budget_suspend]
      simp only [reserve]
      omega

theorem budget_weigh_lt (moment : Moment) (node : Node) (restrictions : Restrictions) :
    (moment.weigh kind node restrictions).budget catalog
      < restrictions.steps + moment.reserve catalog := by
  have positive := Condition.allSteps_pos (restrictions.conditions.getD [])
  rw [Restrictions.steps]
  unfold weigh
  split
  · have same : ({ moment with consulted := node :: moment.consulted } : Moment).reserve catalog
        = moment.reserve catalog := rfl
    rw [consult, budget_test, same]
    omega
  · rw [budget_turn, Task.steps]
    omega

theorem budget_look_lt (moment : Moment) (depth : Nat) (condition : Condition) :
    (moment.look catalog depth condition).budget catalog
      < condition.steps + moment.reserve catalog := by
  have positive := condition.steps_pos
  unfold look
  split
  · rw [fail, budget_turn, Task.steps]
    omega
  · cases condition with
    | leaf id expected =>
      dsimp only
      rw [Condition.steps]
      unfold read
      split
      · rw [fail, budget_turn, Task.steps]
        omega
      · rw [budget_suspend, Task.steps, Remainder.steps]
        omega
    | group operator members =>
      dsimp only
      rw [Condition.steps, budget_test]
      omega

theorem budget_record_lt (moment : Moment) (holds : Bool) :
    (moment.record holds).budget catalog < 1 + moment.reserve catalog := by
  unfold record
  split
  · rw [budget_turn, Task.steps]
    omega
  · rename_i ahead
    simp only [budget, reserve, Task.steps, ahead, List.length_cons]
    omega

/-- To end the last node that was begun leaves no more nodes pending. -/
theorem Orderly.pendingSteps_leave (orderly : moment.Orderly catalog)
    (member : node ∈ moment.session.stack) (holds : Bool) :
    catalog.pendingSteps (moment.session.leave node holds)
      ≤ catalog.pendingSteps moment.session := by
  refine Catalog.pendingSteps_le fun other pending => ?_
  rw [Session.progress_leave] at pending
  by_cases same : other = node
  · subst same
    rw [Session.progress_note_self orderly.tidy.fits (orderly.tidy.known other member)] at pending
    cases pending
  · rwa [Session.progress_note_other same] at pending

theorem Orderly.budget_deliver_lt (orderly : moment.Orderly catalog) (holds : Bool) :
    (moment.deliver assignment holds).budget catalog < 1 + moment.reserve catalog := by
  unfold Moment.deliver
  split
  · exact budget_record_lt moment holds
  · rename_i remainder rest waiting
    have parts : moment.reserve catalog
        = remainder.steps + ({ moment with awaiting := rest } : Moment).reserve catalog := by
      simp only [reserve, waiting, List.map_cons, List.sum_cons]
      omega
    rw [parts]
    cases remainder with
    | around node restrictions =>
      have positive : 0 < restrictions.steps := Nat.zero_lt_succ _
      rw [resume, budget_suspend]
      cases holds <;> simp only [Task.steps, Remainder.steps, Bool.false_eq_true, if_true, if_false]
        <;> omega
    | outcome node =>
      have fewer := orderly.pendingSteps_leave
        (orderly.stack_eq waiting rfl ▸ List.mem_cons_self) holds
      rw [resume, budget_turn]
      simp only [reserve, Task.steps, Remainder.steps]
      omega
    | leaf id expected =>
      rw [resume, budget_turn]
      simp only [Task.steps, Remainder.steps]
      omega
    | members operator depth conditions =>
      have positive := Condition.allSteps_pos conditions
      rw [resume]
      split
      · rw [budget_turn]
        simp only [Task.steps, Remainder.steps]
        omega
      · rw [budget_test, Remainder.steps]
        omega

/-- **Every step uses up one of the steps that are left.** -/
theorem Sound.budget_step_lt (sound : moment.Sound catalog)
    (running : ∀ result, moment.task ≠ .stop result) :
    (moment.step catalog assignment kind).budget catalog < moment.budget catalog := by
  obtain ⟨orderly, ready⟩ := sound
  unfold Ready at ready
  rw [budget.eq_def catalog moment]
  unfold Moment.step
  cases task : moment.task with
  | next => exact budget_proceed_lt moment
  | decide node =>
    rw [task] at ready
    exact orderly.budget_decide_lt ready
  | weigh node restrictions => exact budget_weigh_lt moment node restrictions
  | test depth condition => exact budget_look_lt moment depth condition
  | answer holds => exact orderly.budget_deliver_lt holds
  | stop result => exact absurd task (running result)

/-! ### A whole run -/

theorem step_of_stop {result : Except VisibilityError VisibilityReport}
    (stopped : moment.task = .stop result) : moment.step catalog assignment kind = moment := by
  rw [step, stopped]

/-- Nothing happens after the resolver has stopped. -/
theorem iterate_step_of_stop {result : Except VisibilityError VisibilityReport}
    (stopped : moment.task = .stop result) (count : Nat) :
    (step catalog assignment kind)^[count] moment = moment :=
  Function.iterate_fixed (step_of_stop stopped) count

/-- The resolver stops after at most as many steps as are left. -/
theorem Sound.exists_stop (numbered : catalog.IsNumbered) {count : Nat} :
    ∀ {moment : Moment}, moment.Sound catalog → moment.budget catalog ≤ count →
      ∃ result, ((Moment.step catalog assignment kind)^[count] moment).task = .stop result := by
  induction count with
  | zero =>
    intro moment _ none
    have spent : moment.task.steps = 0 := by
      rw [budget] at none
      omega
    cases task : moment.task with
    | stop result => exact ⟨result, task⟩
    | next => rw [task] at spent; cases spent
    | decide _ => rw [task] at spent; cases spent
    | weigh _ _ => rw [task] at spent; cases spent
    | test _ condition =>
      rw [task] at spent
      exact absurd spent (Nat.ne_of_gt condition.steps_pos)
    | answer _ => rw [task] at spent; cases spent
  | succ count ih =>
    intro moment sound enough
    by_cases running : ∀ result, moment.task ≠ .stop result
    · have less : (moment.step catalog assignment kind).budget catalog < moment.budget catalog :=
        sound.budget_step_lt running
      rw [Function.iterate_succ_apply]
      exact ih (sound.step numbered) (by omega)
    · obtain ⟨result, stopped⟩ := not_forall_not.mp running
      exact ⟨result, by rw [iterate_step_of_stop stopped, stopped]⟩

theorem budget_first (catalog : Catalog) : (first catalog).budget catalog = catalog.budget := by
  have all : catalog.pendingSteps (Session.initial catalog)
      = (catalog.entries.map fun entry => catalog.stepsOf entry.1).sum := by
    simp only [Catalog.pendingSteps, Session.progress_initial, if_true]
  have parts (entries : List (Node × String)) :
      (entries.map fun entry => 3 + catalog.stepsOf entry.1).sum
        = 3 * entries.length + (entries.map fun entry => catalog.stepsOf entry.1).sum := by
    induction entries with
    | nil => rfl
    | cons entry rest ih =>
      simp only [List.map_cons, List.sum_cons, List.length_cons, ih]
      omega
  simp only [budget, reserve, first, Task.steps, List.map_nil, List.sum_nil, all, Catalog.budget,
    parts]
  omega

/-- **The resolver stops** within the steps of its catalog. -/
theorem exists_stop (numbered : catalog.IsNumbered) (assignment : Assignment)
    (kind : Option NodeType) :
    ∃ result, (after catalog assignment kind catalog.budget).task = .stop result := by
  have sound := sound_after numbered assignment kind 0
  exact sound.exists_stop numbered (budget_first catalog).le

end Moment

end PageAttributes
