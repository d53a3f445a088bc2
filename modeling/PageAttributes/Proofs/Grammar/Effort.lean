/-
**How many steps the depth-first search takes.**

* `Search.Moves` — some steps of the search, between which it begins with nodes that have not been
  visited whenever nothing is on the stack;
* `Search.budget` — the steps that are left: one for every edge still to follow and one for the end
  of every node, for the nodes on the stack and for those that have not been visited;
* `Search.budget_step`, `Search.budget_enter` — every step uses up one of them, and beginning with a
  node none;
* `Search.moves_findCycles` — so the whole search takes one step for every node and one for every
  edge of the graph, and then nothing is on the stack.
-/

import Mathlib.Algebra.BigOperators.Fin
import PageAttributes.Proofs.Grammar.Search

namespace PageAttributes.Grammar

namespace Search

variable {edges : EdgeTable} {search : Search}

/-- The search gets from one state to another in so many steps. It begins with a node that has not
been visited when nothing is on the stack. -/
inductive Moves (edges : EdgeTable) : Nat → Search → Search → Prop
  | done (search : Search) : Moves edges 0 search search
  | step {steps : Nat} {search last : Search} (busy : search.stack ≠ [])
      (later : Moves edges steps (search.step edges) last) : Moves edges (steps + 1) search last
  | enter {steps : Nat} {search last : Search} (node : Nat) (idle : search.stack = [])
      (fresh : search.mark node = .unvisited)
      (later : Moves edges steps (search.enter edges node) last) : Moves edges steps search last

/-- Some steps, and then some more. -/
theorem Moves.append {steps more : Nat} {first middle last : Search}
    (moves : Moves edges steps first middle) (later : Moves edges more middle last) :
    Moves edges (steps + more) first last := by
  induction moves with
  | done => rwa [Nat.zero_add]
  | step busy _ ih =>
    rw [Nat.add_right_comm]
    exact .step busy (ih later)
  | enter node idle fresh _ ih => exact .enter node idle fresh (ih later)

/-! ### The steps that are left -/

/-- The steps for a node: one for every edge, and one to end with it. -/
def cost (edges : EdgeTable) (node : Nat) : Nat := ((edges[node]?).getD []).length + 1

/-- The nodes that some marks call unvisited. -/
def fresh (marks : List Mark) : Finset Nat :=
  (Finset.range marks.length).filter fun node => markIn marks node = .unvisited

theorem mem_fresh {marks : List Mark} {node : Nat} :
    node ∈ fresh marks ↔ markIn marks node = .unvisited := by
  rw [fresh, Finset.mem_filter, Finset.mem_range]
  exact ⟨fun both => both.2, fun unvisited => ⟨lt_of_unvisited unvisited, unvisited⟩⟩

/-- The steps that are left. -/
def budget (edges : EdgeTable) (search : Search) : Nat :=
  search.work + ∑ node ∈ fresh search.marks, cost edges node

/-- A node that is marked is no longer fresh. -/
theorem fresh_set {marks : List Mark} {node : Nat} {mark : Mark} (visited : mark ≠ .unvisited) :
    fresh (marks.set node mark) = (fresh marks).erase node := by
  ext other
  rw [Finset.mem_erase, mem_fresh, mem_fresh]
  by_cases same : node = other
  · subst same
    refine ⟨fun unvisited => (visited ?_).elim, fun both => (both.1 rfl).elim⟩
    have inside := lt_of_unvisited unvisited
    rw [List.length_set] at inside
    rwa [markIn_set_self inside] at unvisited
  · rw [markIn_set_other same]
    exact ⟨fun unvisited => ⟨Ne.symm same, unvisited⟩, fun both => both.2⟩

/-- A node that is visited was not fresh, so that marking it again uses up nothing. -/
theorem sum_fresh_of_visited {marks : List Mark} {node : Nat} {mark : Mark}
    (visited : mark ≠ .unvisited) (before : markIn marks node ≠ .unvisited) :
    ∑ other ∈ fresh (marks.set node mark), cost edges other
      = ∑ other ∈ fresh marks, cost edges other := by
  rw [fresh_set visited, Finset.erase_eq_of_notMem (mem_fresh.not.mpr before)]

/-- Beginning with a node only moves its steps to the stack. -/
theorem budget_enter {node : Nat} (unvisited : search.mark node = .unvisited) :
    (search.enter edges node).budget edges = search.budget edges := by
  have listed : node ∈ fresh search.marks := mem_fresh.mpr unvisited
  have split := Finset.add_sum_erase (fresh search.marks) (cost edges) listed
  have erased : fresh (search.marks.set node .inProgress) = (fresh search.marks).erase node :=
    fresh_set (by decide)
  unfold budget
  rw [← split, ← erased]
  simp only [Search.enter, work, List.foldr_cons, cost]
  omega

/-- **Every step uses up one of the steps that are left.** -/
theorem budget_step (path : OnPath edges search) (busy : search.stack ≠ []) :
    (search.step edges).budget edges + 1 = search.budget edges := by
  have moved := transition_step edges search busy
  generalize search.step edges = after at moved
  cases moved with
  | leave marks node below found =>
    have open_ : markIn marks node = .inProgress := (path.open_ node).mpr List.mem_cons_self
    have same := @sum_fresh_of_visited edges marks node .done (by decide) (by rw [open_]; decide)
    simp only [budget, work, List.foldr_cons, same, List.length_nil]
    omega
  | enter marks node next rest below found unvisited =>
    have same := @budget_enter edges ⟨marks, ⟨node, rest⟩ :: below, found⟩ next unvisited
    simp only [Search.enter] at same
    rw [same]
    simp only [budget, work, List.foldr_cons, List.length_cons]
    omega
  | close marks node next rest below found _ =>
    obtain ⟨found', same, _⟩ := note_eq ⟨marks, ⟨node, rest⟩ :: below, found⟩
      (fromSmallest (pathFrom (⟨node, rest⟩ :: below) next))
    rw [same]
    simp only [budget, work, List.foldr_cons, List.length_cons]
    omega
  | skip marks node next rest below found _ =>
    simp only [budget, work, List.foldr_cons, List.length_cons]
    omega

/-! ### The whole search -/

/-- A search until nothing is on the stack takes the steps that it uses up. -/
theorem exists_moves_run (search : Search) (invariant : Invariant edges search) :
    ∃ steps, Moves edges steps search (run edges search)
      ∧ steps + (run edges search).budget edges = search.budget edges := by
  induction search using run.induct edges with
  | case1 search idle =>
    rw [run, if_pos idle]
    exact ⟨0, .done search, Nat.zero_add _⟩
  | case2 search busy ih =>
    rw [run, if_neg busy]
    have moved := transition_step edges search busy
    obtain ⟨steps, moves, used⟩ := ih (invariant.step moved)
    refine ⟨steps + 1, .step busy moves, ?_⟩
    rw [← budget_step invariant.path busy, ← used]
    omega

/-- So does a search from some nodes. -/
theorem exists_moves_foldl_visit (roots : List Nat) (search : Search)
    (invariant : Invariant edges search) (idle : search.stack = []) :
    ∃ steps, Moves edges steps search (roots.foldl (visit edges) search)
      ∧ steps + (roots.foldl (visit edges) search).budget edges = search.budget edges := by
  induction roots generalizing search with
  | nil => exact ⟨0, .done search, Nat.zero_add _⟩
  | cons root roots ih =>
    obtain ⟨kept, ended, _⟩ := visit_spec root invariant idle
    obtain ⟨more, later, usedLater⟩ := ih _ kept ended
    have first : ∃ steps, Moves edges steps search (visit edges search root)
        ∧ steps + (visit edges search root).budget edges = search.budget edges := by
      unfold visit
      split
      · rename_i unvisited
        obtain ⟨steps, moves, used⟩ := exists_moves_run _ (invariant.enter idle unvisited)
        exact ⟨steps, .enter root idle unvisited moves, used.trans (budget_enter unvisited)⟩
      · exact ⟨0, .done search, Nat.zero_add _⟩
    obtain ⟨steps, moves, used⟩ := first
    refine ⟨steps + more, moves.append later, ?_⟩
    rw [List.foldl_cons]
    omega

/-- At the beginning every node and every edge is still to come. -/
theorem budget_initial (edges : EdgeTable) :
    (initial edges).budget edges = edges.length + (edges.map List.length).sum := by
  have all : fresh (initial edges).marks = Finset.range edges.length := by
    ext node
    rw [mem_fresh, markIn_initial, Finset.mem_range]
    split <;> simp [*]
  have total : ∀ edges : EdgeTable, ∑ node ∈ Finset.range edges.length, cost edges node
      = edges.length + (edges.map List.length).sum := by
    intro edges
    induction edges with
    | nil => rfl
    | cons first rest ih =>
      have shifted : ∀ node, cost (first :: rest) (node + 1) = cost rest node := fun _ => rfl
      have here : cost (first :: rest) 0 = first.length + 1 := rfl
      rw [List.length_cons, Finset.sum_range_succ', here, List.map_cons, List.sum_cons]
      simp only [shifted]
      omega
  rw [budget, all, total]
  exact Nat.zero_add _

/-- **The search takes one step for every node and one for every edge.** Then nothing is on the
stack, and what it has found is the result. -/
theorem moves_findCycles (edges : EdgeTable) :
    ∃ last, Moves edges (edges.length + (edges.map List.length).sum) (initial edges) last
      ∧ last.stack = [] ∧ last.found = findCycles edges := by
  have start := invariant_initial edges
  obtain ⟨_, idle, visited⟩ := searched edges
  obtain ⟨steps, moves, used⟩ := exists_moves_foldl_visit (List.range edges.length) _ start rfl
  refine ⟨_, ?_, idle, rfl⟩
  generalize (List.range edges.length).foldl (visit edges) (initial edges) = last
    at idle visited moves used
  have nothingFresh : fresh last.marks = ∅ := by
    exact Finset.eq_empty_of_forall_notMem fun node unvisited =>
      visited node (mem_fresh.mp unvisited)
  have nothingLeft : last.budget edges = 0 := by
    rw [budget, nothingFresh, Finset.sum_empty, work, idle, List.foldr_nil, Nat.add_zero]
  rw [nothingLeft, budget_initial] at used
  rwa [← used]

end Search

end PageAttributes.Grammar
