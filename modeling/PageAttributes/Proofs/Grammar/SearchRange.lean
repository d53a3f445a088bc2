/-
**The depth-first search stays inside its tables, and finds on its stack what is in progress.**

* `InRange` — the edges of a graph lead to nodes of it;
* `Search.guardedStep`, `Search.guardedRun`, `guardedFindCycles` — the same search, but it gives up
  as soon as it has to look up a node that a table does not have, or a node in progress that is not on
  the stack;
* `Search.step_of_guardedStep` — if a guarded step does not give up, it is a step of the search;
* `Search.Bounded` — both tables are of the same length, and the stack is a path;
* `Search.guardedStep_eq`, `Search.guardedRun_eq` — from there a search does not give up;
* `guardedFindCycles_eq` — so the whole search does not, if the edges lead to nodes of the graph;
* `Search.mem_nodes_of_moves` — whatever is in progress is on the stack, however far the search is.
-/

import PageAttributes.Proofs.Grammar.Effort

namespace PageAttributes.Grammar

/-- All edges lead to nodes of the graph. -/
def InRange (edges : EdgeTable) : Prop :=
  ∀ source target, Edge edges source target → target < edges.length

namespace Search

/-! ### A search that gives up -/

/-- Where a node is on the stack, counted from the node that was begun first. -/
def position? (stack : List Frame) (node : Nat) : Option Nat :=
  (stack.map Frame.node).reverse.findIdx? fun other => other == node

/-- Begins with a node, which has to be in both tables. -/
def guardedEnter (edges : EdgeTable) (search : Search) (node : Nat) : Option Search := do
  let _ ← search.marks[node]?
  let pending ← edges[node]?
  some { search with
    marks := search.marks.set node .inProgress
    stack := ⟨node, pending⟩ :: search.stack }

/-- One step, for which the nodes have to be in both tables, and a node in progress has to be on the
stack. -/
def guardedStep (edges : EdgeTable) (search : Search) : Option Search :=
  match search.stack with
  | [] => some search
  | ⟨node, []⟩ :: below => do
    let _ ← edges[node]?
    let _ ← search.marks[node]?
    some { search with marks := search.marks.set node .done, stack := below }
  | ⟨node, next :: pending⟩ :: below => do
    let _ ← edges[node]?
    let mark ← search.marks[next]?
    let advanced := { search with stack := ⟨node, pending⟩ :: below }
    match mark with
    | .unvisited => advanced.guardedEnter edges next
    | .inProgress => do
      let start ← position? advanced.stack next
      some (advanced.note (fromSmallest ((advanced.stack.map Frame.node).reverse.drop start)))
    | .done => some advanced

variable {edges : EdgeTable} {search next : Search}

theorem enter_of_guardedEnter {node : Nat} (entered : guardedEnter edges search node = some next) :
    search.enter edges node = next := by
  obtain ⟨_, _, entered⟩ := Option.bind_eq_some_iff.mp entered
  obtain ⟨pending, listed, entered⟩ := Option.bind_eq_some_iff.mp entered
  cases entered
  rw [enter, listed, Option.getD_some]

/-- The path from a node on the stack begins where the node is. -/
theorem pathFrom_of_position? {stack : List Frame} {node start : Nat}
    (found : position? stack node = some start) :
    pathFrom stack node = (stack.map Frame.node).reverse.drop start := by
  have first := (List.findIdx?_eq_some_iff_findIdx_eq.mp found).2
  rw [pathFrom, List.dropWhile_eq_drop_findIdx_not, ← first]
  congr 2
  funext other
  rw [bne, Bool.not_not]

/-- A guarded step is a step, unless it gives up. -/
theorem step_of_guardedStep (moved : guardedStep edges search = some next) :
    search.step edges = next := by
  obtain ⟨marks, stack, found⟩ := search
  match stack with
  | [] => exact Option.some.inj moved
  | ⟨node, []⟩ :: below =>
    obtain ⟨_, _, moved⟩ := Option.bind_eq_some_iff.mp moved
    obtain ⟨_, _, moved⟩ := Option.bind_eq_some_iff.mp moved
    exact Option.some.inj moved
  | ⟨node, other :: pending⟩ :: below =>
    obtain ⟨_, _, moved⟩ := Option.bind_eq_some_iff.mp moved
    obtain ⟨mark, listed, moved⟩ := Option.bind_eq_some_iff.mp moved
    have known : markIn marks other = mark := by rw [markIn, listed, Option.getD_some]
    simp only [step, mark_mk, known]
    cases mark with
    | unvisited => exact enter_of_guardedEnter moved
    | inProgress =>
      obtain ⟨start, there, moved⟩ := Option.bind_eq_some_iff.mp moved
      dsimp only
      rw [pathFrom_of_position? there]
      exact Option.some.inj moved
    | done => exact Option.some.inj moved

/-- A step leaves fewer unvisited nodes, or less work. -/
theorem lex_step (busy : search.stack ≠ []) : Prod.Lex (· < ·) (· < ·)
    ((search.step edges).unvisited, (search.step edges).work) (search.unvisited, search.work) := by
  rcases step_decreases edges search busy with fewer | ⟨atMost, less⟩
  · exact Prod.Lex.left _ _ fewer
  · rcases Nat.lt_or_eq_of_le atMost with fewer | same
    · exact Prod.Lex.left _ _ fewer
    · rw [same]
      exact Prod.Lex.right _ less

/-- Guarded steps until nothing is on the stack. -/
def guardedRun (edges : EdgeTable) (search : Search) : Option Search :=
  if search.stack = [] then some search
  else
    match _ : guardedStep edges search with
    | none => none
    | some next => guardedRun edges next
termination_by (search.unvisited, search.work)
decreasing_by
  rename_i busy moved
  exact step_of_guardedStep moved ▸ lex_step busy

/-- Searches from a node, which has to be in the table. -/
def guardedVisit (edges : EdgeTable) (search : Search) (node : Nat) : Option Search := do
  let mark ← search.marks[node]?
  if mark = .unvisited then
    let entered ← search.guardedEnter edges node
    guardedRun edges entered
  else some search

/-! ### It does not -/

/-- The tables are of the same length, and the search keeps its invariant. -/
structure Bounded (edges : EdgeTable) (search : Search) : Prop where
  marked : search.marks.length = edges.length
  invariant : Invariant edges search

/-- No step changes the length of the table of marks. -/
theorem length_marks {before after : Search} (moved : Transition edges before after) :
    after.marks.length = before.marks.length := by
  cases moved with
  | leave => exact List.length_set
  | enter => exact List.length_set
  | close marks node next rest below found _ =>
    obtain ⟨found', same, _⟩ := note_eq ⟨marks, ⟨node, rest⟩ :: below, found⟩
      (fromSmallest (pathFrom (⟨node, rest⟩ :: below) next))
    rw [same]
  | skip => rfl

theorem Bounded.step {before after : Search} (moved : Transition edges before after)
    (bounded : Bounded edges before) : Bounded edges after :=
  ⟨(length_marks moved).trans bounded.marked, bounded.invariant.step moved⟩

theorem Bounded.enter {node : Nat} (bounded : Bounded edges search) (idle : search.stack = [])
    (fresh : search.mark node = .unvisited) : Bounded edges (search.enter edges node) :=
  ⟨List.length_set.trans bounded.marked, bounded.invariant.enter idle fresh⟩

theorem bounded_initial (edges : EdgeTable) : Bounded edges (initial edges) :=
  ⟨List.length_map _, invariant_initial edges⟩

/-- What is on the stack is a node of the graph. -/
theorem Bounded.lt_of_mem_nodes (bounded : Bounded edges search) {node : Nat}
    (member : node ∈ search.nodes) : node < edges.length := by
  have open_ := (bounded.invariant.path.open_ node).mpr member
  rw [← bounded.marked]
  by_contra outside
  rw [Search.mark, List.getElem?_eq_none (by omega)] at open_
  cases open_

/-- A node on the stack is found there. -/
theorem exists_position? {stack : List Frame} {node : Nat} (member : node ∈ stack.map Frame.node) :
    ∃ start, position? stack node = some start := by
  have there : ((stack.map Frame.node).reverse.any fun other => other == node) = true :=
    List.any_eq_true.mpr ⟨node, List.mem_reverse.mpr member, beq_iff_eq.mpr rfl⟩
  rw [← List.findIdx?_isSome] at there
  exact Option.isSome_iff_exists.mp there

theorem guardedEnter_eq {node : Nat} (marked : search.marks.length = edges.length)
    (inside : node < edges.length) :
    guardedEnter edges search node = some (search.enter edges node) := by
  rw [guardedEnter, enter, List.getElem?_eq_getElem (marked ▸ inside),
    List.getElem?_eq_getElem inside]
  rfl

/-- **No step gives up**, if the edges lead to nodes of the graph. -/
theorem guardedStep_eq (inRange : InRange edges) (bounded : Bounded edges search) :
    guardedStep edges search = some (search.step edges) := by
  obtain ⟨marks, stack, found⟩ := search
  have marked : marks.length = edges.length := bounded.marked
  match stack with
  | [] => rfl
  | ⟨node, []⟩ :: below =>
    have inside : node < edges.length := bounded.lt_of_mem_nodes (.head _)
    simp only [guardedStep, step]
    rw [List.getElem?_eq_getElem inside, List.getElem?_eq_getElem (marked ▸ inside)]
    rfl
  | ⟨node, other :: pending⟩ :: below =>
    have inside : node < edges.length := bounded.lt_of_mem_nodes (.head _)
    have edge : Edge edges node other :=
      bounded.invariant.path.pending ⟨node, other :: pending⟩ (.head _) other (.head _)
    have insideToo : other < edges.length := inRange node other edge
    have listed : marks[other]? = some (markIn marks other) := by
      rw [markIn, List.getElem?_eq_getElem (marked ▸ insideToo), Option.getD_some]
    simp only [guardedStep, step, mark_mk]
    rw [List.getElem?_eq_getElem inside, listed]
    simp only [Option.bind_eq_bind, Option.bind_some]
    cases known : markIn marks other with
    | unvisited => exact guardedEnter_eq marked insideToo
    | inProgress =>
      -- What is in progress is on the stack, and following an edge leaves it there.
      have member : other ∈ (Frame.mk node pending :: below).map Frame.node :=
        (bounded.invariant.path.open_ other).mp known
      obtain ⟨start, there⟩ := exists_position? member
      dsimp only
      rw [there, pathFrom_of_position? there]
      rfl
    | done => rfl

theorem guardedRun_eq (inRange : InRange edges) (bounded : Bounded edges search) :
    guardedRun edges search = some (run edges search) := by
  induction search using run.induct edges with
  | case1 search idle => rw [guardedRun, run, if_pos idle, if_pos idle]
  | case2 search busy ih =>
    have moved := guardedStep_eq inRange bounded
    rw [guardedRun, run, if_neg busy, if_neg busy]
    split
    · rename_i gaveUp
      cases gaveUp.symm.trans moved
    · rename_i next same
      cases same.symm.trans moved
      exact ih (bounded.step (transition_step edges search busy))

/-- A search from one node does not give up, and leaves what the next one needs. -/
theorem guardedVisit_eq (inRange : InRange edges) (bounded : Bounded edges search)
    (idle : search.stack = []) {node : Nat} (inside : node < edges.length) :
    guardedVisit edges search node = some (visit edges search node)
      ∧ Bounded edges (visit edges search node) := by
  have listed : search.marks[node]? = some (search.mark node) := by
    rw [mark, List.getElem?_eq_getElem (bounded.marked ▸ inside), Option.getD_some]
  unfold guardedVisit visit
  rw [listed]
  simp only [Option.bind_eq_bind, Option.bind_some]
  split
  · rename_i fresh
    have entered := bounded.enter idle fresh
    rw [guardedEnter_eq bounded.marked inside, Option.bind_some]
    exact ⟨guardedRun_eq inRange entered, run_induction (fun _ _ => Bounded.step) _ entered⟩
  · exact ⟨rfl, bounded⟩

theorem foldlM_guardedVisit_eq (inRange : InRange edges) (roots : List Nat) :
    ∀ {search}, Bounded edges search → search.stack = [] → (∀ root ∈ roots, root < edges.length) →
      roots.foldlM (guardedVisit edges) search = some (roots.foldl (visit edges) search) := by
  induction roots with
  | nil => exact fun _ _ _ => rfl
  | cons root roots ih =>
    intro search bounded idle inside
    obtain ⟨here, others⟩ := List.forall_mem_cons.mp inside
    obtain ⟨visited, kept⟩ := guardedVisit_eq inRange bounded idle here
    have ended := (visit_spec root bounded.invariant idle).2.1
    rw [List.foldlM_cons, visited, List.foldl_cons]
    exact ih kept ended others

/-! ### Nodes in progress -/

/-- The invariant is kept by any number of steps. -/
theorem Invariant.moves {steps : Nat} {first last : Search} (invariant : Invariant edges first)
    (moves : Moves edges steps first last) : Invariant edges last := by
  induction moves with
  | done => exact invariant
  | step busy _ ih => exact ih (invariant.step (transition_step edges _ busy))
  | enter node idle fresh _ ih => exact ih (invariant.enter idle fresh)

/-- **Whatever is in progress is on the stack**, however far the search is. -/
theorem mem_nodes_of_moves {steps : Nat} (moves : Moves edges steps (initial edges) search)
    {node : Nat} (open_ : search.mark node = .inProgress) : node ∈ search.nodes :=
  (((invariant_initial edges).moves moves).path.open_ node).mp open_

end Search

/-- The cycles of a graph, found by a search that may give up. -/
def guardedFindCycles (edges : EdgeTable) : Option (List (List Nat)) :=
  ((List.range edges.length).foldlM (Search.guardedVisit edges) (Search.initial edges)).map
    Search.found

/-- **The search does not give up**, if the edges lead to nodes of the graph. -/
theorem guardedFindCycles_eq {edges : EdgeTable} (inRange : InRange edges) :
    guardedFindCycles edges = some (findCycles edges) := by
  have inside : ∀ root ∈ List.range edges.length, root < edges.length :=
    fun _ => List.mem_range.mp
  rw [guardedFindCycles, Search.foldlM_guardedVisit_eq inRange _ (Search.bounded_initial edges) rfl
    inside]
  rfl

end PageAttributes.Grammar
