/-
**Cycles in a graph.**

The nodes of a graph are numbers, and a table lists the edges of every node. A depth-first search
keeps the nodes in progress on a stack; an edge back to one of them closes a cycle.

* `findCycles` — the cycles found, each from its smallest member on, none twice;
* `Search.step` — one step of the search.

A node is marked as in progress exactly while it is on the stack. Every step either marks a new node
or uses up work on the stack, so the search ends.
-/

namespace PageAttributes.Grammar

/-- The edges of every node. -/
abbrev EdgeTable := List (List Nat)

/-- What the search knows about a node. -/
inductive Mark where
  | unvisited
  | inProgress
  | done
deriving DecidableEq, Repr

/-- A node in progress, with the edges still to follow. -/
structure Frame where
  node : Nat
  pending : List Nat
deriving DecidableEq, Repr

/-- The state of the search: the last node begun is first on the stack. -/
structure Search where
  marks : List Mark
  stack : List Frame
  found : List (List Nat)
deriving DecidableEq, Repr

namespace Search

/-- What is known about a node; a number that is no node counts as done. -/
def mark (search : Search) (node : Nat) : Mark := (search.marks[node]?).getD .done

/-- How many nodes have not been visited. -/
def unvisited (search : Search) : Nat := search.marks.countP fun mark => mark == .unvisited

/-- How much work is on the stack. -/
def work (search : Search) : Nat :=
  search.stack.foldr (fun frame total => frame.pending.length + 1 + total) 0

/-- The nodes on the stack from a node on, in the order in which they were begun. -/
def pathFrom (stack : List Frame) (node : Nat) : List Nat :=
  (stack.map Frame.node).reverse.dropWhile fun other => other != node

/-- A cycle from its smallest member on. -/
def fromSmallest (cycle : List Nat) : List Nat :=
  match cycle.min? with
  | some smallest => cycle.rotateLeft (cycle.idxOf smallest)
  | none => cycle

/-- Notes a cycle unless it is known. -/
def note (search : Search) (cycle : List Nat) : Search :=
  if search.found.contains cycle then search
  else { search with found := search.found ++ [cycle] }

/-- Begins with a node. -/
def enter (edges : EdgeTable) (search : Search) (node : Nat) : Search :=
  { search with
    marks := search.marks.set node .inProgress
    stack := ⟨node, (edges[node]?).getD []⟩ :: search.stack }

/-- One step: follows the next edge of the last node, or ends with the node. -/
def step (edges : EdgeTable) (search : Search) : Search :=
  match search.stack with
  | [] => search
  | ⟨node, []⟩ :: below =>
    { search with marks := search.marks.set node .done, stack := below }
  | ⟨node, next :: pending⟩ :: below =>
    let advanced := { search with stack := ⟨node, pending⟩ :: below }
    match advanced.mark next with
    | .unvisited => advanced.enter edges next
    | .inProgress => advanced.note (fromSmallest (pathFrom advanced.stack next))
    | .done => advanced

/-- Marking a node as anything but unvisited leaves no more unvisited nodes than before. -/
theorem countP_set_le (marks : List Mark) (node : Nat) (mark : Mark)
    (visited : mark ≠ .unvisited) :
    (marks.set node mark).countP (fun mark => mark == .unvisited)
      ≤ marks.countP fun mark => mark == .unvisited := by
  induction marks generalizing node with
  | nil => simp
  | cons first rest ih =>
    cases node with
    | zero => simp [List.countP_cons, visited]
    | succ node =>
      simp only [List.set_cons_succ, List.countP_cons]
      exact Nat.add_le_add_right (ih node) _

/-- Marking an unvisited node leaves one unvisited node less. -/
theorem countP_set_lt (marks : List Mark) (node : Nat) (mark : Mark)
    (visited : mark ≠ .unvisited) (before : marks[node]? = some .unvisited) :
    (marks.set node mark).countP (fun mark => mark == .unvisited)
      < marks.countP fun mark => mark == .unvisited := by
  induction marks generalizing node with
  | nil => simp at before
  | cons first rest ih =>
    cases node with
    | zero =>
      simp only [List.getElem?_cons_zero, Option.some.injEq] at before
      simp [visited, before]
    | succ node =>
      simp only [List.getElem?_cons_succ] at before
      simp only [List.set_cons_succ, List.countP_cons]
      exact Nat.add_lt_add_right (ih node before) _

/-- Noting a cycle changes neither the marks nor the stack. -/
theorem note_same (search : Search) (cycle : List Nat) :
    (search.note cycle).unvisited = search.unvisited ∧ (search.note cycle).work = search.work := by
  unfold note
  split <;> exact ⟨rfl, rfl⟩

/-- Every step leaves fewer unvisited nodes, or as many at most and less work. -/
theorem step_decreases (edges : EdgeTable) (search : Search) (busy : search.stack ≠ []) :
    (search.step edges).unvisited < search.unvisited ∨
      ((search.step edges).unvisited ≤ search.unvisited
        ∧ (search.step edges).work < search.work) := by
  obtain ⟨marks, stack, found⟩ := search
  match stack, busy with
  | ⟨node, []⟩ :: below, _ =>
    refine Or.inr ⟨countP_set_le marks node .done (by decide), ?_⟩
    simp [step, work]
  | ⟨node, next :: pending⟩ :: below, _ =>
    simp only [step]
    split
    · rename_i fresh
      refine Or.inl (countP_set_lt marks next .inProgress (by decide) ?_)
      simp only [mark] at fresh
      cases known : marks[next]? with
      | none => simp [known] at fresh
      | some mark => simpa [known] using fresh
    · obtain ⟨sameMarks, sameWork⟩ :=
        note_same ⟨marks, ⟨node, pending⟩ :: below, found⟩
          (fromSmallest (pathFrom (⟨node, pending⟩ :: below) next))
      refine Or.inr ⟨Nat.le_of_eq sameMarks, ?_⟩
      rw [sameWork]
      simp [work]
    · exact Or.inr ⟨Nat.le_refl _, by simp [work]⟩

/-- Steps until nothing is on the stack. -/
def run (edges : EdgeTable) (search : Search) : Search :=
  if search.stack = [] then search else run edges (search.step edges)
termination_by (search.unvisited, search.work)
decreasing_by
  rename_i busy
  rcases step_decreases edges search busy with fewer | ⟨atMost, less⟩
  · exact Prod.Lex.left _ _ fewer
  · rcases Nat.lt_or_eq_of_le atMost with fewer | same
    · exact Prod.Lex.left _ _ fewer
    · rw [same]
      exact Prod.Lex.right _ less

/-- Searches from a node, unless it has been visited. -/
def visit (edges : EdgeTable) (search : Search) (node : Nat) : Search :=
  if search.mark node = .unvisited then run edges (search.enter edges node) else search

end Search

/-- The cycles of a graph, from every node that has not been visited before. -/
def findCycles (edges : EdgeTable) : List (List Nat) :=
  ((List.range edges.length).foldl (Search.visit edges)
    ⟨edges.map fun _ => .unvisited, [], []⟩).found

end PageAttributes.Grammar
