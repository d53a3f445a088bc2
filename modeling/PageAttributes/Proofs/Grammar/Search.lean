/-
**What the depth-first search keeps from step to step.**

* `Search.Transition` — everything that one step of the search can do;
* `Search.OnPath` — the stack is a path through the graph, and it holds the nodes in progress;
* `Spared` — an edge that leads to no node of the cycles found so far;
* `Search.Advances`, `Search.Settled` — every spared edge that was followed leads to a node that is
  done or to the next frame, and no cycle of spared edges leads through a node that is done;
* `acc_findCycles` — in the end there is no cycle of spared edges at all.

A node is done only after all nodes behind its edges are, unless an edge led back to the stack. Then
the node it led to is part of a cycle that is found, and the edge is no longer spared. So the nodes
that are done are well-founded along the spared edges.
-/

import Mathlib.Data.List.Chain
import Mathlib.Logic.Relation
import Mathlib.Tactic.ByContra
import PageAttributes.Grammar.Cycles

namespace PageAttributes.Grammar

/-- There is an edge from one node to another. -/
def Edge (edges : EdgeTable) (source target : Nat) : Prop := target ∈ (edges[source]?).getD []

/-- An edge that leads to no node of the cycles that were found. -/
def Spared (edges : EdgeTable) (found : List (List Nat)) (source target : Nat) : Prop :=
  Edge edges source target ∧ ∀ cycle ∈ found, target ∉ cycle

/-- Fewer edges are spared when more cycles are found. -/
theorem Spared.of_subset {edges : EdgeTable} {found more : List (List Nat)} 
    (extended : found ⊆ more) {source target : Nat} (spared : Spared edges more source target) :
    Spared edges found source target :=
  ⟨spared.1, fun cycle member => spared.2 cycle (extended member)⟩

/-- The spared edges backwards. -/
def Behind (edges : EdgeTable) (found : List (List Nat)) (target source : Nat) : Prop :=
  Spared edges found source target

/-- No cycle of spared edges leads through a node behind which everything is well-founded. -/
theorem not_cyclic_of_acc {edges : EdgeTable} {found : List (List Nat)} {node : Nat}
    (founded : Acc (Behind edges found) node) :
    ¬ Relation.TransGen (Spared edges found) node node := by
  induction founded with
  | intro node _ ih =>
    intro cycle
    obtain ⟨next, first, rest⟩ := Relation.TransGen.head'_iff.mp cycle
    exact ih next first (Relation.TransGen.tail' rest first)

namespace Search

variable {edges : EdgeTable} {search : Search}

/-! ### Marks -/

/-- What some marks say about a node. -/
def markIn (marks : List Mark) (node : Nat) : Mark := (marks[node]?).getD .done

theorem mark_mk (marks : List Mark) (stack : List Frame) (found : List (List Nat)) (node : Nat) :
    mark ⟨marks, stack, found⟩ node = markIn marks node := rfl

/-- A node that counts as unvisited is in the table. -/
theorem lt_of_unvisited {marks : List Mark} {node : Nat}
    (fresh : markIn marks node = .unvisited) : node < marks.length := by
  by_contra outside
  rw [markIn, List.getElem?_eq_none (by omega)] at fresh
  cases fresh

/-- A mark is seen at its own node. -/
theorem markIn_set_self {marks : List Mark} {node : Nat} (inside : node < marks.length)
    (mark : Mark) : markIn (marks.set node mark) node = mark := by
  rw [markIn, List.getElem?_set_self inside, Option.getD_some]

/-- A mark is not seen at other nodes. -/
theorem markIn_set_other {marks : List Mark} {node other : Nat} (different : node ≠ other)
    (mark : Mark) :
    markIn (marks.set node mark) other = markIn marks other := by
  rw [markIn, markIn, List.getElem?_set_ne different]

/-- A node that is marked as done is done, in the table or not. -/
theorem markIn_set_done (marks : List Mark) (node : Nat) :
    markIn (marks.set node .done) node = .done := by
  by_cases inside : node < marks.length
  · exact markIn_set_self inside .done
  · rw [markIn, List.getElem?_eq_none (by rw [List.length_set]; omega), Option.getD_none]

/-- A mark other than `unvisited` leaves visited nodes visited. -/
theorem markIn_set_visited {marks : List Mark} {node other : Nat} {mark : Mark}
    (visited : mark ≠ .unvisited) (before : markIn marks other ≠ .unvisited) :
    markIn (marks.set node mark) other ≠ .unvisited := by
  by_cases same : node = other
  · subst same
    by_cases inside : node < marks.length
    · rwa [markIn_set_self inside]
    · rw [markIn, List.getElem?_eq_none (by rw [List.length_set]; omega), Option.getD_none]
      decide
  · rwa [markIn_set_other same]

/-- Exactly those nodes are done that were done before, or are marked so. -/
theorem markIn_set_done_eq_done_iff {marks : List Mark} {node other : Nat} :
    markIn (marks.set node .done) other = .done ↔ other = node ∨ markIn marks other = .done := by
  by_cases same : node = other
  · subst same
    exact ⟨fun _ => Or.inl rfl, fun _ => markIn_set_done marks node⟩
  · rw [markIn_set_other same]
    exact ⟨Or.inr, fun either => either.resolve_left (Ne.symm same)⟩

/-- No node is done or stops being so because an unvisited one is begun. -/
theorem markIn_set_inProgress_eq_done_iff {marks : List Mark} {node other : Nat}
    (fresh : markIn marks node = .unvisited) :
    markIn (marks.set node .inProgress) other = .done ↔ markIn marks other = .done := by
  by_cases same : node = other
  · subst same
    rw [markIn_set_self (lt_of_unvisited fresh), fresh]
    exact ⟨nofun, nofun⟩
  · rw [markIn_set_other same]

/-! ### Steps -/

/-- Everything that one step can do: end with the last node, begin with the next one, note that an
edge closes a cycle, or pass over an edge to a node that is done. -/
inductive Transition (edges : EdgeTable) : Search → Search → Prop
  | leave (marks : List Mark) (node : Nat) (below : List Frame) (found : List (List Nat)) :
    Transition edges ⟨marks, ⟨node, []⟩ :: below, found⟩ ⟨marks.set node .done, below, found⟩
  | enter (marks : List Mark) (node next : Nat) (pending : List Nat) (below : List Frame)
      (found : List (List Nat)) (fresh : markIn marks next = .unvisited) :
    Transition edges ⟨marks, ⟨node, next :: pending⟩ :: below, found⟩
      ⟨marks.set next .inProgress,
        ⟨next, (edges[next]?).getD []⟩ :: ⟨node, pending⟩ :: below, found⟩
  | close (marks : List Mark) (node next : Nat) (pending : List Nat) (below : List Frame)
      (found : List (List Nat)) (open_ : markIn marks next = .inProgress) :
    Transition edges ⟨marks, ⟨node, next :: pending⟩ :: below, found⟩
      (note ⟨marks, ⟨node, pending⟩ :: below, found⟩
        (fromSmallest (pathFrom (⟨node, pending⟩ :: below) next)))
  | skip (marks : List Mark) (node next : Nat) (pending : List Nat) (below : List Frame)
      (found : List (List Nat)) (settled : markIn marks next = .done) :
    Transition edges ⟨marks, ⟨node, next :: pending⟩ :: below, found⟩
      ⟨marks, ⟨node, pending⟩ :: below, found⟩

/-- A step is one of the transitions. -/
theorem transition_step (edges : EdgeTable) (search : Search) (busy : search.stack ≠ []) :
    Transition edges search (search.step edges) := by
  obtain ⟨marks, stack, found⟩ := search
  match stack, busy with
  | ⟨node, []⟩ :: below, _ => exact .leave marks node below found
  | ⟨node, next :: pending⟩ :: below, _ =>
    simp only [step, mark_mk]
    split
    · rename_i fresh
      exact .enter marks node next pending below found fresh
    · rename_i open_
      exact .close marks node next pending below found open_
    · rename_i settled
      exact .skip marks node next pending below found settled

/-- Whatever all transitions keep is kept until nothing is on the stack. -/
theorem run_induction {kept : Search → Prop}
    (step : ∀ before after, Transition edges before after → kept before → kept after)
    (search : Search) (start : kept search) : kept (run edges search) := by
  induction search using run.induct edges with
  | case1 search idle =>
    rw [run, if_pos idle]
    exact start
  | case2 search busy ih =>
    rw [run, if_neg busy]
    exact ih (step _ _ (transition_step edges search busy) start)

/-- A run ends with nothing on the stack. -/
theorem stack_run (edges : EdgeTable) (search : Search) : (run edges search).stack = [] := by
  induction search using run.induct edges with
  | case1 search idle =>
    rw [run, if_pos idle]
    exact idle
  | case2 search busy ih =>
    rw [run, if_neg busy]
    exact ih

/-- Noting a cycle changes only what was found, which is then what was found before and the
cycle. -/
theorem note_eq (search : Search) (cycle : List Nat) :
    ∃ found, note search cycle = { search with found := found } ∧
      (∀ other, other ∈ found ↔ other ∈ search.found ∨ other = cycle) ∧
      (search.found.Nodup → found.Nodup) := by
  unfold note
  split
  · rename_i known
    refine ⟨search.found, rfl, fun other => ⟨Or.inl, ?_⟩, id⟩
    rintro (member | rfl)
    · exact member
    · exact List.contains_iff_mem.mp known
  · rename_i unknown
    refine ⟨search.found ++ [cycle], rfl, by simp, fun once => ?_⟩
    refine List.nodup_append.mpr ⟨once, List.pairwise_singleton _ cycle, ?_⟩
    rintro other member _ same rfl
    rw [List.mem_singleton.mp same] at member
    exact unknown (List.contains_iff_mem.mpr member)

/-! ### The cycle that an edge back to the stack closes -/

/-- The path back to a node on the stack begins with it. -/
theorem exists_pathFrom {node : Nat} {stack : List Frame} (member : node ∈ stack.map Frame.node) :
    ∃ before rest, (stack.map Frame.node).reverse = before ++ node :: rest
      ∧ pathFrom stack node = node :: rest := by
  rw [← List.mem_reverse] at member
  obtain ⟨before, rest, same, fresh⟩ := List.eq_append_cons_of_mem member
  have others : ∀ other ∈ before, (other != node) = true := by
    intro other among
    rw [bne_iff_ne]
    rintro rfl
    exact fresh among
  refine ⟨before, rest, same, ?_⟩
  rw [pathFrom, same, List.dropWhile_append_of_pos others, List.dropWhile_cons_of_neg (by simp)]

/-- A cycle from its smallest member on is turned until that stands first. -/
theorem exists_fromSmallest {cycle : List Nat} (nonempty : cycle ≠ []) :
    ∃ front smallest back, cycle = front ++ smallest :: back
      ∧ fromSmallest cycle = smallest :: (back ++ front) ∧ ∀ node ∈ cycle, smallest ≤ node := by
  unfold fromSmallest
  cases least : cycle.min? with
  | none => exact (nonempty (List.min?_eq_none_iff.mp least)).elim
  | some smallest =>
    obtain ⟨member, below⟩ := List.min?_eq_some_iff.mp least
    obtain ⟨front, back, rfl, fresh⟩ := List.eq_append_cons_of_mem member
    refine ⟨front, smallest, back, rfl, ?_, below⟩
    have position : (front ++ smallest :: back).idxOf smallest = front.length := by
      rw [List.idxOf_append_of_notMem fresh, List.idxOf_cons_self, Nat.add_zero]
    unfold List.rotateLeft
    dsimp only
    rw [position]
    split
    · -- A list of one node is not turned at all.
      rename_i short
      obtain ⟨rfl, rfl⟩ : front = [] ∧ back = [] := by
        rw [List.length_append, List.length_cons] at short
        exact ⟨List.length_eq_zero_iff.mp (by omega), List.length_eq_zero_iff.mp (by omega)⟩
      rfl
    · rw [Nat.mod_eq_of_lt (by rw [List.length_append, List.length_cons]; omega),
        List.drop_left, List.take_left, List.cons_append]

/-- The cycle that is noted has the members of the path. -/
theorem perm_fromSmallest (cycle : List Nat) : (fromSmallest cycle).Perm cycle := by
  by_cases nonempty : cycle = []
  · subst nonempty
    exact .refl []
  · obtain ⟨front, smallest, back, split, turned, _⟩ := exists_fromSmallest nonempty
    rw [turned, split, ← List.cons_append]
    exact List.perm_append_comm

/-! ### The stack is a path -/

/-- The nodes on the stack, the last one first. -/
def nodes (search : Search) : List Nat := search.stack.map Frame.node

/-- The stack is a path through the graph that visits no node twice, and it holds exactly the nodes
in progress. -/
structure OnPath (edges : EdgeTable) (search : Search) : Prop where
  chain : search.nodes.IsChain fun later earlier => Edge edges earlier later
  distinct : search.nodes.Nodup
  open_ : ∀ node, search.mark node = .inProgress ↔ node ∈ search.nodes
  pending : ∀ frame ∈ search.stack, ∀ next ∈ frame.pending, Edge edges frame.node next

/-- What frames still have to follow are edges also after the first of them was followed. -/
theorem pending_tail {node next : Nat} {rest : List Nat} {below : List Frame}
    (pending : ∀ frame ∈ Frame.mk node (next :: rest) :: below, ∀ other ∈ frame.pending,
      Edge edges frame.node other) :
    ∀ frame ∈ Frame.mk node rest :: below, ∀ other ∈ frame.pending,
      Edge edges frame.node other := by
  obtain ⟨here, there⟩ := List.forall_mem_cons.mp pending
  exact List.forall_mem_cons.mpr ⟨fun other later => here other (.tail _ later), there⟩

/-- Every step keeps the stack a path. -/
theorem OnPath.step {before after : Search} (moved : Transition edges before after)
    (path : OnPath edges before) : OnPath edges after := by
  obtain ⟨chain, distinct, open_, pending⟩ := path
  cases moved with
  | leave marks node below found =>
    simp only [nodes, List.map_cons, mark_mk] at chain distinct open_
    obtain ⟨outside, distinct⟩ := List.nodup_cons.mp distinct
    refine ⟨chain.tail, distinct, fun other => ?_,
      fun frame member => pending frame (.tail _ member)⟩
    simp only [nodes, mark_mk]
    by_cases same : node = other
    · subst same
      rw [markIn_set_done]
      exact ⟨nofun, fun member => (outside member).elim⟩
    · rw [markIn_set_other same, open_ other, List.mem_cons]
      exact ⟨fun either => either.resolve_left (Ne.symm same), Or.inr⟩
  | enter marks node next rest below found fresh =>
    simp only [nodes, List.map_cons, mark_mk] at chain distinct open_
    have edge : Edge edges node next := pending ⟨node, next :: rest⟩ (.head _) next (.head _)
    have outside : next ∉ node :: below.map Frame.node := fun member => by
      rw [← open_ next, fresh] at member
      cases member
    refine ⟨List.IsChain.cons_cons edge chain, List.nodup_cons.mpr ⟨outside, distinct⟩,
      fun other => ?_, List.forall_mem_cons.mpr ⟨fun _ member => member, pending_tail pending⟩⟩
    simp only [nodes, List.map_cons, mark_mk]
    rw [List.mem_cons]
    by_cases same : next = other
    · subst same
      rw [markIn_set_self (lt_of_unvisited fresh)]
      exact ⟨fun _ => Or.inl rfl, fun _ => rfl⟩
    · rw [markIn_set_other same, open_ other]
      exact ⟨Or.inr, fun either => either.resolve_left (Ne.symm same)⟩
  | close marks node next rest below found _ =>
    obtain ⟨found', same, _⟩ := note_eq ⟨marks, ⟨node, rest⟩ :: below, found⟩
      (fromSmallest (pathFrom (⟨node, rest⟩ :: below) next))
    rw [same]
    exact ⟨chain, distinct, open_, pending_tail pending⟩
  | skip => exact ⟨chain, distinct, open_, pending_tail pending⟩

/-! ### Nodes that are done -/

/-- The spared edges of every frame are still to follow, lead to nodes that are done, or lead to the
node above the frame. -/
def Advances (edges : EdgeTable) (found : List (List Nat)) (marks : List Mark) :
    Option Nat → List Frame → Prop
  | _, [] => True
  | above, frame :: below =>
    (∀ next, Spared edges found frame.node next →
      next ∈ frame.pending ∨ markIn marks next = .done ∨ above = some next) ∧
    Advances edges found marks (some frame.node) below

/-- Everything behind the nodes that are done is well-founded. -/
def Settled (edges : EdgeTable) (found : List (List Nat)) (marks : List Mark) : Prop :=
  ∀ node, markIn marks node = .done → Acc (Behind edges found) node

/-- Frames keep advancing when more nodes are done, also if the node above is. -/
theorem Advances.mono {found : List (List Nat)} {before after : List Mark}
    {above above' : Option Nat} {frames : List Frame}
    (more : ∀ node, markIn before node = .done → markIn after node = .done)
    (ended : ∀ node, above = some node →
      markIn after node = .done ∨ above' = some node)
    (advances : Advances edges found before above frames) :
    Advances edges found after above' frames := by
  induction frames generalizing above above' with
  | nil => trivial
  | cons frame below ih =>
    refine ⟨fun next edge => ?_, ih (fun node same => Or.inr same) advances.2⟩
    rcases advances.1 next edge with later | settled | same
    · exact Or.inl later
    · exact Or.inr (Or.inl (more next settled))
    · exact Or.inr (ended next same)

/-- Frames keep advancing when more cycles are found. -/
theorem Advances.of_subset {found more : List (List Nat)} (extended : found ⊆ more)
    {marks : List Mark} {above : Option Nat} {frames : List Frame}
    (advances : Advances edges found marks above frames) :
    Advances edges more marks above frames := by
  induction frames generalizing above with
  | nil => trivial
  | cons frame below ih =>
    exact ⟨fun next spared => advances.1 next (spared.of_subset extended), ih advances.2⟩

/-- The frames advance and what is done is settled. -/
structure Quiet (edges : EdgeTable) (search : Search) : Prop where
  advances : Advances edges search.found search.marks none search.stack
  settled : Settled edges search.found search.marks

/-- **Every step keeps the search quiet.** When a node is done, all nodes behind its spared edges
are. -/
theorem Quiet.step {before after : Search} (moved : Transition edges before after)
    (path : OnPath edges before) (quiet : Quiet edges before) : Quiet edges after := by
  cases moved with
  | leave marks node below found =>
    obtain ⟨⟨edgesDone, advances⟩, settled⟩ := quiet
    refine ⟨advances.mono (fun other isDone => markIn_set_done_eq_done_iff.mpr (Or.inr isDone))
      fun other same => ?_, fun other isDone => ?_⟩
    · cases same
      exact Or.inl (markIn_set_done marks node)
    · rcases markIn_set_done_eq_done_iff.mp isDone with rfl | isDone
      · refine ⟨other, fun next edge => settled next ?_⟩
        rcases edgesDone next edge with later | isDone | same
        · cases later
        · exact isDone
        · cases same
      · exact settled other isDone
  | enter marks node next rest below found fresh =>
    obtain ⟨⟨followed, advances⟩, settled⟩ := quiet
    have same : ∀ other, markIn (marks.set next .inProgress) other = .done ↔
        markIn marks other = .done := fun _ => markIn_set_inProgress_eq_done_iff fresh
    refine ⟨⟨fun other edge => Or.inl edge.1, fun other edge => ?_,
      advances.mono (fun other => (same other).mpr) fun other same => Or.inr same⟩,
      fun other isDone => settled other ((same other).mp isDone)⟩
    rcases followed other edge with later | isDone | impossible
    · rcases List.mem_cons.mp later with rfl | later
      · exact Or.inr (Or.inr rfl)
      · exact Or.inl later
    · exact Or.inr (Or.inl ((same other).mpr isDone))
    · cases impossible
  | close marks node next rest below found open_ =>
    obtain ⟨⟨followed, advances⟩, settled⟩ := quiet
    obtain ⟨found', same, known, _⟩ := note_eq ⟨marks, ⟨node, rest⟩ :: below, found⟩
      (fromSmallest (pathFrom (⟨node, rest⟩ :: below) next))
    have extended : found ⊆ found' := fun cycle member => (known cycle).mpr (Or.inl member)
    rw [same]
    refine ⟨⟨fun other spared => ?_, advances.of_subset extended⟩, fun other isDone => ?_⟩
    · rcases followed other (spared.of_subset extended) with later | isDone | impossible
      · rcases List.mem_cons.mp later with rfl | later
        · -- The edge just followed leads to the first node of the cycle that it closes.
          have member : other ∈ node :: below.map Frame.node := (path.open_ other).mp open_
          obtain ⟨_, behind, _, back⟩ :=
            @exists_pathFrom other (⟨node, rest⟩ :: below) member
          refine (spared.2 _ ((known _).mpr (Or.inr rfl)) ?_).elim
          rw [(perm_fromSmallest _).mem_iff, back]
          exact List.mem_cons_self
        · exact Or.inl later
      · exact Or.inr (Or.inl isDone)
      · cases impossible
    · exact Subrelation.accessible (Spared.of_subset extended) (settled other isDone)
  | skip marks node next rest below found isDone =>
    obtain ⟨⟨followed, advances⟩, settled⟩ := quiet
    refine ⟨⟨fun other edge => ?_, advances⟩, settled⟩
    rcases followed other edge with later | before | impossible
    · rcases List.mem_cons.mp later with rfl | later
      · exact Or.inr (Or.inl isDone)
      · exact Or.inl later
    · exact Or.inr (Or.inl before)
    · cases impossible

/-! ### The whole search -/

/-- What every part of the search keeps. -/
structure Invariant (edges : EdgeTable) (search : Search) : Prop where
  path : OnPath edges search
  quiet : Quiet edges search

theorem Invariant.step {before after : Search} (moved : Transition edges before after)
    (invariant : Invariant edges before) : Invariant edges after :=
  ⟨invariant.path.step moved, invariant.quiet.step moved invariant.path⟩

/-- A node that has been visited stays so. -/
theorem visited_step {node : Nat} {before after : Search} (moved : Transition edges before after)
    (visited : before.mark node ≠ .unvisited) : after.mark node ≠ .unvisited := by
  cases moved with
  | leave => exact markIn_set_visited (by decide) visited
  | enter => exact markIn_set_visited (by decide) visited
  | skip => exact visited
  | close marks current next rest below found _ =>
    obtain ⟨found', same, _⟩ := note_eq ⟨marks, ⟨current, rest⟩ :: below, found⟩
      (fromSmallest (pathFrom (⟨current, rest⟩ :: below) next))
    rw [same]
    exact visited

/-- Beginning with a node that has not been visited keeps the invariant. -/
theorem Invariant.enter {node : Nat} (invariant : Invariant edges search)
    (idle : search.stack = []) (fresh : search.mark node = .unvisited) :
    Invariant edges (search.enter edges node) := by
  obtain ⟨marks, stack, found⟩ := search
  obtain rfl : stack = [] := idle
  have inside := lt_of_unvisited fresh
  obtain ⟨⟨_, _, open_, _⟩, _, settled⟩ := invariant
  refine ⟨⟨List.isChain_singleton _, List.pairwise_singleton _ _, fun other => ?_,
      fun frame member => ?_⟩,
    ⟨⟨fun next edge => Or.inl edge.1, trivial⟩, fun other isDone => ?_⟩⟩
  · simp only [Search.enter, nodes, List.map_cons, List.map_nil, List.mem_singleton, mark_mk]
    by_cases same : node = other
    · subst same
      rw [markIn_set_self inside]
      exact ⟨fun _ => rfl, fun _ => rfl⟩
    · rw [markIn_set_other same]
      exact ⟨fun open_' => (List.not_mem_nil ((open_ other).mp open_')).elim,
        fun impossible => (same impossible.symm).elim⟩
  · rw [List.mem_singleton.mp member]
    exact fun next member => member
  · by_cases same : node = other
    · subst same
      cases (markIn_set_self inside _).symm.trans isDone
    · exact settled other ((markIn_set_other same _).symm.trans isDone)

/-- A search from one node keeps the invariant, ends with nothing on the stack, has visited the
node, and forgets no node that was visited. -/
theorem visit_spec (node : Nat) (invariant : Invariant edges search) (idle : search.stack = []) :
    Invariant edges (visit edges search node) ∧ (visit edges search node).stack = [] ∧
      (visit edges search node).mark node ≠ .unvisited ∧
      ∀ other, search.mark other ≠ .unvisited →
        (visit edges search node).mark other ≠ .unvisited := by
  unfold visit
  split
  · rename_i fresh
    have keeps : ∀ other, (search.enter edges node).mark other ≠ .unvisited →
        (run edges (search.enter edges node)).mark other ≠ .unvisited := fun other =>
      run_induction (fun _ _ => visited_step) _
    refine ⟨run_induction (fun _ _ => Invariant.step) _ (invariant.enter idle fresh),
      stack_run edges _, keeps node ?_, fun other visited => keeps other ?_⟩
    · have entered : (search.enter edges node).mark node = .inProgress :=
        markIn_set_self (lt_of_unvisited fresh) _
      rw [entered]
      decide
    · exact markIn_set_visited (by decide) visited
  · rename_i visited
    exact ⟨invariant, idle, visited, fun _ => id⟩

/-- Searching from several nodes keeps the invariant and visits all of them. -/
theorem foldl_visit_spec (roots : List Nat) (search : Search) (invariant : Invariant edges search)
    (idle : search.stack = []) :
    Invariant edges (roots.foldl (visit edges) search) ∧
      (roots.foldl (visit edges) search).stack = [] ∧
      ∀ node, node ∈ roots ∨ search.mark node ≠ .unvisited →
        (roots.foldl (visit edges) search).mark node ≠ .unvisited := by
  induction roots generalizing search with
  | nil => exact ⟨invariant, idle, fun node either => either.resolve_left List.not_mem_nil⟩
  | cons root roots ih =>
    obtain ⟨kept, ended, visited, keeps⟩ := visit_spec root invariant idle
    obtain ⟨invariant, idle, all⟩ := ih _ kept ended
    refine ⟨invariant, idle, fun node either => all node ?_⟩
    rcases either with member | before
    · rcases List.mem_cons.mp member with rfl | member
      · exact Or.inr visited
      · exact Or.inl member
    · exact Or.inr (keeps node before)

/-- The search before its first step. -/
def initial (edges : EdgeTable) : Search := ⟨edges.map fun _ => .unvisited, [], []⟩

/-- At the beginning only numbers that are no nodes count as done. -/
theorem markIn_initial (edges : EdgeTable) (node : Nat) :
    markIn (initial edges).marks node = if node < edges.length then .unvisited else .done := by
  rw [initial, markIn, List.getElem?_map]
  split
  · rename_i inside
    rw [List.getElem?_eq_getElem inside]
    rfl
  · rename_i outside
    rw [List.getElem?_eq_none (by omega)]
    rfl

theorem invariant_initial (edges : EdgeTable) : Invariant edges (initial edges) := by
  refine ⟨⟨List.isChain_nil, List.nodup_nil, fun node => ?_, fun frame member => by cases member⟩,
    ⟨trivial, fun node isDone => ⟨node, fun next spared => ?_⟩⟩⟩
  · show markIn (initial edges).marks node = _ ↔ _
    rw [markIn_initial]
    refine ⟨fun impossible => ?_, fun impossible => by cases impossible⟩
    split at impossible <;> cases impossible
  · rw [markIn_initial] at isDone
    split at isDone
    · cases isDone
    · rename_i outside
      have edge : Edge edges node next := spared.1
      unfold Edge at edge
      rw [List.getElem?_eq_none (by omega)] at edge
      cases edge

/-- The whole search keeps the invariant, ends with nothing on the stack and visits every node. -/
theorem searched (edges : EdgeTable) :
    Invariant edges ((List.range edges.length).foldl (visit edges) (initial edges)) ∧
      ((List.range edges.length).foldl (visit edges) (initial edges)).stack = [] ∧
      ∀ node, ((List.range edges.length).foldl (visit edges) (initial edges)).mark node
        ≠ .unvisited := by
  obtain ⟨invariant, idle, visited⟩ :=
    foldl_visit_spec (List.range edges.length) _ (invariant_initial edges) rfl
  refine ⟨invariant, idle, fun node => visited node ?_⟩
  by_cases inside : node < edges.length
  · exact Or.inl (List.mem_range.mpr inside)
  · refine Or.inr ?_
    rw [show (initial edges).mark node = _ from markIn_initial edges node, if_neg inside]
    decide

end Search

/-- **No cycle of spared edges is left.** In the end every node is done. -/
theorem acc_findCycles (edges : EdgeTable) (node : Nat) :
    Acc (Behind edges (findCycles edges)) node := by
  obtain ⟨invariant, idle, visited⟩ := Search.searched edges
  refine invariant.quiet.settled node ?_
  have open_ := invariant.path.open_ node
  rw [Search.nodes, idle] at open_
  cases known : Search.mark ((List.range edges.length).foldl (Search.visit edges)
      (Search.initial edges)) node with
  | unvisited => exact (visited node known).elim
  | inProgress => exact (List.not_mem_nil (open_.mp known)).elim
  | done => exact known

end PageAttributes.Grammar
