/-
**What the depth-first search finds are cycles, and no cycle stays away from all of them.**

* `IsCycle` — every node has an edge to the next one, and the last to the first;
* `IsCycle.rotate`, `IsCycle.reaches` — a cycle may begin with any of its nodes, and each of them
  reaches all others;
* `IsLeading` — a cycle that visits no node twice and begins with its smallest one;
* `Search.isLeading_fromSmallest` — an edge back to the stack closes the path on it;
* `Search.Sound` — all cycles that were found are such, and none was found twice;
* `exists_found_of_cyclic` — every walk back to where it began meets a cycle that is found;
* `findCycles_eq_nil_iff` — nothing is found exactly if no node can be reached from itself.
-/

import Mathlib.Data.List.Nodup
import PageAttributes.Proofs.Grammar.Search

namespace PageAttributes.Grammar

variable {edges : EdgeTable}

/-- Every node has an edge to the next one, and the last one to the first. -/
def IsCycle (edges : EdgeTable) (cycle : List Nat) : Prop :=
  ∃ first rest, cycle = first :: rest ∧ (first :: rest ++ [first]).IsChain (Edge edges)

/-- Every node of a cycle has an edge. -/
theorem IsCycle.exists_edge {cycle : List Nat} (closed : IsCycle edges cycle) {node : Nat}
    (member : node ∈ cycle) : ∃ next, Edge edges node next := by
  obtain ⟨first, rest, rfl, chain⟩ := closed
  generalize first :: rest = nodes at chain member
  induction nodes with
  | nil => cases member
  | cons other nodes ih =>
    obtain ⟨here, there⟩ := List.isChain_cons.mp chain
    rcases List.mem_cons.mp member with rfl | member
    · obtain ⟨next, first⟩ : ∃ next, (nodes ++ [first]).head? = some next := by
        cases nodes <;> exact ⟨_, rfl⟩
      exact ⟨next, here next first⟩
    · exact ih there member

/-- A cycle may begin with any of its nodes. -/
theorem IsCycle.rotate {front back : List Nat} (closed : IsCycle edges (front ++ back))
    (nonempty : back ≠ []) : IsCycle edges (back ++ front) := by
  cases front with
  | nil => rwa [List.append_nil]
  | cons first front =>
    obtain ⟨second, back, rfl⟩ := List.exists_cons_of_ne_nil nonempty
    obtain ⟨_, _, same, chain⟩ := closed
    obtain ⟨rfl, rfl⟩ := List.cons.inj same
    refine ⟨second, back ++ first :: front, rfl, ?_⟩
    have whole : ((first :: front) ++ ((second :: back) ++ [first])).IsChain (Edge edges) := by
      simpa using chain
    obtain ⟨frontChain, restChain, between⟩ := List.isChain_append.mp whole
    obtain ⟨backChain, _, closes⟩ := List.isChain_append.mp restChain
    have turned : ((second :: back) ++ ((first :: front) ++ [second])).IsChain (Edge edges) := by
      refine List.isChain_append.mpr ⟨backChain, ?_, closes⟩
      exact List.isChain_append.mpr ⟨frontChain, List.isChain_singleton _, between⟩
    simpa using turned

/-- From every node of a cycle every other one is reached. -/
theorem IsCycle.reaches {cycle : List Nat} (closed : IsCycle edges cycle) {node other : Nat}
    (member : node ∈ cycle) (memberToo : other ∈ cycle) :
    Relation.ReflTransGen (Edge edges) node other := by
  obtain ⟨first, rest, rfl, chain⟩ := closed
  have onwards : (first :: rest ++ [first]).Pairwise (Relation.ReflTransGen (Edge edges)) :=
    (chain.imp fun _ _ => Relation.ReflTransGen.single).pairwise
  obtain ⟨_, _, back⟩ := List.pairwise_append.mp onwards
  have toFirst := back node member first (List.mem_singleton_self first)
  rcases List.mem_cons.mp memberToo with rfl | later
  · exact toFirst
  · exact toFirst.trans (List.rel_of_pairwise_cons onwards (List.mem_append_left _ later))

/-- Every node of a cycle is reached from itself. -/
theorem IsCycle.cyclic {cycle : List Nat} (closed : IsCycle edges cycle) :
    ∃ node, Relation.TransGen (Edge edges) node node := by
  have reaches := @closed.reaches
  obtain ⟨first, rest, rfl, chain⟩ := closed
  refine ⟨first, ?_⟩
  cases rest with
  | nil => exact .single (List.isChain_pair.mp chain)
  | cons second rest =>
    have edge : Edge edges first second := (List.isChain_cons_cons.mp chain).1
    exact .head' edge (reaches (List.mem_cons_of_mem _ List.mem_cons_self) List.mem_cons_self)

/-- A cycle that visits no node twice and begins with its smallest one. -/
structure IsLeading (edges : EdgeTable) (cycle : List Nat) : Prop where
  closed : IsCycle edges cycle
  distinct : cycle.Nodup
  smallest : ∀ first ∈ cycle.head?, ∀ node ∈ cycle, first ≤ node

namespace Search

/-- An edge back to the stack closes the path on it. -/
theorem isCycle_pathFrom {node next : Nat} {pending : List Nat} {below : List Frame}
    (chain : (node :: below.map Frame.node).IsChain fun later earlier => Edge edges earlier later)
    (edge : Edge edges node next) (member : next ∈ node :: below.map Frame.node) :
    IsCycle edges (pathFrom (⟨node, pending⟩ :: below) next) := by
  have forwards : ((node :: below.map Frame.node).reverse).IsChain (Edge edges) :=
    List.isChain_reverse.mpr chain
  have closed : ((node :: below.map Frame.node).reverse ++ [next]).IsChain (Edge edges) := by
    refine List.isChain_append.mpr ⟨forwards, List.isChain_singleton _, ?_⟩
    simpa using edge
  -- The last node is on top of the stack, so the path on it runs backwards.
  obtain ⟨before, rest, path, back⟩ := @exists_pathFrom next (⟨node, pending⟩ :: below) member
  rw [List.map_cons] at path
  rw [path, List.append_assoc] at closed
  exact ⟨next, rest, back, (List.isChain_append.mp closed).2.1⟩

/-- The cycle that is noted begins with its smallest node. -/
theorem isLeading_fromSmallest {cycle : List Nat} (closed : IsCycle edges cycle)
    (distinct : cycle.Nodup) : IsLeading edges (fromSmallest cycle) := by
  have nonempty : cycle ≠ [] := by
    obtain ⟨first, rest, rfl, _⟩ := closed
    exact List.cons_ne_nil _ _
  have same := perm_fromSmallest cycle
  refine ⟨?_, same.nodup_iff.mpr distinct, fun first first' node member => ?_⟩
  all_goals obtain ⟨front, smallest, back, split, turned, below⟩ := exists_fromSmallest nonempty
  · rw [turned, ← List.cons_append]
    exact IsCycle.rotate (split ▸ closed) (List.cons_ne_nil _ _)
  · rw [turned, List.head?_cons, Option.mem_some_iff] at first'
    exact first' ▸ below node (same.mem_iff.mp member)

/-- No cycle was found twice, and each of them begins with its smallest node. -/
structure Sound (edges : EdgeTable) (search : Search) : Prop where
  leading : ∀ cycle ∈ search.found, IsLeading edges cycle
  once : search.found.Nodup

/-- Every step keeps what was found sound. -/
theorem Sound.step {before after : Search} (moved : Transition edges before after)
    (path : OnPath edges before) (sound : Sound edges before) : Sound edges after := by
  cases moved with
  | leave => exact ⟨sound.leading, sound.once⟩
  | enter => exact ⟨sound.leading, sound.once⟩
  | skip => exact ⟨sound.leading, sound.once⟩
  | close marks node next rest below found open_ =>
    obtain ⟨found', same, known, once⟩ := note_eq ⟨marks, ⟨node, rest⟩ :: below, found⟩
      (fromSmallest (pathFrom (⟨node, rest⟩ :: below) next))
    rw [same]
    refine ⟨fun cycle member => ?_, once sound.once⟩
    rcases (known cycle).mp member with before | rfl
    · exact sound.leading cycle before
    · have edge := path.pending ⟨node, next :: rest⟩ (.head _) next (.head _)
      have inside : next ∈ node :: below.map Frame.node := (path.open_ next).mp open_
      refine isLeading_fromSmallest (isCycle_pathFrom path.chain edge inside) ?_
      have backwards : (node :: below.map Frame.node).reverse.Nodup :=
        List.nodup_reverse.mpr path.distinct
      exact (List.dropWhile_sublist _).nodup backwards

/-- A search from one node keeps what was found sound. -/
theorem Sound.visit {search : Search} (node : Nat) (invariant : Invariant edges search)
    (idle : search.stack = []) (sound : Sound edges search) :
    Sound edges (visit edges search node) := by
  unfold Search.visit
  split
  · rename_i fresh
    have both := @run_induction edges (fun search => Invariant edges search ∧ Sound edges search)
      (fun _ _ moved kept => ⟨kept.1.step moved, kept.2.step moved kept.1.path⟩)
      (search.enter edges node) ⟨invariant.enter idle fresh, sound.leading, sound.once⟩
    exact both.2
  · exact sound

/-- Searching from several nodes keeps what was found sound. -/
theorem Sound.foldl_visit (roots : List Nat) {search : Search} (invariant : Invariant edges search)
    (idle : search.stack = []) (sound : Sound edges search) :
    Sound edges (roots.foldl (Search.visit edges) search) := by
  induction roots generalizing search with
  | nil => exact sound
  | cons root roots ih =>
    obtain ⟨kept, ended, _⟩ := visit_spec root invariant idle
    exact ih kept ended (sound.visit root invariant idle)

end Search

/-- **Every list that the search finds is a cycle**, and none is found twice. -/
theorem sound_findCycles (edges : EdgeTable) :
    (∀ cycle ∈ findCycles edges, IsLeading edges cycle) ∧ (findCycles edges).Nodup := by
  have start : Search.Sound edges (Search.initial edges) := ⟨List.forall_mem_nil _, List.nodup_nil⟩
  have sound := start.foldl_visit (List.range edges.length) (Search.invariant_initial edges) rfl
  exact ⟨sound.leading, sound.once⟩

theorem isCycle_of_mem_findCycles {cycle : List Nat} (found : cycle ∈ findCycles edges) :
    IsCycle edges cycle := ((sound_findCycles edges).1 cycle found).closed

/-- A walk along edges that are all spared, or through a cycle that was found. -/
theorem spared_or_exists_found (found : List (List Nat)) {source target : Nat}
    (walk : Relation.TransGen (Edge edges) source target) :
    Relation.TransGen (Spared edges found) source target ∨
      ∃ cycle ∈ found, ∃ node ∈ cycle, Relation.TransGen (Edge edges) source node
        ∧ Relation.ReflTransGen (Edge edges) node target := by
  have spared : ∀ {other : Nat}, (¬ ∃ cycle ∈ found, other ∈ cycle) →
      ∀ cycle ∈ found, other ∉ cycle := fun clear cycle member inside =>
    clear ⟨cycle, member, inside⟩
  induction walk with
  | @single next edge =>
    by_cases hit : ∃ cycle ∈ found, next ∈ cycle
    · obtain ⟨cycle, member, inside⟩ := hit
      exact Or.inr ⟨cycle, member, next, inside, .single edge, .refl⟩
    · exact Or.inl (.single ⟨edge, spared hit⟩)
  | @tail last next walk edge ih =>
    by_cases hit : ∃ cycle ∈ found, next ∈ cycle
    · obtain ⟨cycle, member, inside⟩ := hit
      exact Or.inr ⟨cycle, member, next, inside, walk.tail edge, .refl⟩
    · rcases ih with before | ⟨cycle, member, node, inside, there, back⟩
      · exact Or.inl (before.tail ⟨edge, spared hit⟩)
      · exact Or.inr ⟨cycle, member, node, inside, there, back.tail edge⟩

/-- **Every walk back to where it began meets a cycle that is found.** -/
theorem exists_found_of_cyclic {node : Nat} (walk : Relation.TransGen (Edge edges) node node) :
    ∃ cycle ∈ findCycles edges, ∃ other ∈ cycle, Relation.TransGen (Edge edges) node other
      ∧ Relation.ReflTransGen (Edge edges) other node := by
  have clear := not_cyclic_of_acc (acc_findCycles edges node)
  exact (spared_or_exists_found (findCycles edges) walk).resolve_left clear

/-- **Nothing is found exactly if no node can be reached from itself.** -/
theorem findCycles_eq_nil_iff (edges : EdgeTable) :
    findCycles edges = [] ↔ ∀ node, ¬ Relation.TransGen (Edge edges) node node := by
  constructor
  · intro nothing node cycle
    obtain ⟨found, member, _⟩ := exists_found_of_cyclic cycle
    rw [nothing] at member
    cases member
  · intro acyclic
    refine List.eq_nil_iff_forall_not_mem.mpr fun cycle found => ?_
    obtain ⟨node, cyclic⟩ := (isCycle_of_mem_findCycles found).cyclic
    exact acyclic node cyclic

/-- Where all edges lead to smaller nodes, nothing is found. -/
theorem findCycles_eq_nil_of_lt {edges : EdgeTable}
    (smaller : ∀ source target, Edge edges source target → target < source) :
    findCycles edges = [] := by
  rw [findCycles_eq_nil_iff]
  intro node cycle
  have below : ∀ target, Relation.TransGen (Edge edges) node target → target < node := by
    intro target path
    induction path with
    | single edge => exact smaller node _ edge
    | tail _ edge ih => exact Nat.lt_trans (smaller _ _ edge) ih
  exact Nat.lt_irrefl node (below node cycle)

end PageAttributes.Grammar
