/-
**In every component of a graph that has a cycle, one is found.**

* `Connected` — two nodes are in one component: each can be reached from the other;
* `transGen_of_component` — where a node has an edge to itself, or another node in its component, it
  can be reached from itself;
* `findCycles_spec` — the search ends, finds simple cycles from their smallest node on and none
  twice, and finds one in every component that has any.
-/

import PageAttributes.Proofs.Grammar.Cycles
import PageAttributes.Proofs.Grammar.Effort

namespace PageAttributes.Grammar

variable {edges : EdgeTable} {node other : Nat}

/-- Two nodes are in one strongly connected component. -/
def Connected (edges : EdgeTable) (node other : Nat) : Prop :=
  Relation.ReflTransGen (Edge edges) node other ∧ Relation.ReflTransGen (Edge edges) other node

/-- A node with an edge to itself, or with another node in its component, can be reached from
itself. -/
theorem transGen_of_component
    (several : Edge edges node node ∨ ∃ other, other ≠ node ∧ Connected edges node other) :
    Relation.TransGen (Edge edges) node node := by
  rcases several with loop | ⟨other, different, there, back⟩
  · exact .single loop
  · rcases Relation.reflTransGen_iff_eq_or_transGen.mp there with same | there
    · exact (different same).elim
    · exact there.trans_left back

/-- A cycle that meets a component stays in it. -/
theorem IsCycle.connected {cycle : List Nat} (closed : IsCycle edges cycle) (met : other ∈ cycle)
    (connected : Connected edges node other) : ∀ member ∈ cycle, Connected edges node member :=
  fun _ member => ⟨connected.1.trans (closed.reaches met member),
    (closed.reaches member met).trans connected.2⟩

/-- **The search for cycles ends, and what it finds are cycles in all components that have any.**
It takes one step for every node and one for every edge. Every list that it finds begins with its
smallest node, has no node twice, and each node in it has an edge to the next one, the last one to
the first; no list is found twice. Where a component has more than one node, or a node with an edge
to itself, a cycle in it is found. So nothing is found exactly if no node can be reached from
itself. -/
theorem findCycles_spec (edges : EdgeTable) :
    (∃ last, Search.Moves edges (edges.length + (edges.map List.length).sum)
        (Search.initial edges) last ∧ last.stack = [] ∧ last.found = findCycles edges)
      ∧ (∀ cycle ∈ findCycles edges, ∃ first rest, cycle = first :: rest
          ∧ cycle.Nodup ∧ (∀ node ∈ cycle, first ≤ node)
          ∧ (cycle ++ [first]).IsChain (Edge edges))
      ∧ (findCycles edges).Nodup
      ∧ (∀ node, (Edge edges node node ∨ ∃ other, other ≠ node ∧ Connected edges node other) →
          ∃ cycle ∈ findCycles edges, ∀ member ∈ cycle, Connected edges node member)
      ∧ (findCycles edges = [] ↔ ∀ node, ¬ Relation.TransGen (Edge edges) node node) := by
  obtain ⟨leading, once⟩ := sound_findCycles edges
  refine ⟨Search.moves_findCycles edges, fun cycle found => ?_, once, fun node several => ?_,
    findCycles_eq_nil_iff edges⟩
  · obtain ⟨closed, distinct, smallest⟩ := leading cycle found
    obtain ⟨first, rest, rfl, chain⟩ := closed
    exact ⟨first, rest, rfl, distinct, smallest first rfl, chain⟩
  · obtain ⟨cycle, found, other, met, there, back⟩ :=
      exists_found_of_cyclic (transGen_of_component several)
    have closed := isCycle_of_mem_findCycles found
    exact ⟨cycle, found, closed.connected met ⟨there.to_reflTransGen, back⟩⟩

/-- Two components with a cycle each, and an edge from one to the other. -/
example : findCycles [[1], [2], [0, 3], [4], [3, 4]] = [[0, 1, 2], [3, 4], [4]] := by
  cbv

end PageAttributes.Grammar
