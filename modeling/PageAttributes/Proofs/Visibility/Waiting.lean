/-
**What the nodes that wait say about an error.**

* `Catalog.Waits` — different nodes of which each one waits for the next one;
* `Catalog.Invariant.waits` — the nodes on the stack, from the first one that was begun;
* `Catalog.Invariant.loop_eq` — the way from a node on the stack back to it;
* `Catalog.Halts.cycle`, `Catalog.Halts.tooDeep` — what a cycle and a full stack say about the
  dependencies of a catalog;
* `Solution.justified_error_of_resolve` — every error of a resolution tells of something that is
  really there.
-/

import PageAttributes.Proofs.Visibility.Resolution

namespace PageAttributes

namespace Catalog

variable {catalog : Catalog} {assignment : Assignment} {kind : Option NodeType}
  {session : Session} {node : Node}

/-! ### Chains of nodes -/

/-- Different nodes of which each one waits for the next one. -/
structure Waits (catalog : Catalog) (nodes : List Node) : Prop where
  chain : nodes.IsChain catalog.Depends
  distinct : nodes.Nodup
  known : ∀ node ∈ nodes, catalog.Has node

/-- The nodes on the stack wait for one another, the first one that was begun for the second one. -/
theorem Invariant.waits (invariant : Invariant catalog assignment kind session) :
    catalog.Waits session.stack.reverse where
  chain := List.isChain_reverse.mpr invariant.chain
  distinct := List.nodup_reverse.mpr invariant.distinct
  known := fun node member => invariant.known node (List.mem_reverse.mp member)

/-- One more node can be waited for by the last one. -/
theorem Waits.concat {nodes : List Node} (waits : catalog.Waits nodes) (outside : node ∉ nodes)
    (known : catalog.Has node) (next : ∀ last ∈ nodes.getLast?, catalog.Depends last node) :
    catalog.Waits (nodes ++ [node]) where
  chain := by
    refine List.isChain_append.mpr ⟨waits.chain, List.isChain_singleton node, ?_⟩
    rintro last isLast _ ⟨⟩
    exact next last isLast
  distinct := List.nodup_append_comm.mp (List.nodup_cons.mpr ⟨outside, waits.distinct⟩)
  known := by
    intro other member
    rcases List.mem_append.mp member with inside | same
    · exact waits.known other inside
    · rwa [List.mem_singleton.mp same]

/-- Where one more node is waited for than may wait, there are more nodes than that. -/
theorem Waits.chainLimit_lt (waits : catalog.Waits (session.stack.reverse ++ [node]))
    (full : session.stack.length = chainLimit) :
    chainLimit < catalog.attributes.length + catalog.groups.length := by
  have count := length_le_of_nodup waits.distinct waits.known
  rwa [List.length_append, List.length_reverse, full] at count

/-- The way from a node on the stack back to it is the part of the stack from that node on. -/
theorem Invariant.loop_eq (invariant : Invariant catalog assignment kind session)
    (member : node ∈ session.stack) :
    ∃ way, session.loop node = node :: way ++ [node] ∧ node :: way <:+ session.stack.reverse := by
  obtain ⟨before, way, split⟩ := List.append_of_mem (List.mem_reverse.mpr member)
  have outside : ∀ other ∈ before, (other == node) = false := by
    intro other among
    have distinct := invariant.waits.distinct
    rw [split] at distinct
    rw [beq_eq_false_iff_ne]
    rintro rfl
    exact (List.nodup_append.mp distinct).2.2 other among other List.mem_cons_self rfl
  have start : (before ++ node :: way).findIdx? (fun other => other == node)
      = some before.length := by
    rw [List.findIdx?_append, List.findIdx?_eq_none_iff.mpr outside, Option.none_or,
      List.findIdx?_cons]
    simp
  refine ⟨way, ?_, before, split.symm⟩
  simp only [Session.loop, split, start, Option.getD_some, List.drop_left, List.cons_append]

/-! ### Errors -/

variable {error : VisibilityError}

/-- What a cycle in an error names are different nodes of which each one waits for the next one, and
the last one for the first one. -/
theorem Halts.cycle {labels : List String}
    (halts : catalog.Halts assignment kind (.cycle labels) session) :
    ∃ start way, labels = (start :: way ++ [start]).map catalog.label
      ∧ catalog.Waits (start :: way) ∧ (start :: way ++ [start]).IsChain catalog.Depends := by
  have justified := halts.justified
  cases justified with
  | cycle node member waits =>
    obtain ⟨way, loop, suffix⟩ := halts.invariant.loop_eq member
    have all := halts.invariant.waits
    have chain := all.chain.suffix suffix
    refine ⟨node, way, by rw [loop], ⟨chain, all.distinct.sublist suffix.sublist, ?_⟩, ?_⟩
    · intro other inside
      exact all.known other (suffix.subset inside)
    · refine List.isChain_append.mpr ⟨chain, List.isChain_singleton node, ?_⟩
      rintro last isLast _ ⟨⟩
      obtain ⟨before, split⟩ := suffix
      have top : session.stack.head? = some last := by
        rw [← List.getLast?_reverse, ← split, List.getLast?_append, isLast, Option.some_or]
      exact waits last top

/-- A cycle in an error is a cycle of what waits for one another. -/
theorem Halts.cyclic {labels : List String}
    (halts : catalog.Halts assignment kind (.cycle labels) session) :
    ∃ node, Relation.TransGen catalog.Depends node node := by
  obtain ⟨start, way, _, _, chain⟩ := halts.cycle
  obtain ⟨next, rest, same⟩ :=
    List.exists_cons_of_ne_nil (List.append_ne_nil_of_right_ne_nil way (List.cons_ne_nil start []))
  have last : (next :: rest).getLast (List.cons_ne_nil next rest) = start := by
    simp only [← same, List.getLast_concat]
  rw [List.cons_append, same] at chain
  obtain ⟨first, others⟩ := List.isChain_cons_cons.mp chain
  exact ⟨start, .head' first (List.relationReflTransGen_of_exists_isChain_cons rest others last)⟩

/-- Something is too deep only where a condition is, or where the stack is full and one more node is
waited for. -/
theorem Halts.tooDeep {limit : Nat} (halts : catalog.Halts assignment kind (.tooDeep limit) session) :
    (limit = Condition.depthLimit
        ∧ ∃ node, Condition.depthLimit < Condition.allLevels (catalog.conditionsOf node))
      ∨ limit = chainLimit ∧ session.stack.length = chainLimit
        ∧ ∃ node, session.progress node = .pending
          ∧ catalog.Waits (session.stack.reverse ++ [node]) := by
  have justified := halts.justified
  cases justified with
  | tooDeep node deep => exact Or.inl ⟨rfl, node, deep⟩
  | tooLong node known pending waits full =>
    refine Or.inr ⟨rfl, full, node, pending, halts.invariant.waits.concat ?_ known ?_⟩
    · rw [List.mem_reverse]
      exact halts.invariant.not_mem_of_pending pending
    · rw [List.getLast?_reverse]
      exact waits

end Catalog

/-! ### Conditions -/

/-- Some conditions are too deep only if one of them is. -/
theorem Condition.exists_levels_of_allLevels {bound : Nat} {conditions : List Condition}
    (deep : bound < allLevels conditions) : ∃ condition ∈ conditions, bound < condition.levels := by
  induction conditions with
  | nil =>
    rw [allLevels] at deep
    exact absurd deep (Nat.not_lt_zero bound)
  | cons first rest ih =>
    rw [allLevels] at deep
    by_cases here : bound < first.levels
    · exact ⟨first, List.mem_cons_self, here⟩
    · obtain ⟨condition, member, deep⟩ := ih (by omega)
      exact ⟨condition, List.mem_cons_of_mem first member, deep⟩

/-! ### Solutions -/

/-- **Every error of a resolution tells of something that is really there.** A cycle names different
attributes and groups of which each one waits for the next one and the last one for the first one;
an unknown id is read and not declared; and where something is too deep, it is a condition of more
than 128 levels, or a chain of 257 attributes and groups that wait for one another. -/
theorem Solution.justified_error_of_resolve (solution : Solution) {assignment : Assignment}
    {kind : Option NodeType} {error : VisibilityError}
    (failed : solution.resolve assignment kind = .error error) :
    (∀ labels, error = .cycle labels →
        2 ≤ labels.length ∧ labels.head? = labels.getLast?
          ∧ ∃ start way,
            labels = (start :: way ++ [start]).map (Catalog.ofSolution solution).label
              ∧ (start :: way ++ [start]).IsChain (Catalog.ofSolution solution).Depends
              ∧ (start :: way).Nodup
              ∧ ∀ node ∈ start :: way, (Catalog.ofSolution solution).Has node)
      ∧ (∀ id, error = .unknownAttribute id →
        (∀ entry ∈ solution.flat, entry.2.id ≠ id)
          ∧ ∃ node, id ∈ (Catalog.ofSolution solution).readsOf node)
      ∧ (∀ limit, error = .tooDeep limit →
        limit = 128 ∧ (∃ node, ∃ condition ∈ (Catalog.ofSolution solution).conditionsOf node,
            128 < condition.levels)
          ∨ limit = 256 ∧ ∃ nodes : List Node, nodes.length = 257 ∧ nodes.Nodup
            ∧ nodes.IsChain (Catalog.ofSolution solution).Depends
            ∧ ∀ node ∈ nodes, (Catalog.ofSolution solution).Has node) := by
  obtain ⟨session, halts⟩ :=
    Catalog.justified_of_resolve (Catalog.isNumbered_ofSolution solution) failed
  refine ⟨?_, ?_, ?_⟩
  · rintro labels rfl
    obtain ⟨start, way, rfl, waits, chain⟩ := halts.cycle
    refine ⟨by simp, ?_, start, way, rfl, chain, waits.distinct, waits.known⟩
    rw [List.map_append, List.map_singleton, List.getLast?_concat]
    rfl
  · rintro id rfl
    have justified := halts.justified
    cases justified with
    | unknownAttribute _ node read unknown =>
      refine ⟨?_, node, read⟩
      rw [Catalog.position?, List.findIdx?_eq_none_iff] at unknown
      rintro entry member rfl
      rw [← Catalog.map_ofSolution, List.mem_map] at member
      obtain ⟨numbered, listed, rfl⟩ := member
      exact beq_eq_false_iff_ne.mp (unknown numbered listed) rfl
  · rintro limit rfl
    rcases halts.tooDeep with ⟨rfl, node, deep⟩ | ⟨rfl, full, node, _, waits⟩
    · exact Or.inl ⟨rfl, node, Condition.exists_levels_of_allLevels deep⟩
    · refine Or.inr ⟨rfl, _, ?_, waits.distinct, waits.chain, waits.known⟩
      rw [List.length_append, List.length_reverse, full]
      rfl

/-- A solution with a cycle through a group: whether a page is wide depends on its width, which is
there if the page is wide. -/
def Solution.entangled : Solution where
  id := "layout"
  name := "Layout"
  scripts := []
  attributes := [
    .single ⟨"wide", "Wide", "Wide", "data-wide", none, none,
      some [.leaf "width" (.text "1")], .textInput none⟩,
    .group ⟨"Sizes", [⟨"width", "Width", "Width", "data-width", none, none, none,
      .textInput none⟩], none, some [.leaf "wide" (.text "yes")]⟩]

theorem Solution.resolve_entangled :
    Solution.entangled.resolve .empty none
      = .error (.cycle ["group 'Sizes'", "wide", "width", "group 'Sizes'"]) := by
  decide +kernel

/-- The cycle leads from the group over what it reads and back to it over its member. -/
theorem Solution.justified_error_of_entangled :
    Solution.entangled.resolve .empty none
        = .error (.cycle ["group 'Sizes'", "wide", "width", "group 'Sizes'"])
      ∧ ∃ start way,
        ["group 'Sizes'", "wide", "width", "group 'Sizes'"]
            = (start :: way ++ [start]).map (Catalog.ofSolution .entangled).label
          ∧ (start :: way ++ [start]).IsChain (Catalog.ofSolution .entangled).Depends
          ∧ (start :: way).Nodup
          ∧ ∀ node ∈ start :: way, (Catalog.ofSolution .entangled).Has node :=
  ⟨resolve_entangled, ((justified_error_of_resolve .entangled resolve_entangled).1 _ rfl).2.2⟩

end PageAttributes
