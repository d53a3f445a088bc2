/-
**What a condition reads.**

* `newIn` — of some ids those that are not known yet, each where it is first used;
* `Condition.addReads_eq` — a condition adds the new ones of the ids that its leaves name;
* `Condition.trace_eq_of_agree` — where two assignments agree on what the leaves name, a condition
  is traced in the same way;
* `Condition.reads_suffice` — a condition reads what its leaves name, and depends on nothing else.
-/

import PageAttributes.Proofs.Grammar.Typed
import PageAttributes.Proofs.Trace.Formula

namespace PageAttributes

/-! ### First uses -/

/-- Of some ids those that are not known yet, each where it is first used. -/
def newIn (known : List String) : List String → List String
  | [] => []
  | id :: rest => if known.contains id then newIn known rest else id :: newIn (known ++ [id]) rest

theorem newIn_of_mem {known : List String} {id : String} (member : id ∈ known)
    (rest : List String) : newIn known (id :: rest) = newIn known rest := by
  rw [newIn, if_pos (List.contains_iff_mem.mpr member)]

theorem newIn_of_not_mem {known : List String} {id : String} (outside : id ∉ known)
    (rest : List String) : newIn known (id :: rest) = id :: newIn (known ++ [id]) rest := by
  rw [newIn, if_neg fun found => outside (List.contains_iff_mem.mp found)]

/-- What is new in a first part is known to the second part. -/
theorem newIn_append (known first second : List String) :
    newIn known (first ++ second)
      = newIn known first ++ newIn (known ++ newIn known first) second := by
  induction first generalizing known with
  | nil => rw [newIn, List.append_nil, List.nil_append, List.nil_append]
  | cons id rest ih =>
    rw [List.cons_append]
    by_cases member : id ∈ known
    · rw [newIn_of_mem member, newIn_of_mem member, ih]
    · rw [newIn_of_not_mem member, newIn_of_not_mem member, ih, List.append_assoc,
        List.singleton_append, List.cons_append]

theorem mem_newIn_iff {known ids : List String} {id : String} :
    id ∈ newIn known ids ↔ id ∈ ids ∧ id ∉ known := by
  induction ids generalizing known with
  | nil => simp [newIn]
  | cons first rest ih =>
    by_cases member : first ∈ known
    · rw [newIn_of_mem member, ih, List.mem_cons]
      refine ⟨fun ⟨among, outside⟩ => ⟨Or.inr among, outside⟩, fun ⟨either, outside⟩ => ?_⟩
      refine ⟨either.resolve_left ?_, outside⟩
      rintro rfl
      exact outside member
    · rw [newIn_of_not_mem member, List.mem_cons, List.mem_cons, ih, List.mem_append,
        List.mem_singleton]
      by_cases same : id = first
      · subst same
        simp [member]
      · simp [same]

/-- New ids come in the order of their first uses. -/
theorem pairwise_newIn (known ids : List String) :
    (newIn known ids).Pairwise fun earlier later => ids.idxOf earlier < ids.idxOf later := by
  induction ids generalizing known with
  | nil => exact List.Pairwise.nil
  | cons first rest ih =>
    -- The first use of any other id is one place further on than it is in the rest.
    have shifted : ∀ {more : List String}, first ∈ more →
        (newIn more rest).Pairwise fun earlier later =>
          (first :: rest).idxOf earlier < (first :: rest).idxOf later := by
      intro more member
      refine (ih more).imp_of_mem fun {earlier later} among among' before => ?_
      have other : ∀ {id}, id ∈ newIn more rest → first ≠ id := by
        rintro id among rfl
        exact (mem_newIn_iff.mp among).2 member
      rw [List.idxOf_cons_ne rest (other among), List.idxOf_cons_ne rest (other among')]
      exact Nat.succ_lt_succ before
    by_cases member : first ∈ known
    · rw [newIn_of_mem member]
      exact shifted member
    · have known' : first ∈ known ++ [first] := List.mem_append_right known List.mem_cons_self
      rw [newIn_of_not_mem member, List.pairwise_cons]
      refine ⟨fun later among => ?_, shifted known'⟩
      have other : first ≠ later := by
        rintro rfl
        exact (mem_newIn_iff.mp among).2 known'
      rw [List.idxOf_cons_self, List.idxOf_cons_ne rest other]
      exact Nat.succ_pos _

/-- No id is new twice. -/
theorem nodup_newIn (known ids : List String) : (newIn known ids).Nodup := by
  refine (pairwise_newIn known ids).imp fun {earlier later} before => ?_
  rintro rfl
  exact Nat.lt_irrefl _ before

/-! ### Conditions -/

namespace Condition

mutual

/-- A condition adds the new ones of the ids that its leaves name. -/
theorem addReads_eq : ∀ (condition : Condition) (known : List String),
    addReads condition known = known ++ newIn known condition.leafIds
  | .leaf id _, known => by
    rw [addReads, leafIds, newIn, newIn, newIn]
    split
    · exact (List.append_nil known).symm
    · rfl
  | .group _ members, known => by
    rw [addReads, leafIds]
    exact addAllReads_eq members known

/-- Conditions add the new ones of the ids that their leaves name. -/
theorem addAllReads_eq : ∀ (conditions : List Condition) (known : List String),
    addAllReads conditions known = known ++ newIn known (allLeafIds conditions)
  | [], known => by rw [addAllReads, allLeafIds, newIn, List.append_nil]
  | member :: rest, known => by
    rw [addAllReads, allLeafIds, addReads_eq member, addAllReads_eq rest, newIn_append,
      List.append_assoc]

end

/-- A condition reads an id exactly if one of its leaves names it. -/
theorem mem_reads_iff {condition : Condition} {id : String} :
    id ∈ condition.reads ↔ id ∈ condition.leafIds := by
  rw [reads, addReads_eq, List.nil_append, mem_newIn_iff]
  exact and_iff_left List.not_mem_nil

variable {first second : Assignment}

mutual

/-- A condition is traced in the same way where what its leaves name has the same values. -/
theorem trace_eq_of_agree : ∀ condition : Condition,
    (∀ id ∈ condition.leafIds, first.get? id = second.get? id) →
      trace first condition = trace second condition
  | .leaf id expected, agree => by
    have same := agree id (by rw [leafIds]; exact List.mem_cons_self)
    rw [trace, trace, Assignment.satisfies, Assignment.satisfies, same]
  | .group operator members, agree => by
    rw [leafIds] at agree
    rw [trace, trace, traceSequence_eq_of_agree operator members agree]

/-- So are the members of a group. -/
theorem traceSequence_eq_of_agree (operator : Operator) : ∀ conditions : List Condition,
    (∀ id ∈ allLeafIds conditions, first.get? id = second.get? id) →
      traceSequence first operator conditions = traceSequence second operator conditions
  | [], _ => by rw [traceSequence, traceSequence]
  | member :: rest, agree => by
    rw [allLeafIds] at agree
    have same := trace_eq_of_agree member fun id named => agree id (List.mem_append_left _ named)
    have others := traceSequence_eq_of_agree operator rest
      fun id named => agree id (List.mem_append_right _ named)
    rw [traceSequence, traceSequence, same, others]

end

/-- **A condition reads what its leaves name, and depends on nothing else.** Behind the ids that are
known before it adds exactly those that its leaves name and that are not known, each once and in the
order of their first uses. Two assignments that agree on what it reads give it the same outcome, the
same trace and the same line. -/
theorem reads_suffice (condition : Condition) :
    (∀ known, ∃ added, condition.addReads known = known ++ added
        ∧ (∀ id, id ∈ added ↔ id ∈ condition.leafIds ∧ id ∉ known)
        ∧ (added.Pairwise fun earlier later =>
            condition.leafIds.idxOf earlier < condition.leafIds.idxOf later)
        ∧ added.Nodup
        ∧ (known.Nodup → (condition.addReads known).Nodup))
      ∧ ∀ first second : Assignment,
          (∀ id ∈ condition.reads, first.get? id = second.get? id) →
            condition.holds first = condition.holds second
              ∧ condition.trace first = condition.trace second
              ∧ (condition.trace first).format = (condition.trace second).format := by
  refine ⟨fun known => ?_, fun first second agree => ?_⟩
  · have appended := addReads_eq condition known
    have once := nodup_newIn known condition.leafIds
    refine ⟨_, appended, fun id => mem_newIn_iff, pairwise_newIn known condition.leafIds, once,
      fun distinct => ?_⟩
    rw [appended]
    refine List.nodup_append.mpr ⟨distinct, once, fun id member other among => ?_⟩
    rintro rfl
    exact (mem_newIn_iff.mp among).2 member
  · have traces : condition.trace first = condition.trace second :=
      trace_eq_of_agree condition fun id named => agree id (mem_reads_iff.mpr named)
    refine ⟨?_, traces, by rw [traces]⟩
    rw [← outcome_trace first, ← outcome_trace second, traces]

end Condition

end PageAttributes
