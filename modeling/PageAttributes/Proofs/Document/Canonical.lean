/-
**Every document that is put in order is canonical.**

* `Keyed.sorted_ofPairs` — keys are strictly increasing once all pairs are put;
* `Keyed.lookup_ofPairs` — where no key repeats, every key leads to what it led to before;
* `Keyed.Sorted.ext` — sorted fields are determined by what is found under each key;
* `Document.isCanonical_ofPairs` — a record of canonical values is canonical;
* `Document.isCanonical_canonical` — the canonical form of a document is canonical;
* `Document.canonical_record` — the fields of the canonical form of a record.
-/

import PageAttributes.Proofs.Document.Unique

namespace PageAttributes

namespace Keyed

variable {α : Type}

/-- Of two keys one comes first. -/
theorem precedes_of_not {first second : String} (later : ¬ Precedes first second)
    (differ : first ≠ second) : Precedes second first :=
  Classical.byContradiction fun earlier => differ (String.le_antisymm earlier later)

/-- What stands under a key was put there or stood there before. -/
theorem mem_put {key : String} {value : α} {fields : Keyed α} {field : String × α}
    (member : field ∈ put key value fields) : field = (key, value) ∨ field ∈ fields := by
  induction fields with
  | nil => exact Or.inl (List.mem_singleton.mp member)
  | cons first rest ih =>
    obtain ⟨other, held⟩ := first
    rw [put] at member
    split at member
    · exact List.mem_cons.mp member
    · split at member
      · exact (List.mem_cons.mp member).imp_right (List.mem_cons_of_mem _)
      · rcases List.mem_cons.mp member with rfl | member
        · exact Or.inr List.mem_cons_self
        · exact (ih member).imp_right (List.mem_cons_of_mem _)

/-- Keys are strictly increasing after a value is put. -/
theorem sorted_put (key : String) (value : α) {fields : Keyed α} (sorted : Sorted fields) :
    Sorted (put key value fields) := by
  induction fields with
  | nil => exact List.pairwise_singleton _ _
  | cons first rest ih =>
    obtain ⟨other, held⟩ := first
    obtain ⟨smallest, sortedRest⟩ := List.pairwise_cons.mp sorted
    rw [put]
    split
    · rename_i before
      refine List.pairwise_cons.mpr ⟨fun field member => ?_, sorted⟩
      rcases List.mem_cons.mp member with rfl | member
      · exact before
      · exact String.lt_trans before (smallest field member)
    · rename_i later
      split
      · rename_i same
        exact List.pairwise_cons.mpr ⟨fun field member => same ▸ smallest field member, sortedRest⟩
      · rename_i differ
        refine List.pairwise_cons.mpr ⟨fun field member => ?_, ih sortedRest⟩
        rcases mem_put member with rfl | member
        · exact precedes_of_not later differ
        · exact smallest field member

/-- Putting pairs one by one keeps the keys strictly increasing and adds no other value. -/
theorem sorted_foldl_put (pairs : List (String × α)) {fields : Keyed α} (sorted : Sorted fields) :
    Sorted (pairs.foldl (fun fields pair => put pair.1 pair.2 fields) fields)
      ∧ ∀ field ∈ pairs.foldl (fun fields pair => put pair.1 pair.2 fields) fields,
          field ∈ pairs ∨ field ∈ fields := by
  induction pairs generalizing fields with
  | nil => exact ⟨sorted, fun _ member => Or.inr member⟩
  | cons pair rest ih =>
    obtain ⟨sortedAll, members⟩ := ih (sorted_put pair.1 pair.2 sorted)
    refine ⟨sortedAll, fun field member => ?_⟩
    rcases members field member with member | member
    · exact Or.inl (List.mem_cons_of_mem _ member)
    · rcases mem_put member with rfl | member
      · exact Or.inl List.mem_cons_self
      · exact Or.inr member

/-- Keys are strictly increasing once all pairs are put. -/
theorem sorted_ofPairs (pairs : List (String × α)) : Sorted (ofPairs pairs) :=
  (sorted_foldl_put pairs List.Pairwise.nil).1

/-- Only the given pairs are put. -/
theorem mem_of_mem_ofPairs {pairs : List (String × α)} {field : String × α}
    (member : field ∈ ofPairs pairs) : field ∈ pairs :=
  ((sorted_foldl_put pairs List.Pairwise.nil).2 field member).resolve_right List.not_mem_nil

/-- A value is found under the key that it was put under; other keys lead where they led before. -/
theorem lookup_put (key other : String) (value : α) (fields : Keyed α) :
    (put key value fields).lookup other = if key = other then some value else fields.lookup other := by
  induction fields with
  | nil => rw [put, lookup_field]
  | cons first rest ih =>
    obtain ⟨here, held⟩ := first
    rw [put]
    split
    · rw [lookup_field]
    · split
      · rename_i same
        subst same
        rw [lookup_field, lookup_field]
        split <;> rfl
      · rename_i different
        rw [lookup_field, lookup_field, ih]
        by_cases sought : here = other
        · subst sought
          rw [if_pos rfl, if_neg different, if_pos rfl]
        · rw [if_neg sought, if_neg sought]

/-- Where no key repeats, every key leads to what it led to before the pairs were put. -/
theorem lookup_foldl_put {pairs : List (String × α)} (unique : (pairs.map Prod.fst).Nodup)
    (fields : Keyed α) (key : String) :
    (pairs.foldl (fun fields pair => put pair.1 pair.2 fields) fields).lookup key
      = (pairs.lookup key).or (fields.lookup key) := by
  induction pairs generalizing fields with
  | nil => rw [List.lookup_nil, Option.none_or, List.foldl_nil]
  | cons pair rest ih =>
    obtain ⟨other, value⟩ := pair
    obtain ⟨fresh, uniqueRest⟩ := List.nodup_cons.mp unique
    rw [List.foldl_cons, ih uniqueRest, lookup_put, lookup_field]
    by_cases same : other = key
    · subst same
      rw [if_pos rfl, if_pos rfl, lookup_eq_none_iff_not_mem.mpr fresh]
      rfl
    · rw [if_neg same, if_neg same]

theorem lookup_ofPairs {pairs : List (String × α)} (unique : (pairs.map Prod.fst).Nodup)
    (key : String) : (ofPairs pairs).lookup key = pairs.lookup key := by
  rw [ofPairs, lookup_foldl_put unique, List.lookup_nil, Option.or_none]

/-- Sorted fields are determined by what is found under each key. -/
theorem Sorted.ext {first second : Keyed α} (sorted : Sorted first) (sortedToo : Sorted second)
    (same : ∀ key, first.lookup key = second.lookup key) : first = second := by
  have within : ∀ {fields others : Keyed α}, Sorted fields →
      (∀ key, fields.lookup key = others.lookup key) → ∀ field ∈ fields, field ∈ others := by
    intro fields others sorted same field member
    exact mem_of_lookup ((same field.1).symm.trans (lookup_of_mem sorted.nodup member))
  have permuted : first.Perm second :=
    (List.perm_ext_iff_of_nodup sorted.nodup.of_map sortedToo.nodup.of_map).mpr fun field =>
      ⟨within sorted same field, within sortedToo (fun key => (same key).symm) field⟩
  refine permuted.eq_of_pairwise (fun one other _ _ before after => ?_) sorted sortedToo
  exact (String.lt_irrefl _ (String.lt_trans before after)).elim

end Keyed

namespace Document

/-- A record of canonical values is canonical once its pairs are put. -/
theorem isCanonical_ofPairs {fields : List (String × Document)}
    (canonical : ∀ field ∈ fields, field.2.IsCanonical) :
    (record (Keyed.ofPairs fields)).IsCanonical :=
  ⟨Keyed.sorted_ofPairs fields, haveCanonical_iff.mpr fun field member =>
    canonical field (Keyed.mem_of_mem_ofPairs member)⟩

mutual

/-- The canonical form of a document is canonical. -/
theorem isCanonical_canonical : ∀ document : Document, document.canonical.IsCanonical
  | .null => trivial
  | .flag _ => trivial
  | .number _ => trivial
  | .text _ => trivial
  | .list items => areCanonical_canonicalItems items
  | .record fields => isCanonical_ofPairs (haveCanonical_canonicalFields fields)

theorem areCanonical_canonicalItems :
    ∀ items : List Document, AreCanonical (canonicalItems items)
  | [] => trivial
  | item :: rest => ⟨isCanonical_canonical item, areCanonical_canonicalItems rest⟩

theorem haveCanonical_canonicalFields :
    ∀ fields : List (String × Document), ∀ field ∈ canonicalFields fields, field.2.IsCanonical
  | [] => fun _ member => nomatch member
  | (_, value) :: rest => List.forall_mem_cons.mpr
      ⟨isCanonical_canonical value, haveCanonical_canonicalFields rest⟩

end

theorem canonicalFields_eq (fields : List (String × Document)) :
    canonicalFields fields = fields.map fun field => (field.1, field.2.canonical) := by
  induction fields with
  | nil => rw [canonicalFields, List.map_nil]
  | cons field rest ih => rw [canonicalFields, List.map_cons, ih]

theorem canonicalItems_eq (items : List Document) : canonicalItems items = items.map canonical := by
  induction items with
  | nil => rw [canonicalItems, List.map_nil]
  | cons item rest ih => rw [canonicalItems, List.map_cons, ih]

/-- The canonical form of a record without repeated keys: sorted fields, and under every key the
canonical form of what was there. -/
theorem canonical_record {fields : List (String × Document)} (unique : (fields.map Prod.fst).Nodup) :
    ∃ others, (record fields).canonical = .record others ∧ Keyed.Sorted others
      ∧ ∀ key, others.lookup key = (fields.lookup key).map canonical := by
  refine ⟨_, by rw [canonical], Keyed.sorted_ofPairs _, fun key => ?_⟩
  have uniqueToo : ((canonicalFields fields).map Prod.fst).Nodup := by
    rw [canonicalFields_eq, List.map_map]
    exact unique
  rw [Keyed.lookup_ofPairs uniqueToo, canonicalFields_eq]
  exact lookup_map (fun _ => canonical) key fields

end Document

end PageAttributes
