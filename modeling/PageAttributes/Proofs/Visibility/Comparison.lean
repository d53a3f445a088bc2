/-
**Two resolutions of one solution.**

* `Solution.resolve_monotone` — giving values to attributes that have none, or asking for no kind of
  node, hides nothing;
* `Catalog.AgreeBehind` — two assignments agree on all attributes that a node waits for, however far
  away;
* `Solution.shown_eq_of_agreeBehind` — under such assignments a node is shown in both resolutions or
  in neither.

The resolver may decide the same node in another order in the other resolution, or on its way to
another node. So the two runs are not followed side by side: what one of them shows supports itself
in the other one.
-/

import PageAttributes.Proofs.Visibility.Support

namespace PageAttributes

namespace Catalog

variable {catalog : Catalog} {first second : Assignment} {kind : Option NodeType} {node : Node}

/-! ### More values -/

/-- Where more nodes apply, no less is listed. -/
theorem listed_sublist {few many : Valuation}
    (still : ∀ node, few node = true → many node = true) {α : Type} (number : Nat → Node)
    (name : α → String) (position : Nat) (entries : List α) :
    (listed few number name position entries).Sublist
      (listed many number name position entries) := by
  unfold listed
  exact (List.monotone_filter_right _ fun (entry : α × Nat) => still (number entry.2)).map _

/-- What is shown stays so when values are added, or when no kind of node is asked for any more. -/
theorem shown_of_keeps (numbered : catalog.IsNumbered) {wider : Option NodeType}
    {report larger : VisibilityReport} (kept : ∀ id, second.Keeps first id)
    (wide : wider = kind ∨ wider = none) (resolved : catalog.resolve first kind = .ok report)
    (resolvedMore : catalog.resolve second wider = .ok larger) :
    ∀ node, catalog.shown first kind node = true → catalog.shown second wider node = true := by
  intro node isShown
  refine le_shown numbered resolvedMore (fun other otherShown => ?_) isShown
  rw [← applies_shown numbered resolved] at otherShown
  exact applies_of_keeps wide (fun id _ _ _ => kept id) (fun _ _ applies => applies) otherShown

/-! ### The attributes behind a node -/

/-- Two assignments agree on all attributes that a node waits for, however many others wait in
between. -/
def AgreeBehind (catalog : Catalog) (node : Node) (first second : Assignment) : Prop :=
  ∀ position entry, Relation.TransGen catalog.Depends node (.attribute position) →
    catalog.attributes[position]? = some entry → first.get? entry.2.id = second.get? entry.2.id

theorem AgreeBehind.symm (agree : catalog.AgreeBehind node first second) :
    catalog.AgreeBehind node second first :=
  fun position entry behind there => (agree position entry behind there).symm

open Classical in
/-- Of the nodes that apply, one node and those that it waits for. -/
noncomputable def behind (catalog : Catalog) (node : Node) (valuation : Valuation) : Valuation :=
  fun other => valuation other && decide (Relation.ReflTransGen catalog.Depends node other)

theorem behind_iff {valuation : Valuation} {other : Node} :
    catalog.behind node valuation other = true
      ↔ valuation other = true ∧ Relation.ReflTransGen catalog.Depends node other := by
  simp only [behind, Bool.and_eq_true, decide_eq_true_eq]

/-- What is shown behind a node, and the node itself, is shown under every assignment that agrees
on it: nothing that lies elsewhere is needed for it. -/
theorem shown_of_agreeBehind (numbered : catalog.IsNumbered) {report other : VisibilityReport}
    (agree : catalog.AgreeBehind node first second)
    (resolved : catalog.resolve first kind = .ok report)
    (resolvedToo : catalog.resolve second kind = .ok other)
    (isShown : catalog.shown first kind node = true) : catalog.shown second kind node = true := by
  have start : catalog.behind node (catalog.shown first kind) node = true :=
    behind_iff.mpr ⟨isShown, .refl⟩
  refine le_shown numbered resolvedToo (fun reader inside => ?_) start
  obtain ⟨readerShown, reached⟩ := behind_iff.mp inside
  rw [← applies_shown numbered resolved] at readerShown
  refine applies_of_keeps (Or.inl rfl) (fun id read position named value found => ?_)
    (fun next depends applies => ?_) readerShown
  · obtain ⟨entry, there, rfl⟩ := getElem?_of_position? named
    have depends : catalog.Depends reader (.attribute position) :=
      .reads reader _ position read named
    rw [← agree position entry (Relation.TransGen.tail' reached depends) there]
    exact found
  · exact behind_iff.mpr ⟨applies, reached.tail depends⟩

/-- **What lies elsewhere does not matter to a node**: it is shown under two assignments or under
none of them if they agree on all that it waits for. -/
theorem shown_eq_of_agree (numbered : catalog.IsNumbered) {report other : VisibilityReport}
    (agree : catalog.AgreeBehind node first second)
    (resolved : catalog.resolve first kind = .ok report)
    (resolvedToo : catalog.resolve second kind = .ok other) :
    catalog.shown first kind node = catalog.shown second kind node := by
  rw [Bool.eq_iff_iff]
  exact ⟨shown_of_agreeBehind numbered agree resolved resolvedToo,
    shown_of_agreeBehind numbered agree.symm resolvedToo resolved⟩

end Catalog

/-! ### Solutions -/

namespace Solution

/-- **More values hide nothing.** If a resolution is repeated under an assignment that keeps all
values and may add others, and for the same kind of node or for none, then all groups and attributes
are still reported, in the same order. -/
theorem resolve_monotone (solution : Solution) {less more : Assignment}
    {kind wider : Option NodeType} {report larger : VisibilityReport}
    (kept : ∀ id value, less.get? id = some value → more.get? id = some value)
    (wide : wider = kind ∨ wider = none) (resolved : solution.resolve less kind = .ok report)
    (resolvedMore : solution.resolve more wider = .ok larger) :
    report.groups.Sublist larger.groups ∧ report.attributes.Sublist larger.attributes
      ∧ ∀ node, (Catalog.ofSolution solution).shown less kind node = true →
          (Catalog.ofSolution solution).shown more wider node = true := by
  have numbered := Catalog.isNumbered_ofSolution solution
  have still := Catalog.shown_of_keeps numbered kept wide resolved resolvedMore
  refine ⟨?_, ?_, still⟩
  · rw [Catalog.report_shown numbered resolved, Catalog.report_shown numbered resolvedMore]
    exact Catalog.listed_sublist still _ _ _ _
  · rw [Catalog.report_shown numbered resolved, Catalog.report_shown numbered resolvedMore]
    exact Catalog.listed_sublist still .attribute
      (fun entry : Option Nat × Attribute => entry.2.id) 0 _

/-- A solution of two parts that both read the mode: the sizes of an image, and a shade and a tint
that may depend on each other. -/
def sizesAndShades : Solution where
  id := "look"
  name := "Look"
  scripts := []
  attributes := [
    .single ⟨"mode", "Mode", "Mode", "data-mode", none, none, none, .textInput none⟩,
    .group ⟨"Sizes", [⟨"width", "Width", "Width", "data-width", none, none, none,
      .textInput none⟩], some [.image], some [.leaf "mode" (.text "free")]⟩,
    .single ⟨"shade", "Shade", "Shade", "data-shade", none, none,
      some [.group .any [.leaf "mode" (.text "free"), .leaf "tint" (.text "1")]], .textInput none⟩,
    .single ⟨"tint", "Tint", "Tint", "data-tint", none, none,
      some [.leaf "shade" (.text "1")], .textInput none⟩]

/-- Of a heading without a shade only the mode and the shade are reported; more is once the shade is
given and no kind of node is asked for. -/
theorem resolve_monotone_sizesAndShades :
    sizesAndShades.resolve ⟨[("mode", .text "free")]⟩ (some .heading) = .ok ⟨[], ["mode", "shade"]⟩
      ∧ sizesAndShades.resolve ⟨[("mode", .text "free"), ("shade", .text "1")]⟩ none
        = .ok ⟨["Sizes"], ["mode", "width", "shade", "tint"]⟩
      ∧ ["mode", "shade"].Sublist ["mode", "width", "shade", "tint"] := by
  have fewer : sizesAndShades.resolve ⟨[("mode", .text "free")]⟩ (some .heading)
      = .ok ⟨[], ["mode", "shade"]⟩ := by
    decide +kernel
  have larger : sizesAndShades.resolve ⟨[("mode", .text "free"), ("shade", .text "1")]⟩ none
      = .ok ⟨["Sizes"], ["mode", "width", "shade", "tint"]⟩ := by
    decide +kernel
  have kept : ∀ id value, Assignment.get? ⟨[("mode", .text "free")]⟩ id = some value →
      Assignment.get? ⟨[("mode", .text "free"), ("shade", .text "1")]⟩ id = some value := by
    intro id value found
    simp only [Assignment.get?, lookup_field] at found ⊢
    split at found
    · rwa [if_pos ‹_›]
    · cases found
  exact ⟨fewer, larger, (resolve_monotone sizesAndShades kept (Or.inr rfl) fewer larger).2.1⟩

/-- **An attribute or a group is shown under two assignments or under none of them** if they agree
on all attributes that it waits for, whatever they say about others. Where ids are distinct, the id
of an attribute is then reported both times or not at all. -/
theorem shown_eq_of_agreeBehind (solution : Solution)
    (distinct : (solution.flat.map fun entry => entry.2.id).Nodup) {first second : Assignment}
    {kind : Option NodeType} {report other : VisibilityReport}
    (resolved : solution.resolve first kind = .ok report)
    (resolvedToo : solution.resolve second kind = .ok other) {node : Node}
    (agree : (Catalog.ofSolution solution).AgreeBehind node first second) :
    (Catalog.ofSolution solution).shown first kind node
        = (Catalog.ofSolution solution).shown second kind node
      ∧ report = (Catalog.ofSolution solution).report
          ((Catalog.ofSolution solution).shown first kind)
      ∧ other = (Catalog.ofSolution solution).report
          ((Catalog.ofSolution solution).shown second kind)
      ∧ ∀ position entry, node = .attribute position →
          (Catalog.ofSolution solution).attributes[position]? = some entry →
            (entry.2.id ∈ report.attributes ↔ entry.2.id ∈ other.attributes) := by
  have numbered := Catalog.isNumbered_ofSolution solution
  have same := Catalog.shown_eq_of_agree numbered agree resolved resolvedToo
  have listed := Catalog.report_shown numbered resolved
  have listedToo := Catalog.report_shown numbered resolvedToo
  rw [← Catalog.ids_ofSolution] at distinct
  refine ⟨same, listed, listedToo, ?_⟩
  rintro position entry rfl there
  rw [listed, listedToo, Catalog.report, Catalog.report]
  rw [Catalog.name_mem_listed_iff distinct there, Catalog.name_mem_listed_iff distinct there, same]

/-- The width waits for its group and for the mode, and for nothing else. -/
theorem behind_width {next : Node}
    (behind : Relation.TransGen (Catalog.ofSolution sizesAndShades).Depends (.attribute 1) next) :
    next = .group 0 ∨ next = .attribute 0 := by
  have ofWidth : (Catalog.ofSolution sizesAndShades).readsOf (.attribute 1) = [] := rfl
  have ofSizes : (Catalog.ofSolution sizesAndShades).readsOf (.group 0) = ["mode"] := rfl
  have ofMode : (Catalog.ofSolution sizesAndShades).readsOf (.attribute 0) = [] := rfl
  induction behind with
  | single depends =>
    cases depends with
    | reads _ id position read found => simp [ofWidth] at read
    | inside _ number declared there =>
      cases there
      exact Or.inl rfl
  | tail _ depends ih =>
    rcases ih with rfl | rfl
    · cases depends with
      | reads _ id position read found =>
        rw [ofSizes, List.mem_singleton] at read
        subst read
        cases found
        exact Or.inr rfl
    · cases depends with
      | reads _ id position read found => simp [ofMode] at read
      | inside _ number declared there => cases there

/-- The shade, and the tint that depends on it, do not matter to the width of an image. -/
theorem shown_eq_sizesAndShades :
    sizesAndShades.resolve ⟨[("mode", .text "free")]⟩ (some .image)
        = .ok ⟨["Sizes"], ["mode", "width", "shade"]⟩
      ∧ sizesAndShades.resolve ⟨[("mode", .text "free"), ("shade", .text "1")]⟩ (some .image)
        = .ok ⟨["Sizes"], ["mode", "width", "shade", "tint"]⟩
      ∧ (Catalog.ofSolution sizesAndShades).shown ⟨[("mode", .text "free")]⟩ (some .image)
          (.attribute 1)
        = (Catalog.ofSolution sizesAndShades).shown
          ⟨[("mode", .text "free"), ("shade", .text "1")]⟩ (some .image) (.attribute 1) := by
  have fewer : sizesAndShades.resolve ⟨[("mode", .text "free")]⟩ (some .image)
      = .ok ⟨["Sizes"], ["mode", "width", "shade"]⟩ := by
    decide +kernel
  have larger : sizesAndShades.resolve ⟨[("mode", .text "free"), ("shade", .text "1")]⟩
      (some .image) = .ok ⟨["Sizes"], ["mode", "width", "shade", "tint"]⟩ := by
    decide +kernel
  have agree : (Catalog.ofSolution sizesAndShades).AgreeBehind (.attribute 1)
      ⟨[("mode", .text "free")]⟩ ⟨[("mode", .text "free"), ("shade", .text "1")]⟩ := by
    intro position entry behind there
    rcases behind_width behind with same | same
    · cases same
    · cases same
      cases there
      rfl
  exact ⟨fewer, larger, (shown_eq_of_agreeBehind sizesAndShades (by decide) fewer larger agree).1⟩

end Solution

end PageAttributes
