/-
**How long the chains of a solution may be.**

* `Catalog.IsDependencyChain` — attributes of which each one reads the next one, and between them
  the groups through whose conditions they do;
* `Validator.resolve_of_short_chains` — an accepted solution can be resolved if no such chain has
  more than 256 attributes and groups;
* `Catalog.Starts`, `Catalog.resolve_of_long_chain` — nothing is resolved if there is a longer one on
  which to decide a node is first of all to decide the next one.

The stack holds the groups beside the attributes. A group that no condition leads through is not
among them where a chain begins with an attribute, since groups are decided first.
-/

import PageAttributes.Proofs.RoundTrip
import PageAttributes.Proofs.Visibility.Accepted

namespace PageAttributes

open Wire Grammar

/-- Nothing is repeated in a chain of a relation without cycles. -/
theorem nodup_of_isChain {α : Type} {related : α → α → Prop}
    (acyclic : ∀ value, ¬ Relation.TransGen related value value) {values : List α}
    (chain : values.IsChain related) : values.Nodup := by
  have paths := List.isChain_iff_pairwise.mp
    (chain.imp fun first second step => Relation.TransGen.single (r := related) step)
  refine paths.imp fun path same => ?_
  exact acyclic _ (same ▸ path)

/-! ### Members of groups -/

namespace Catalog

variable {catalog : Catalog} {assignment : Assignment} {kind : Option NodeType}

/-- Every group has a member. -/
def IsInhabited (catalog : Catalog) : Prop :=
  ∀ number < catalog.groups.length, ∃ declared, (some number, declared) ∈ catalog.attributes

theorem exists_mem_numbered {nodes : List AttributeNode} {first number : Nat}
    (full : ∀ gathered, AttributeNode.group gathered ∈ nodes → gathered.attributes ≠ [])
    (inside : number < (nodes.filterMap AttributeNode.group?).length) :
    ∃ declared, (some (first + number), declared) ∈ numbered first nodes := by
  induction nodes generalizing first number with
  | nil => exact absurd inside (Nat.not_lt_zero number)
  | cons node rest ih =>
    have others : ∀ gathered, AttributeNode.group gathered ∈ rest → gathered.attributes ≠ [] :=
      fun gathered member => full gathered (List.mem_cons_of_mem node member)
    cases node with
    | single declared =>
      rw [AttributeNode.filterMap_single] at inside
      obtain ⟨member, listed⟩ := @ih first number others inside
      exact ⟨member, List.mem_cons_of_mem _ listed⟩
    | group gathered =>
      rw [numbered]
      cases number with
      | zero =>
        obtain ⟨member, listed⟩ :=
          List.exists_mem_of_ne_nil _ (full gathered List.mem_cons_self)
        exact ⟨member, List.mem_append_left _ (List.mem_map.mpr ⟨member, listed, rfl⟩)⟩
      | succ number =>
        rw [AttributeNode.filterMap_group, List.length_cons] at inside
        obtain ⟨member, listed⟩ := @ih (first + 1) number others (Nat.lt_of_succ_lt_succ inside)
        rw [show first + 1 + number = first + (number + 1) by omega] at listed
        exact ⟨member, List.mem_append_right _ listed⟩

/-- Where no group of a solution is empty, every group has a member. -/
theorem isInhabited_ofSolution {solution : Solution}
    (full : ∀ gathered, AttributeNode.group gathered ∈ solution.attributes →
      gathered.attributes ≠ []) : (ofSolution solution).IsInhabited := by
  intro number inside
  rw [ofSolution, Solution.groups_eq] at inside
  obtain ⟨declared, listed⟩ := @exists_mem_numbered _ 0 number full inside
  rw [Nat.zero_add] at listed
  exact ⟨declared, listed⟩

/-! ### Chains -/

/-- Attributes and groups that wait for one another, from an attribute to an attribute. An attribute
reads the next one through its own conditions, or through those of its group, which then stands
between the two. -/
structure IsDependencyChain (catalog : Catalog) (nodes : List Node) : Prop where
  chain : nodes.IsChain catalog.Depends
  known : ∀ node ∈ nodes, catalog.Has node
  begins : ∃ position, nodes.head? = some (.attribute position)
  ends : ∃ position, nodes.getLast? = some (.attribute position)

/-- Where no attribute reads itself over others, a chain has no more nodes than there are. -/
theorem IsDependencyChain.length_le (acyclic : catalog.outline.Acyclic) {nodes : List Node}
    (dependency : catalog.IsDependencyChain nodes) :
    nodes.length ≤ catalog.attributes.length + catalog.groups.length :=
  length_le_of_nodup (nodup_of_isChain (not_cyclic_of_acyclic acyclic) dependency.chain)
    dependency.known

/-- Only an attribute waits for a group. -/
theorem exists_attribute_of_depends {node : Node} {number : Nat}
    (depends : catalog.Depends node (.group number)) : ∃ position, node = .attribute position := by
  cases depends with
  | inside position => exact ⟨position, rfl⟩

/-- Where every group has been decided, only attributes wait. -/
theorem exists_attribute_of_resolved {session : Session} {node : Node}
    (resolved : ∀ number < catalog.groups.length, ∃ outcome,
      session.progress (.group number) = .resolved outcome)
    (known : catalog.Has node) (open_ : ∀ outcome, session.progress node ≠ .resolved outcome) :
    ∃ position, node = .attribute position := by
  match node with
  | .attribute position => exact ⟨position, rfl⟩
  | .group number =>
    obtain ⟨outcome, decided⟩ := resolved number known
    exact absurd decided (open_ outcome)

/-- In front of a chain that begins with a group a member of the group can be put. -/
theorem exists_member_chain (inhabited : catalog.IsInhabited) {nodes : List Node} {number : Nat}
    (waits : catalog.Waits nodes) (begins : nodes.head? = some (.group number)) :
    ∃ position, (.attribute position :: nodes).IsChain catalog.Depends
      ∧ ∀ node ∈ .attribute position :: nodes, catalog.Has node := by
  obtain ⟨declared, listed⟩ := inhabited number (waits.known _ (List.mem_of_head? begins))
  obtain ⟨position, there⟩ := List.mem_iff_getElem?.mp listed
  refine ⟨position, List.isChain_cons.mpr ⟨fun next isNext => ?_, waits.chain⟩,
    List.forall_mem_cons.mpr ⟨(List.getElem?_eq_some_iff.mp there).1, waits.known⟩⟩
  cases begins.symm.trans isNext
  exact .inside position number declared there

/-- Of waiting nodes, all but a group at the end of them end with an attribute. -/
theorem Waits.exists_last {nodes : List Node} {node : Node}
    (waits : catalog.Waits (nodes ++ [node])) (nonempty : nodes ≠ []) :
    (∃ position, (nodes ++ [node]).getLast? = some (.attribute position))
      ∨ ∃ position, nodes.getLast? = some (.attribute position) := by
  match node with
  | .attribute position => exact Or.inl ⟨position, List.getLast?_concat⟩
  | .group number =>
    right
    have isLast := List.getLast?_eq_some_getLast nonempty
    have next := (List.isChain_append.mp waits.chain).2.2 _ isLast (.group number) rfl
    obtain ⟨position, same⟩ := exists_attribute_of_depends next
    exact ⟨position, same ▸ isLast⟩

/-- Behind a group and in front of a member of it, waiting nodes make up a dependency chain, from
which at most a group at the end is left out. -/
theorem exists_chain_of_group (inhabited : catalog.IsInhabited) {nodes : List Node} {node : Node}
    {number : Nat} (before : catalog.Waits nodes) (waits : catalog.Waits (nodes ++ [node]))
    (begins : nodes.head? = some (.group number)) :
    ∃ chain, catalog.IsDependencyChain chain ∧ nodes.length < chain.length := by
  have nonempty : nodes ≠ [] := by
    rintro rfl
    cases begins
  rcases waits.exists_last nonempty with ⟨target, ends⟩ | ⟨target, ends⟩
  · have first : (nodes ++ [node]).head? = some (.group number) := by
      rw [List.head?_append, begins, Option.some_or]
    obtain ⟨position, chain, known⟩ := exists_member_chain inhabited waits first
    refine ⟨_, ⟨chain, known, ⟨position, rfl⟩, target, ?_⟩, ?_⟩
    · rw [List.getLast?_cons, ends, Option.getD_some]
    · rw [List.length_cons, List.length_append]
      omega
  · obtain ⟨position, chain, known⟩ := exists_member_chain inhabited before begins
    refine ⟨_, ⟨chain, known, ⟨position, rfl⟩, target, ?_⟩, ?_⟩
    · rw [List.getLast?_cons, ends, Option.getD_some]
    · rw [List.length_cons]
      exact Nat.lt_succ_self _

/-- Attributes that wait for one another make up a dependency chain. -/
theorem Waits.isDependencyChain {nodes : List Node} (waits : catalog.Waits nodes)
    (nonempty : nodes ≠ []) (attributes : ∀ node ∈ nodes, ∃ position, node = .attribute position) :
    catalog.IsDependencyChain nodes := by
  refine ⟨waits.chain, waits.known, ?_, ?_⟩
  · obtain ⟨position, same⟩ := attributes _ (List.head_mem nonempty)
    exact ⟨position, same ▸ List.head?_eq_some_head nonempty⟩
  · obtain ⟨position, same⟩ := attributes _ (List.getLast_mem nonempty)
    exact ⟨position, same ▸ List.getLast?_eq_some_getLast nonempty⟩

/-- Where one more node is waited for than waits, there is a dependency chain that is longer than
the stack. -/
theorem Halts.exists_chain {error : VisibilityError} {session : Session}
    (halts : catalog.Halts assignment kind error session) (inhabited : catalog.IsInhabited)
    {node : Node} (pending : session.progress node = .pending)
    (waits : catalog.Waits (session.stack.reverse ++ [node])) :
    ∃ nodes, catalog.IsDependencyChain nodes ∧ session.stack.length < nodes.length := by
  rcases halts.groupsFirst with ⟨number, bottom⟩ | resolved
  · have begins : session.stack.reverse.head? = some (.group number) := by
      rw [List.head?_reverse, bottom]
    rw [← List.length_reverse]
    exact exists_chain_of_group inhabited halts.invariant.waits waits begins
  · -- Every group has been decided, so that only attributes wait.
    have attributes : ∀ other ∈ session.stack.reverse ++ [node],
        ∃ position, other = .attribute position := by
      intro other member
      refine exists_attribute_of_resolved resolved (waits.known other member) fun outcome decided => ?_
      rcases List.mem_append.mp member with inside | same
      · rw [(halts.invariant.open_ other).mpr (List.mem_reverse.mp inside)] at decided
        cases decided
      · rw [List.mem_singleton.mp same, pending] at decided
        cases decided
    have nonempty := List.append_ne_nil_of_right_ne_nil session.stack.reverse
      (List.cons_ne_nil node [])
    refine ⟨_, waits.isDependencyChain nonempty attributes, ?_⟩
    rw [List.length_append, List.length_reverse]
    exact Nat.lt_succ_self _

end Catalog

/-! ### Accepted solutions -/

/-- In what a well-shaped document spells no group of attributes is empty. -/
theorem Schema.attributes_ne_nil_of_spells {strict : Bool} {fields : Fields} {schema : Schema}
    (valid : ValidSchema strict fields) (spelled : schema.Spells fields) {solution : Solution}
    (among : solution ∈ schema.solutions) {gathered : AttributeGroup}
    (member : AttributeNode.group gathered ∈ solution.attributes) : gathered.attributes ≠ [] := by
  obtain ⟨its, validNode, type, spelledGroup⟩ := Schema.exists_validNode valid spelled among member
  cases validNode with
  | single isAttribute =>
    rw [isAttribute] at type
    simp at type
  | group _ validGroup =>
    obtain ⟨items, listed, each⟩ := spelledGroup.attributes
    obtain ⟨others, same, nonempty, _⟩ := validGroup.members
    cases listed.symm.trans same
    rintro empty
    rw [empty] at each
    cases each
    exact nonempty rfl

namespace Validator

/-- **An accepted solution can be resolved if no dependency chain has more than 256 attributes and
groups**, however the attributes are spread over groups and in whatever order they are declared. -/
theorem resolve_of_short_chains {validator : Validator} {document : Document} {schema : Schema}
    {solution : Solution} (canonical : document.IsCanonical)
    (detects : validator.detectCycles = true) (accepted : validator.validate document = .ok schema)
    (member : solution ∈ schema.solutions)
    (short : ∀ nodes, (Catalog.ofSolution solution).IsDependencyChain nodes → nodes.length ≤ 256)
    (assignment : Assignment) (kind : Option NodeType) :
    ∃ report, solution.resolve assignment kind = .ok report := by
  cases resolved : solution.resolve assignment kind with
  | ok report => exact ⟨report, rfl⟩
  | error error =>
    obtain ⟨sound, acyclic, shallow⟩ := keeps_of_validate canonical detects accepted member
    obtain ⟨session, halts⟩ :=
      Catalog.justified_of_resolve (Catalog.isNumbered_ofSolution solution) resolved
    obtain ⟨_, full, node, pending, waits⟩ := halts.full sound acyclic shallow
    obtain ⟨fields, rfl, spelled, ⟨_, ⟨⟩, valid⟩, _⟩ := exists_spells canonical accepted
    have inhabited : (Catalog.ofSolution solution).IsInhabited :=
      Catalog.isInhabited_ofSolution fun gathered inside =>
        Schema.attributes_ne_nil_of_spells valid spelled member inside
    obtain ⟨nodes, chain, long⟩ := halts.exists_chain inhabited pending waits
    have limit := short nodes chain
    rw [full, chainLimit] at long
    omega

/-- No chain of the page whose width may be set once it is wide is too long. -/
theorem resolve_of_short_chains_widthPage :
    (∀ nodes, (Catalog.ofSolution widthSolution).IsDependencyChain nodes → nodes.length ≤ 256)
      ∧ ∃ report, widthSolution.resolve ⟨[("wide", .text "yes")]⟩ none = .ok report := by
  have short : ∀ nodes, (Catalog.ofSolution widthSolution).IsDependencyChain nodes →
      nodes.length ≤ 256 := by
    intro nodes dependency
    have acyclic := (keeps_of_validate isCanonical_widthPage rfl validate_widthPage (.head _)).2.1
    exact (dependency.length_le acyclic).trans (by decide)
  exact ⟨short, resolve_of_short_chains isCanonical_widthPage rfl validate_widthPage (.head _) short
    ⟨[("wide", .text "yes")]⟩ none⟩

end Validator

/-! ### Chains that are too long -/

namespace Catalog

variable {catalog : Catalog} {assignment : Assignment} {kind : Option NodeType}

/-- To decide a node is first of all to decide another one. -/
def Starts (catalog : Catalog) (assignment : Assignment) (kind : Option NodeType)
    (node next : Node) : Prop :=
  ∀ room, ∃ later, decideBegun catalog assignment kind room node
    = visible catalog assignment kind room next >>= later

/-- To decide an attribute in a group is first of all to decide the group. -/
theorem starts_inside {position number : Nat} {declared : Attribute}
    (there : catalog.attributes[position]? = some (some number, declared)) :
    catalog.Starts assignment kind (.attribute position) (.group number) := by
  intro room
  rw [decideBegun, there]
  exact ⟨_, rfl⟩

/-- To decide a group whose first condition is a leaf is first of all to decide what it reads. -/
theorem starts_reads {number position : Nat} {gathered : AttributeGroup} {id : String}
    {expected : ConditionValue} {rest : List Condition}
    (there : catalog.groups[number]? = some gathered)
    (conditions : gathered.conditions = some (.leaf id expected :: rest))
    (admitted : admits gathered.nodeTypes kind = true) (found : catalog.position? id = some position) :
    catalog.Starts assignment kind (.group number) (.attribute position) := by
  intro room
  have shallow : ¬ Condition.depthLimit < 1 := by decide
  simp only [decideBegun, there, restrictionsHold, admitted, conditions, Option.getD_some,
    Condition.allHoldReading, Condition.holdsReading, if_pos, if_neg shallow, readWith, found,
    bind_assoc]
  exact ⟨_, rfl⟩

/-- If more nodes are pending behind a node, each one on the way to decide the one before it, than
there is room for, the node cannot be decided. -/
theorem ends_visible_of_chain {room : Nat} {node : Node} {nodes : List Node} {session : Session}
    (chain : (node :: nodes).IsChain (catalog.Starts assignment kind))
    (distinct : (node :: nodes).Nodup)
    (pending : ∀ other ∈ node :: nodes, session.progress other = .pending)
    (long : room ≤ nodes.length) :
    Ends (visible catalog assignment kind room node) session (fun _ _ => False)
      fun error _ => error = .tooDeep chainLimit := by
  induction room generalizing node nodes session with
  | zero =>
    rw [visible_zero]
    refine ends_get_bind ?_
    rw [pending node List.mem_cons_self]
    exact ends_throw rfl
  | succ room ih =>
    cases nodes with
    | nil => exact absurd long (Nat.not_succ_le_zero room)
    | cons next rest =>
      obtain ⟨starts, chain⟩ := List.isChain_cons_cons.mp chain
      obtain ⟨outside, distinct⟩ := List.nodup_cons.mp distinct
      obtain ⟨later, first⟩ := starts room
      have still : ∀ other ∈ next :: rest, (session.enter node).progress other = .pending := by
        intro other member
        have different : other ≠ node := fun same => outside (same ▸ member)
        rw [Session.progress_enter, Session.progress_note_other different]
        exact pending other (List.mem_cons_of_mem node member)
      rw [visible_succ]
      refine ends_get_bind ?_
      rw [pending node List.mem_cons_self]
      refine ends_modify_bind (Ends.bind ?_)
      rw [first]
      refine Ends.bind ((ih chain distinct still (Nat.le_of_succ_le_succ long)).mono ?_)
      exact fun _ _ impossible => impossible.elim

/-- **Nothing is resolved if a chain of too many nodes hangs on the first group.** -/
theorem resolve_of_long_chain (nonempty : catalog.groups ≠ []) {nodes : List Node}
    (chain : (.group 0 :: nodes).IsChain (catalog.Starts assignment kind))
    (distinct : (.group 0 :: nodes).Nodup) (long : chainLimit ≤ nodes.length) :
    catalog.resolve assignment kind = .error (.tooDeep chainLimit) := by
  have pending : ∀ other ∈ .group 0 :: nodes,
      (Session.initial catalog).progress other = .pending :=
    fun other _ => Session.progress_initial catalog other
  have first := ends_visible_of_chain chain distinct pending long
  have all : Ends (catalog.resolving assignment kind) (Session.initial catalog) (fun _ _ => False)
      fun error _ => error = .tooDeep chainLimit := by
    obtain ⟨group, rest, same⟩ := List.exists_cons_of_ne_nil nonempty
    unfold resolving
    dsimp only
    rw [same, visibleAmong]
    refine Ends.bind (Ends.bind (first.mono ?_))
    exact fun _ _ impossible => impossible.elim
  unfold Ends at all
  unfold resolve
  rcases ended : (catalog.resolving assignment kind).run (Session.initial catalog)
    with ⟨error | report, after⟩
  · rw [ended] at all
    rw [show error = .tooDeep chainLimit from all]
  · rw [ended] at all
    exact all.elim

end Catalog

end PageAttributes
