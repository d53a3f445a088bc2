/-
**Reading the parts of a record.**

* `fieldSlot_of_lookup` — a field that is there once and can be read says its value;
* `fieldSlot_optional`, `fieldSlot_list`, `fieldSlot_optionalList` — the same for a field that may be
  left out, for a list, and for a list that may be left out;
* `readItems_of_forall₂` — parts that can be read one by one can be read together;
* `readTagged_of_lookup`, `readUnitVariant_name` — a known name leads to its variant.

Nothing is asked of the order of the fields, and a key that nobody asks for may lead to anything.
-/

import PageAttributes.Proofs.Wire.Spelling

namespace PageAttributes.Wire

open Grammar

variable {α : Type} {key : String} {read : Document → Result α} {fields : Fields}

@[simp] theorem ok_bind {β : Type} (value : α) (next : α → Result β) :
    (Except.ok value >>= next) = next value := rfl

/-! ### Slots -/

theorem nextPosition?_eq_none (fresh : key ∉ fields.map Prod.fst) (position : Nat) :
    nextPosition? key position fields = none := by
  induction fields generalizing position with
  | nil => rfl
  | cons field rest ih =>
    obtain ⟨different, freshRest⟩ := not_or.mp fun known => fresh (List.mem_cons.mpr known)
    rw [nextPosition?, if_neg (Ne.symm different), ih freshRest]

/-- Nothing is said under a key that is not there. -/
theorem fieldSlot_of_lookup_eq_none (missing : fields.lookup key = none) (position : Nat) :
    fieldSlot key read position fields = .absent := by
  induction fields generalizing position with
  | nil => rfl
  | cons field rest ih =>
    obtain ⟨other, value⟩ := field
    rw [lookup_field] at missing
    split at missing
    · cases missing
    · rename_i different
      rw [fieldSlot, if_neg different, ih missing]

/-- A field that is there once and can be read says its value. -/
theorem fieldSlot_of_lookup (unique : (fields.map Prod.fst).Nodup) {document : Document} {value : α}
    (found : fields.lookup key = some document) (readable : read document = .ok value)
    (position : Nat) : fieldSlot key read position fields = ⟨some value, none⟩ := by
  induction fields generalizing position with
  | nil => cases found
  | cons field rest ih =>
    obtain ⟨other, here⟩ := field
    obtain ⟨fresh, uniqueRest⟩ := List.nodup_cons.mp unique
    rw [lookup_field] at found
    split at found
    · rename_i same
      cases found
      subst same
      rw [fieldSlot, if_pos rfl, nextPosition?_eq_none fresh, readable]
      rfl
    · rename_i different
      rw [fieldSlot, if_neg different, ih uniqueRest found]

theorem fieldSlot_text (unique : (fields.map Prod.fst).Nodup) {value : String}
    (found : fields.lookup key = some (.text value)) (position : Nat) :
    fieldSlot key readText position fields = ⟨some value, none⟩ := by
  have readable : readText (.text value) = .ok value := rfl
  exact fieldSlot_of_lookup unique found readable position

/-- A field that may be left out says its value if it is there. -/
theorem fieldSlot_optional (unique : (fields.map Prod.fst).Nodup) {write : α → Document}
    {value : Option α} (found : fields.lookup key = value.map write)
    (readable : ∀ value, readOptional read (write value) = .ok (some value)) (position : Nat) :
    fieldSlot key (readOptional read) position fields = ⟨value.map some, none⟩ := by
  cases value with
  | none => exact fieldSlot_of_lookup_eq_none found position
  | some value => exact fieldSlot_of_lookup unique found (readable value) position

theorem readOptional_text (value : String) :
    readOptional readText (.text value) = .ok (some value) := rfl

theorem readOptional_flag (value : Bool) :
    readOptional readFlag (.flag value) = .ok (some value) := rfl

theorem readOptional_number (value : Numeral) :
    readOptional readNumber (.number value) = .ok (some value) := rfl

@[simp] theorem optional_map_some (value : Option α) (problem : Option (Nat × Mismatch)) :
    Parts.optional ⟨value.map some, problem⟩ = value := by
  cases value <;> rfl

/-! ### Lists -/

/-- Parts that can be read one by one can be read together. -/
theorem readItems_of_forall₂ {spells : Document → α → Prop} {items : List Document}
    {values : List α} (spelled : List.Forall₂ spells items values)
    (readable : ∀ item ∈ items, ∀ value, spells item value → read item = .ok value)
    (position : Nat) : readItems read position items = .ok values := by
  induction spelled generalizing position with
  | nil => rfl
  | cons first _ ih =>
    rw [readItems, readable _ (.head _) _ first,
      ih (fun item member => readable item (.tail _ member)) (position + 1)]
    rfl

/-- A list that may be left out is read as one that may not. -/
theorem readOptional_readList {items : List Document} {values : List α}
    (together : readItems read 0 items = .ok values) :
    readOptional (readList read) (.list items) = .ok (some values) := by
  show (readItems read 0 items).map some = _
  rw [together]
  rfl

/-- The list under a key says the values that it spells. -/
theorem fieldSlot_list (unique : (Document.record fields).HasUniqueKeys)
    {spells : Document → α → Prop} {values : List α} (listed : SpellsList spells fields key values)
    (readable : ∀ item value, item.HasUniqueKeys → spells item value → read item = .ok value)
    (position : Nat) :
    fieldSlot key (readList read) position fields = ⟨some values, none⟩ := by
  obtain ⟨items, there, spelled⟩ := listed
  have inside := unique.ofLookup there
  refine fieldSlot_of_lookup unique.1 there ?_ position
  exact readItems_of_forall₂ spelled
    (fun item member value => readable item value (inside.ofMem member)) 0

/-- The same for a list that may be left out. -/
theorem fieldSlot_optionalList (unique : (Document.record fields).HasUniqueKeys)
    {spells : Document → α → Prop} {values : Option (List α)}
    (listed : SpellsOption spells fields key values)
    (readable : ∀ item value, item.HasUniqueKeys → spells item value → read item = .ok value)
    (position : Nat) :
    fieldSlot key (readOptional (readList read)) position fields = ⟨values.map some, none⟩ := by
  cases values with
  | none => exact fieldSlot_of_lookup_eq_none listed position
  | some values =>
    obtain ⟨items, there, spelled⟩ := listed
    have inside := unique.ofLookup there
    refine fieldSlot_of_lookup unique.1 there (readOptional_readList ?_) position
    exact readItems_of_forall₂ spelled
      (fun item member value => readable item value (inside.ofMem member)) 0

/-! ### Variants -/

/-- Where no name repeats, a name leads to its variant. -/
theorem lookup_variants {nameOf : α → String} {every : List α}
    (unique : (every.map nameOf).Nodup) {variant : α} (member : variant ∈ every) :
    (every.map fun value => (nameOf value, value)).lookup (nameOf variant) = some variant := by
  refine lookup_of_mem ?_ (List.mem_map.mpr ⟨variant, member, rfl⟩)
  rw [List.map_map]
  exact unique

/-- A known name can be read. -/
theorem readUnitVariant_name {nameOf : α → String} {every : List α}
    (unique : (every.map nameOf).Nodup) {variant : α} (member : variant ∈ every)
    (medium : Medium) :
    readUnitVariant medium (every.map fun value => (nameOf value, value)) (.text (nameOf variant))
      = .ok variant := by
  rw [readUnitVariant, readVariant, lookup_variants unique member]

/-- The variant of a record is the one that its tag names. -/
theorem readTagged_of_lookup {tag name : String} {variants : List (String × α)}
    (unique : (fields.map Prod.fst).Nodup) (type : fields.lookup tag = some (.text name))
    (variant : α) (known : variants.lookup name = some variant) (medium : Medium)
    (label : String) :
    readTagged medium label tag variants (.record fields) = .ok (variant, .record fields) := by
  have readable : readVariant medium variants (.text name) = .ok variant := by
    rw [readVariant, known]
  rw [readTagged, fieldSlot_of_lookup unique type readable]
  rfl

end PageAttributes.Wire
