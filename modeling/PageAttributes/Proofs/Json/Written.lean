/-
**What is written of a document reads back.**

* `Attention.Covers` — everything in a document is asked for;
* `Reads` — a document is read if there is room for how deep it is nested, and else the reading
  breaks off;
* `reads_list`, `reads_record`, `reads_items`, `reads_fields` — from the parts of a document to the
  whole;
* `readValue_spell` — by induction over the document;
* `read_spell` — the same for a whole text.
-/

import PageAttributes.Proofs.Document.Nesting
import PageAttributes.Proofs.Json.Reader

namespace PageAttributes

open Json Document

/-! ### What is asked for -/

namespace Json.Attention

mutual

/-- Everything in a document is asked for. -/
def Covers (attention : Attention) : Document → Prop
  | .null => attention.isNone = false
  | .flag _ => attention.isNone = false
  | .number _ => attention.isNone = false
  | .text _ => attention.isNone = false
  | .list items => attention.isNone = false ∧ CoversItems attention 0 items
  | .record pairs => attention.isNone = false ∧ CoversFields attention pairs

/-- Everything in the items from a position on is asked for. -/
def CoversItems (attention : Attention) (position : Nat) : List Document → Prop
  | [] => True
  | item :: rest =>
    Covers (attention.ofItem position) item ∧ CoversItems attention (position + 1) rest

/-- Everything in the fields is asked for. -/
def CoversFields (attention : Attention) : List (String × Document) → Prop
  | [] => True
  | (key, value) :: rest => Covers (attention.ofField key) value ∧ CoversFields attention rest

end

mutual

/-- Who asks for everything asks for everything in a document. -/
theorem covers_full : ∀ document : Document, Covers .full document
  | .null => rfl
  | .flag _ => rfl
  | .number _ => rfl
  | .text _ => rfl
  | .list items => ⟨rfl, coversItems_full 0 items⟩
  | .record pairs => ⟨rfl, coversFields_full pairs⟩

theorem coversItems_full (position : Nat) : ∀ items : List Document,
    CoversItems .full position items
  | [] => trivial
  | item :: rest => ⟨covers_full item, coversItems_full (position + 1) rest⟩

theorem coversFields_full : ∀ pairs : List (String × Document), CoversFields .full pairs
  | [] => trivial
  | (_, value) :: rest => ⟨covers_full value, coversFields_full rest⟩

end

end Json.Attention

/-! ### Documents -/

namespace Json

variable {attention : Attention}

/-- What is read of a document that is nested so deep: the document and nothing behind it if there
is room for it, and else nothing. -/
structure Reads (document : Document) (nesting depth : Nat) (rest : List Symbol)
    (result : Reading Document) : Prop where
  fits : nesting < depth → ∃ left, result = .ok (document, left) ∧ skipBlank left = rest
  breaks : depth ≤ nesting → ∃ halted, result = .error halted

namespace Reads

variable {document : Document} {nesting depth : Nat} {rest left : List Symbol}
  {result : Reading Document}

theorem of_ok (room : nesting < depth) (same : result = .ok (document, left))
    (skipped : skipBlank left = rest) : Reads document nesting depth rest result where
  fits := fun _ => ⟨left, same, skipped⟩
  breaks := fun full => (Nat.not_le_of_lt room full).elim

theorem of_error (full : depth ≤ nesting) (halted : ∃ halted, result = .error halted) :
    Reads document nesting depth rest result where
  fits := fun room => (Nat.not_le_of_lt room full).elim
  breaks := fun _ => halted

/-- A list or a record takes the room of one level. -/
theorem enclosed (inner : Reads document nesting (depth - 1) rest result) (room : 1 < depth) :
    Reads document (nesting + 1) depth rest result where
  fits := fun fits => inner.fits (by omega)
  breaks := fun full => inner.breaks (by omega)

/-- Behind a part for which there is room it depends on the other parts. -/
theorem behind (others : Reads document nesting depth rest result) {first : Nat}
    (room : first < depth) : Reads document (max first nesting) depth rest result where
  fits := fun fits => others.fits (by omega)
  breaks := fun full => others.breaks (by omega)

end Reads

/-- The written form of a value begins with a character of its own. -/
theorem begins_spell (document : Document) (rest : List Symbol) :
    Begins (symbolsOf document.spell ++ rest) := by
  cases document with
  | null => exact ⟨'n', _, rfl, by decide⟩
  | flag value =>
    cases value
    · exact ⟨'f', _, rfl, by decide⟩
    · exact ⟨'t', _, rfl, by decide⟩
  | number value =>
    rw [spell]
    obtain ⟨others, written⟩ | ⟨first, others, written, digit⟩ := value.exists_write
    · rw [written]
      exact ⟨'-', _, rfl, by decide⟩
    · rw [written]
      refine ⟨first, _, rfl, ?_⟩
      simp [isDigit_ne digit]
  | text value => exact begins_encode value rest
  | list items => exact ⟨'[', _, rfl, by decide⟩
  | record fields => exact ⟨'{', _, rfl, by decide⟩

theorem spell_ne_nil (document : Document) : document.spell ≠ [] := by
  intro empty
  have begins := begins_spell document []
  rw [empty] at begins
  exact begins.ne_nil rfl

/-- Items behind the first are written behind a comma. -/
theorem spellMoreItems_cons (item : Document) (others : List Document) :
    spellMoreItems (item :: others) = ',' :: spellItems (item :: others) := by
  rw [spellMoreItems, spellItems]

/-- Fields behind the first are written behind a comma. -/
theorem spellMoreFields_cons (field : String × Document) (others : List (String × Document)) :
    spellMoreFields (field :: others) = ',' :: spellFields (field :: others) := by
  rw [spellMoreFields, spellFields]

theorem delimited_spellMoreItems (others : List Document) (rest : List Symbol) :
    Delimited (symbolsOf (spellMoreItems others) ++ rest) := by
  cases others with
  | nil => exact delimited_cons _ _ (.inr (.inl rfl))
  | cons item others => exact delimited_cons _ _ (.inl rfl)

theorem delimited_spellMoreFields (others : List (String × Document)) (rest : List Symbol) :
    Delimited (symbolsOf (spellMoreFields others) ++ rest) := by
  cases others with
  | nil => exact delimited_cons _ _ (.inr (.inr rfl))
  | cons field others => exact delimited_cons _ _ (.inl rfl)

theorem length_spellMoreItems_pos (others : List Document) : 0 < (spellMoreItems others).length := by
  cases others <;> simp [spellMoreItems]

theorem length_spellMoreFields_pos (others : List (String × Document)) :
    0 < (spellMoreFields others).length := by
  cases others <;> simp [spellMoreFields]

theorem length_spellMoreItems {others : List Document} (nonempty : others ≠ []) :
    (spellMoreItems others).length = (spellItems others).length + 1 := by
  obtain ⟨item, more, rfl⟩ := List.exists_cons_of_ne_nil nonempty
  rw [spellMoreItems_cons, List.length_cons]

theorem length_spellMoreFields {others : List (String × Document)} (nonempty : others ≠ []) :
    (spellMoreFields others).length = (spellFields others).length + 1 := by
  obtain ⟨field, more, rfl⟩ := List.exists_cons_of_ne_nil nonempty
  rw [spellMoreFields_cons, List.length_cons]

theorem begins_spellItems (item : Document) (others : List Document) (rest : List Symbol) :
    Begins (symbolsOf (spellItems (item :: others)) ++ rest) := by
  rw [spellItems, symbolsOf_append, List.append_assoc]
  exact begins_spell item _

theorem begins_spellFields (field : String × Document) (others : List (String × Document))
    (rest : List Symbol) : Begins (symbolsOf (spellFields (field :: others)) ++ rest) := by
  rw [spellFields, symbolsOf_append, List.append_assoc]
  exact begins_encode field.1 _

section Steps

variable {steps depth : Nat} {rest : List Symbol}

/-- A list is read if its items are. -/
theorem reads_list {items : List Document} (asked : attention.isNone = false) (room : 0 < depth)
    (delimited : Delimited rest)
    (inner : items ≠ [] → 0 < depth - 1 → Reads (.list items) (nestingOfItems items) (depth - 1) rest
      (readItems steps (depth - 1) attention [] (symbolsOf (spellItems items) ++ rest))) :
    Reads (.list items) (list items).nesting depth rest
      (readValue (steps + 1) depth attention (symbolsOf (list items).spell ++ rest)) := by
  rw [nesting]
  by_cases full : depth ≤ 1
  · have deep : depth ≤ nestingOfItems items + 1 := by omega
    exact .of_error deep (readValue_tooDeep asked steps full (.inl rfl) _)
  have inside : 1 < depth := Nat.lt_of_not_le full
  cases items with
  | nil =>
    have read := (readValue_empty asked steps inside rest).1
    exact .of_ok inside read (skipBlank_delimited delimited)
  | cons item others =>
    have begins := begins_spellItems item others rest
    rw [spell, symbolsOf_cons, List.cons_append, readValue_list asked steps inside begins]
    exact (inner (List.cons_ne_nil _ _) (Nat.sub_pos_of_lt inside)).enclosed inside

/-- A record is read if its fields are. -/
theorem reads_record {fields : List (String × Document)} (asked : attention.isNone = false)
    (room : 0 < depth) (delimited : Delimited rest)
    (inner : fields ≠ [] → 0 < depth - 1 →
      Reads (.record fields) (nestingOfFields fields) (depth - 1) rest
        (readFields steps (depth - 1) attention [] (symbolsOf (spellFields fields) ++ rest))) :
    Reads (.record fields) (record fields).nesting depth rest
      (readValue (steps + 1) depth attention (symbolsOf (record fields).spell ++ rest)) := by
  rw [nesting]
  by_cases full : depth ≤ 1
  · have deep : depth ≤ nestingOfFields fields + 1 := by omega
    exact .of_error deep (readValue_tooDeep asked steps full (.inr rfl) _)
  have inside : 1 < depth := Nat.lt_of_not_le full
  cases fields with
  | nil =>
    have read := (readValue_empty asked steps inside rest).2
    exact .of_ok inside read (skipBlank_delimited delimited)
  | cons field others =>
    have begins := begins_spellFields field others rest
    rw [spell, symbolsOf_cons, List.cons_append, readValue_record asked steps inside begins]
    exact (inner (List.cons_ne_nil _ _) (Nat.sub_pos_of_lt inside)).enclosed inside

/-- Items are read if the first is, and those behind it are. -/
theorem reads_items {item : Document} {others before : List Document} (delimited : Delimited rest)
    (first : Reads item item.nesting depth (symbolsOf (spellMoreItems others) ++ rest)
      (readValue steps depth (attention.ofItem before.length)
        (symbolsOf item.spell ++ (symbolsOf (spellMoreItems others) ++ rest))))
    (more : others ≠ [] → Reads (.list ((item :: before).reverse ++ others))
      (nestingOfItems others) depth rest
      (readItems steps depth attention (item :: before) (symbolsOf (spellItems others) ++ rest))) :
    Reads (.list (before.reverse ++ item :: others)) (nestingOfItems (item :: others)) depth rest
      (readItems (steps + 1) depth attention before
        (symbolsOf (spellItems (item :: others)) ++ rest)) := by
  rw [spellItems, symbolsOf_append, List.append_assoc, nestingOfItems]
  by_cases full : depth ≤ item.nesting
  · obtain ⟨broken, breaks⟩ := first.breaks full
    exact .of_error (Nat.le_trans full (Nat.le_max_left _ _)) (readItems_error breaks)
  have room : item.nesting < depth := Nat.lt_of_not_le full
  obtain ⟨left, reads, skipped⟩ := first.fits room
  rw [List.reverse_cons, List.append_assoc, List.singleton_append] at more
  cases others with
  | nil =>
    have last := readItems_last reads skipped
    rw [List.reverse_cons] at last
    exact .of_ok (by rwa [nestingOfItems, Nat.max_zero]) last (skipBlank_delimited delimited)
  | cons next others =>
    rw [spellMoreItems_cons] at skipped
    rw [readItems_more reads skipped (begins_spellItems next others rest)]
    exact (more (List.cons_ne_nil _ _)).behind room

/-- Fields are read if the first value is, and the fields behind it are. -/
theorem reads_fields {key : String} {value : Document} {others before : List (String × Document)}
    (delimited : Delimited rest)
    (first : Reads value value.nesting depth (symbolsOf (spellMoreFields others) ++ rest)
      (readValue steps depth (attention.ofField key)
        (symbolsOf value.spell ++ (symbolsOf (spellMoreFields others) ++ rest))))
    (more : others ≠ [] → Reads (.record (((key, value) :: before).reverse ++ others))
      (nestingOfFields others) depth rest
      (readFields steps depth attention ((key, value) :: before)
        (symbolsOf (spellFields others) ++ rest))) :
    Reads (.record (before.reverse ++ (key, value) :: others))
      (nestingOfFields ((key, value) :: others)) depth rest
      (readFields (steps + 1) depth attention before
        (symbolsOf (spellFields ((key, value) :: others)) ++ rest)) := by
  rw [spellFields, symbolsOf_append, List.append_assoc, symbolsOf_cons, List.cons_append,
    symbolsOf_append, List.append_assoc, nestingOfFields]
  by_cases full : depth ≤ value.nesting
  · obtain ⟨broken, breaks⟩ := first.breaks full
    exact .of_error (Nat.le_trans full (Nat.le_max_left _ _)) (readFields_error breaks)
  have room : value.nesting < depth := Nat.lt_of_not_le full
  obtain ⟨left, reads, skipped⟩ := first.fits room
  rw [List.reverse_cons, List.append_assoc, List.singleton_append] at more
  cases others with
  | nil =>
    have last := @readFields_last attention steps depth _ left rest before key value reads skipped
    rw [List.reverse_cons] at last
    exact .of_ok (by rwa [nestingOfFields, Nat.max_zero]) last (skipBlank_delimited delimited)
  | cons next others =>
    rw [spellMoreFields_cons] at skipped
    rw [readFields_more reads skipped (begins_spellFields next others rest)]
    exact (more (List.cons_ne_nil _ _)).behind room

end Steps

mutual

/-- The written form of a document is read as the document, or the reading breaks off. -/
theorem readValue_spell : ∀ (document : Document) {attention : Attention} (steps : Nat)
    {depth : Nat} {rest : List Symbol}, attention.Covers document →
    (∀ value ∈ document.numbers, value.Survives) → 2 * document.spell.length ≤ steps →
    0 < depth → Delimited rest →
    Reads document document.nesting depth rest
      (readValue steps depth attention (symbolsOf document.spell ++ rest))
  -- Every value is written with a symbol at least, so with no steps left none can be in front.
  | document, _, 0, _, _, _, _, enough, _, _ => by
    have written := List.length_pos_iff.mpr (spell_ne_nil document)
    omega
  | .null, _, steps + 1, depth, rest, covers, _, _, room, delimited =>
    .of_ok room (readValue_null covers steps depth rest) (skipBlank_delimited delimited)
  | .flag value, _, steps + 1, depth, rest, covers, _, _, room, delimited =>
    .of_ok room (readValue_flag covers steps depth value rest) (skipBlank_delimited delimited)
  | .number value, _, steps + 1, depth, _, covers, survive, _, room, delimited => by
    obtain ⟨left, reads, skipped⟩ :=
      (survive value (.head _)).readValue covers steps depth delimited
    exact .of_ok room reads skipped
  | .text value, _, steps + 1, depth, rest, covers, _, _, room, delimited =>
    .of_ok room (readValue_text covers steps depth value rest) (skipBlank_delimited delimited)
  | .list items, _, steps + 1, _, _, covers, survive, enough, room, delimited => by
    refine reads_list covers.1 room delimited fun nonempty inside => ?_
    rw [spell, List.length_cons] at enough
    exact readItems_spell items steps [] nonempty covers.2 survive (by omega) inside delimited
  | .record fields, _, steps + 1, _, _, covers, survive, enough, room, delimited => by
    refine reads_record covers.1 room delimited fun nonempty inside => ?_
    rw [spell, List.length_cons] at enough
    exact readFields_spell fields steps [] nonempty covers.2 survive (by omega) inside delimited

/-- The same for the items of a list, behind the items that have been read. -/
theorem readItems_spell : ∀ (items : List Document) {attention : Attention} (steps : Nat)
    {depth : Nat} {rest : List Symbol} (before : List Document), items ≠ [] →
    attention.CoversItems before.length items → (∀ value ∈ numbersOfItems items, value.Survives) →
    2 * (spellItems items).length ≤ steps → 0 < depth → Delimited rest →
    Reads (.list (before.reverse ++ items)) (nestingOfItems items) depth rest
      (readItems steps depth attention before (symbolsOf (spellItems items) ++ rest))
  | [], _, _, _, _, _, nonempty, _, _, _, _, _ => (nonempty rfl).elim
  | item :: others, _, 0, _, _, _, _, _, _, enough, _, _ => by
    have written := length_spellMoreItems_pos others
    rw [spellItems, List.length_append] at enough
    omega
  | item :: others, _, steps + 1, _, rest, before, _, covers, survive, enough, room,
      delimited => by
    have written := length_spellMoreItems_pos others
    rw [spellItems, List.length_append] at enough
    obtain ⟨here, behind⟩ := List.forall_mem_append.mp survive
    refine reads_items delimited ?_ fun nonempty => ?_
    · have closed := delimited_spellMoreItems others rest
      exact readValue_spell item steps covers.1 here (by omega) room closed
    · rw [length_spellMoreItems nonempty] at enough
      exact readItems_spell others steps (item :: before) nonempty covers.2 behind (by omega) room
        delimited

/-- The same for the fields of a record, behind the fields that have been read. -/
theorem readFields_spell : ∀ (fields : List (String × Document)) {attention : Attention}
    (steps : Nat) {depth : Nat} {rest : List Symbol} (before : List (String × Document)),
    fields ≠ [] → attention.CoversFields fields →
    (∀ value ∈ numbersOfFields fields, value.Survives) →
    2 * (spellFields fields).length ≤ steps → 0 < depth → Delimited rest →
    Reads (.record (before.reverse ++ fields)) (nestingOfFields fields) depth rest
      (readFields steps depth attention before (symbolsOf (spellFields fields) ++ rest))
  | [], _, _, _, _, _, nonempty, _, _, _, _, _ => (nonempty rfl).elim
  | (key, value) :: others, _, 0, _, _, _, _, _, _, enough, _, _ => by
    have written := length_spellMoreFields_pos others
    rw [spellFields, List.length_append, List.length_cons] at enough
    omega
  | (key, value) :: others, _, steps + 1, _, rest, before, _, covers, survive, enough, room,
      delimited => by
    have written := length_spellMoreFields_pos others
    rw [spellFields, List.length_append, List.length_cons, List.length_append] at enough
    obtain ⟨here, behind⟩ := List.forall_mem_append.mp survive
    refine reads_fields delimited ?_ fun nonempty => ?_
    · have closed := delimited_spellMoreFields others rest
      exact readValue_spell value steps covers.1 here (by omega) room closed
    · rw [length_spellMoreFields nonempty] at enough
      exact readFields_spell others steps ((key, value) :: before) nonempty covers.2 behind
        (by omega) room delimited

end

/-- **The written form of a document reads back** if it is not nested too deep; and if it is, the
reading breaks off. -/
theorem read_spell {document : Document} {depth : Nat} (covers : attention.Covers document)
    (survive : ∀ value ∈ document.numbers, value.Survives) (room : 0 < depth) :
    (document.nesting < depth →
      Json.read attention depth (symbolsOf document.spell) = .ok document)
    ∧ (depth ≤ document.nesting →
      ∃ halted, Json.read attention depth (symbolsOf document.spell) = .error halted) := by
  have enough : 2 * document.spell.length ≤ 2 * (symbolsOf document.spell).length + 2 := by
    rw [length_symbolsOf]
    exact Nat.le_add_right _ 2
  have reads := readValue_spell document _ covers survive enough room delimited_nil
  rw [List.append_nil] at reads
  constructor
  · intro fits
    obtain ⟨left, same, skipped⟩ := reads.fits fits
    exact (read_eq_ok_iff same).mpr ⟨skipped, rfl⟩
  · intro full
    obtain ⟨halted, same⟩ := reads.breaks full
    exact ⟨halted, by rw [Json.read, same]⟩

end Json

end PageAttributes
