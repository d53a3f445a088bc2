/-
**How lists and records are read.**

* `Begins` — what an item or a field may begin with;
* `readValue_bracket`, `readValue_brace` — a list or a record by its first character, from which
  `readValue_list`, `readValue_record`, `readValue_empty` and `readValue_tooDeep` follow;
* `readItems_last`, `readItems_more`, `readFields_last`, `readFields_more` — an item or a field by
  what follows it.
-/

import PageAttributes.Json.Printer
import PageAttributes.Json.Reader
import PageAttributes.Proofs.Json.Text

namespace PageAttributes.Json

/-- What is no blank is not skipped. -/
theorem skipBlank_cons {value : Char} (visible : value ∉ [' ', '\n', '\t', '\r'])
    (rest : List Symbol) : skipBlank (.char value :: rest) = .char value :: rest := by
  have plain : ¬ (value = ' ' ∨ value = '\n' ∨ value = '\t' ∨ value = '\r') := by
    simpa using visible
  rw [skipBlank, if_neg plain]

/-! ### What an item or a field begins with -/

/-- Symbols begin with a character that may begin an item or a field. -/
def Begins (symbols : List Symbol) : Prop :=
  ∃ first others, symbols = .char first :: others
    ∧ first ∉ [' ', '\n', '\t', '\r', ']', '}']

theorem Begins.skipBlank {symbols : List Symbol} (begins : Begins symbols) :
    skipBlank symbols = symbols := by
  obtain ⟨first, others, rfl, visible⟩ := begins
  refine skipBlank_cons (fun blank => visible ?_) others
  exact List.mem_append_left [']', '}'] blank

theorem Begins.ne_nil {symbols : List Symbol} (begins : Begins symbols) : symbols ≠ [] := by
  obtain ⟨first, others, rfl, _⟩ := begins
  exact List.cons_ne_nil _ _

theorem Begins.ne_cons {symbols : List Symbol} (begins : Begins symbols) {closing : Char}
    (closes : closing = ']' ∨ closing = '}') (others : List Symbol) :
    symbols ≠ .char closing :: others := by
  obtain ⟨first, more, rfl, visible⟩ := begins
  intro same
  obtain rfl : first = closing := Symbol.char.inj (List.cons.inj same).1
  obtain rfl | rfl := closes <;> simp at visible

/-- The written form of a text in front of something. -/
theorem symbolsOf_encode (text : String) (rest : List Symbol) :
    symbolsOf (encode text) ++ rest
      = .char '"' :: (symbolsOf (text.toList.flatMap encodeChar) ++ .char '"' :: rest) := by
  simp [encode]

/-- The written form of a text begins so. -/
theorem begins_encode (text : String) (rest : List Symbol) :
    Begins (symbolsOf (encode text) ++ rest) :=
  ⟨'"', _, symbolsOf_encode text rest, by decide⟩

/-! ### Lists and records by their first character -/

variable {attention : Attention}

/-- A bracket begins a list. -/
theorem readValue_bracket (asked : attention.isNone = false) (steps depth : Nat)
    (rest : List Symbol) :
    readValue (steps + 1) depth attention (.char '[' :: rest)
      = if depth ≤ 1 then Break.atOnce (.list []) (haltAt .tooDeep (.char '[' :: rest))
        else
          match skipBlank rest with
          | .char ']' :: rest => .ok (.list [], rest)
          | [] => Break.atOnce (.list []) (haltBefore .endInList [])
          | rest => readItems steps (depth - 1) attention [] rest := by
  rw [readValue, asked, if_neg Bool.false_ne_true, skipBlank_cons (by decide)]
  rfl

/-- A brace begins a record. -/
theorem readValue_brace (asked : attention.isNone = false) (steps depth : Nat)
    (rest : List Symbol) :
    readValue (steps + 1) depth attention (.char '{' :: rest)
      = if depth ≤ 1 then Break.atOnce (.record []) (haltAt .tooDeep (.char '{' :: rest))
        else
          match skipBlank rest with
          | .char '}' :: rest => .ok (.record [], rest)
          | [] => Break.atOnce (.record []) (haltBefore .endInRecord [])
          | rest => readFields steps (depth - 1) attention [] rest := by
  rw [readValue, asked, if_neg Bool.false_ne_true, skipBlank_cons (by decide)]
  rfl

/-- A list that is not empty begins with its bracket. -/
theorem readValue_list (asked : attention.isNone = false) (steps : Nat) {depth : Nat}
    (room : 1 < depth) {rest : List Symbol} (begins : Begins rest) :
    readValue (steps + 1) depth attention (.char '[' :: rest)
      = readItems steps (depth - 1) attention [] rest := by
  rw [readValue_bracket asked, if_neg (Nat.not_le_of_lt room), begins.skipBlank]
  split
  · exact (begins.ne_cons (.inl rfl) _ rfl).elim
  · exact (begins.ne_nil rfl).elim
  · rfl

/-- A record that is not empty begins with its brace. -/
theorem readValue_record (asked : attention.isNone = false) (steps : Nat) {depth : Nat}
    (room : 1 < depth) {rest : List Symbol} (begins : Begins rest) :
    readValue (steps + 1) depth attention (.char '{' :: rest)
      = readFields steps (depth - 1) attention [] rest := by
  rw [readValue_brace asked, if_neg (Nat.not_le_of_lt room), begins.skipBlank]
  split
  · exact (begins.ne_cons (.inr rfl) _ rfl).elim
  · exact (begins.ne_nil rfl).elim
  · rfl

/-- A list or a record may be empty. -/
theorem readValue_empty (asked : attention.isNone = false) (steps : Nat) {depth : Nat}
    (room : 1 < depth) (rest : List Symbol) :
    readValue (steps + 1) depth attention (.char '[' :: .char ']' :: rest) = .ok (.list [], rest)
      ∧ readValue (steps + 1) depth attention (.char '{' :: .char '}' :: rest)
        = .ok (.record [], rest) := by
  have notFull := Nat.not_le_of_lt room
  constructor
  · rw [readValue_bracket asked, if_neg notFull, skipBlank_cons (by decide)]
    rfl
  · rw [readValue_brace asked, if_neg notFull, skipBlank_cons (by decide)]
    rfl

/-- Where no room is left, a list or a record breaks the reading off. -/
theorem readValue_tooDeep (asked : attention.isNone = false) (steps : Nat) {depth : Nat}
    (full : depth ≤ 1) {bracket : Char} (opening : bracket = '[' ∨ bracket = '{')
    (rest : List Symbol) :
    ∃ halted, readValue (steps + 1) depth attention (.char bracket :: rest) = .error halted := by
  obtain rfl | rfl := opening
  · rw [readValue_bracket asked, if_pos full]
    exact ⟨_, rfl⟩
  · rw [readValue_brace asked, if_pos full]
    exact ⟨_, rfl⟩

/-! ### Items and fields -/

section Entries

variable {steps depth : Nat} {symbols left rest : List Symbol}

/-- The last item of a list. -/
theorem readItems_last {before : List Document} {item : Document}
    (reads : readValue steps depth (attention.ofItem before.length) symbols = .ok (item, left))
    (closes : skipBlank left = .char ']' :: rest) :
    readItems (steps + 1) depth attention before symbols
      = .ok (.list (item :: before).reverse, rest) := by
  rw [readItems, reads]
  simp only [closes]

/-- An item before others. -/
theorem readItems_more {before : List Document} {item : Document}
    (reads : readValue steps depth (attention.ofItem before.length) symbols = .ok (item, left))
    (continues : skipBlank left = .char ',' :: rest) (begins : Begins rest) :
    readItems (steps + 1) depth attention before symbols
      = readItems steps depth attention (item :: before) rest := by
  rw [readItems, reads]
  simp only [continues, begins.skipBlank]
  split
  · exact (begins.ne_cons (.inl rfl) _ rfl).elim
  · rfl

/-- An item that cannot be read. -/
theorem readItems_error {before : List Document} {broken : Break}
    (breaks : readValue steps depth (attention.ofItem before.length) symbols = .error broken) :
    ∃ halted, readItems (steps + 1) depth attention before symbols = .error halted := by
  rw [readItems, breaks]
  exact ⟨_, rfl⟩

variable {before : List (String × Document)} {key : String} {value : Document}

/-- The last field of a record. -/
theorem readFields_last
    (reads : readValue steps depth (attention.ofField key) symbols = .ok (value, left))
    (closes : skipBlank left = .char '}' :: rest) :
    readFields (steps + 1) depth attention before (symbolsOf (encode key) ++ .char ':' :: symbols)
      = .ok (.record ((key, value) :: before).reverse, rest) := by
  rw [readFields, symbolsOf_encode, skipBlank_cons (by decide)]
  simp only [readText_encode]
  rw [skipBlank_cons (by decide)]
  simp only [reads, closes]

/-- A field before others. -/
theorem readFields_more
    (reads : readValue steps depth (attention.ofField key) symbols = .ok (value, left))
    (continues : skipBlank left = .char ',' :: rest) (begins : Begins rest) :
    readFields (steps + 1) depth attention before (symbolsOf (encode key) ++ .char ':' :: symbols)
      = readFields steps depth attention ((key, value) :: before) rest := by
  rw [readFields, symbolsOf_encode, skipBlank_cons (by decide)]
  simp only [readText_encode]
  rw [skipBlank_cons (by decide)]
  simp only [reads, continues, begins.skipBlank]
  split
  · exact (begins.ne_cons (.inr rfl) _ rfl).elim
  · exact (begins.ne_nil rfl).elim
  · rfl

/-- A field whose value cannot be read. -/
theorem readFields_error {broken : Break}
    (breaks : readValue steps depth (attention.ofField key) symbols = .error broken) :
    ∃ halted, readFields (steps + 1) depth attention before
      (symbolsOf (encode key) ++ .char ':' :: symbols) = .error halted := by
  rw [readFields, symbolsOf_encode, skipBlank_cons (by decide)]
  simp only [readText_encode]
  rw [skipBlank_cons (by decide)]
  simp only [breaks]
  exact ⟨_, rfl⟩

end Entries

end PageAttributes.Json
