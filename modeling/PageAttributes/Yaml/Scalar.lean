/-
**The three ways to write a scalar.**

* `readPlain` — words, over several lines, until something ends them;
* `readQuoted` — text in single or double quotes;
* `readBlock` — the indented lines after a header.
-/

import PageAttributes.Text.Digits
import PageAttributes.Yaml.Problem
import PageAttributes.Yaml.Spot

namespace PageAttributes.Yaml

open Text

/-! ### Plain scalars -/

/-- The brackets and the comma, which end words inside brackets. -/
def isFlowMark (value : Char) : Bool := ",[]\x7b\x7d".toList.contains value

/-- The characters of a word, and what follows it. A colon before a blank ends a word, and inside
brackets the brackets and commas do. -/
def readWord (bracketed : Bool) : List Spot → Except Problem (List Char × List Spot)
  | [] => .ok ([], [])
  | spot :: rest =>
    let next := (rest.head?.map Spot.value)
    if isGap spot.value then .ok ([], spot :: rest)
    else if bracketed && spot.value == ':' && next.any (fun next => isFlowMark next || next == '?')
    then .error .colonInBrackets
    else if (spot.value == ':' && atGap rest) || (bracketed && isFlowMark spot.value) then
      .ok ([], spot :: rest)
    else do
      let (word, rest) ← readWord bracketed rest
      .ok (spot.value :: word, rest)

/-- A tab stands in a line of its own before the column that the scalar must keep to. -/
def tabBefore (least : Nat) (gap : List Spot) : Bool :=
  (gap.dropWhile fun spot => isBlank spot.value).any fun spot =>
    spot.value == '\t' && decide (spot.column < least)

/-- What a scalar is: its text, whether it ended with a line, and what follows it. -/
structure Ended where
  text : List Char
  lineEnded : Bool
  rest : List Spot

/-- The words of a plain scalar, after the text `before` and a gap. Lines after the first keep to the
column `least`, unless they stand in brackets. -/
def readWords (bracketed : Bool) (least : Nat) :
    (rounds : Nat) → (before : List Char) → (gap text : List Spot) → Except Problem Ended
  | 0, before, gap, text => .ok ⟨before, gap.any fun spot => isBreak spot.value, text⟩
  | rounds + 1, before, gap, text => do
    let ended : Ended := ⟨before, gap.any fun spot => isBreak spot.value, text⟩
    let outside := !bracketed && text.head?.any fun spot => decide (spot.column < least)
    if (outside && !gap.isEmpty) || startsDocumentMark text
      || (text.head?.any fun spot => spot.value == '#') then .ok ended
    else
      match ← readWord bracketed text with
      | ([], _) => .ok ended
      | (word, rest) =>
        let sofar := before ++ foldGap gap ++ word
        let between := rest.takeWhile fun spot => isGap spot.value
        if between.isEmpty then .ok ⟨sofar, false, rest⟩
        else if tabBefore least between then .error .tabInIndentation
        else readWords bracketed least rounds sofar between (rest.drop between.length)

/-- Reads a plain scalar. -/
def readPlain (bracketed : Bool) (least : Nat) (text : List Spot) : Except Problem Ended :=
  readWords bracketed least text.length [] [] text

/-! ### Quoted scalars -/

/-- The characters that a letter after a backslash stands for. -/
def escapes : List (Char × Char) := [
  ('0', '\x00'), ('a', '\x07'), ('b', '\x08'), ('t', '\t'), ('\t', '\t'), ('n', '\n'),
  ('v', '\x0b'), ('f', '\x0c'), ('r', '\r'), ('e', '\x1b'), (' ', ' '), ('"', '"'), ('/', '/'),
  ('\\', '\\'), ('N', '\u0085'), ('_', '\u00a0'), ('L', '\u2028'), ('P', '\u2029')]

/-- The number of hexadecimal digits after a letter after a backslash. -/
def escapeLengths : List (Char × Nat) := [('x', 2), ('u', 4), ('U', 8)]

/-- The character that an escape stands for, after the backslash, and what follows it. -/
def readEscape : List Spot → Except Problem (Char × List Spot)
  | [] => .error .badEscape
  | letter :: rest =>
    match escapes.lookup letter.value, escapeLengths.lookup letter.value with
    | some value, _ => .ok (value, rest)
    | none, none => .error .badEscape
    | none, some length =>
      let digits := Spot.values (rest.take length)
      let code := ofDigits 16 digits
      if digits.length = length ∧ digits.all isHexadecimal ∧ code.isValidChar then
        .ok (Char.ofNat code, rest.drop length)
      else .error .badEscape

/-- The text of a quoted scalar after its opening quote, and what follows the closing quote. Between
words a line break is folded; after a backslash it is dropped. -/
def readQuotedAfter (quote : Char) :
    (rounds : Nat) → (before : List Char) → List Spot → Except Problem (List Char × List Spot)
  | 0, _, _ => .error .openQuote
  | _, _, [] => .error .openQuote
  | rounds + 1, before, spot :: rest =>
    let next := rest.head?.map Spot.value
    if startsDocumentMark (spot :: rest) then .error .openQuote
    else if isGap spot.value then
      let gap := (spot :: rest).takeWhile fun spot => isGap spot.value
      readQuotedAfter quote rounds (before ++ foldGap gap) ((spot :: rest).drop gap.length)
    else if spot.value = quote then
      if quote = '\'' ∧ next = some quote then
        readQuotedAfter quote rounds (before ++ [quote]) (rest.drop 1)
      else .ok (before, rest)
    else if quote = '"' ∧ spot.value = '\\' then
      if next.any isBreak then
        let gap := (rest.drop 1).takeWhile fun spot => isGap spot.value
        readQuotedAfter quote rounds (before ++ (Spot.values gap).filter isBreak)
          (rest.drop (gap.length + 1))
      else do
        let (value, rest) ← readEscape rest
        readQuotedAfter quote rounds (before ++ [value]) rest
    else readQuotedAfter quote rounds (before ++ [spot.value]) rest

/-- Reads a quoted scalar, after its opening quote. -/
def readQuoted (quote : Char) (text : List Spot) : Except Problem (List Char × List Spot) :=
  readQuotedAfter quote (text.length + 1) [] text

/-! ### Block scalars -/

/-- What becomes of the line breaks at the end of a block scalar. -/
inductive Chomping where
  | strip
  | clip
  | keep
deriving DecidableEq, Repr

/-- The header of a block scalar, and what follows it: how to chomp, and how far the lines are
indented if that is said. -/
def readHeader : List Spot → Except Problem (Chomping × Option Nat × List Spot)
  | text => do
    let chomping? (text : List Spot) : Option Chomping :=
      match text.head?.map Spot.value with
      | some '+' => some .keep
      | some '-' => some .strip
      | _ => none
    let digit? (text : List Spot) : Option Nat :=
      match text.head?.map Spot.value with
      | some value => if value.isDigit then some (value.toNat - '0'.toNat) else none
      | none => none
    let (chomping, further, rest) :=
      match chomping? text with
      | some chomping =>
        let rest := text.drop 1
        match digit? rest with
        | some digit => (chomping, some digit, rest.drop 1)
        | none => (chomping, none, rest)
      | none =>
        match digit? text with
        | some digit =>
          let rest := text.drop 1
          match chomping? rest with
          | some chomping => (chomping, some digit, rest.drop 1)
          | none => (.clip, some digit, rest)
        | none => (.clip, none, text)
    let rest := afterComment (afterBlanks rest)
    if further = some 0 ∨ !atLineEnd rest then .error .badBlockHeader
    else .ok (chomping, further, afterBreak rest)

/-- The line breaks before the next line that has text, the deepest indentation among the lines, and
what follows. With a known indentation only so many blanks belong to it. -/
def readBreaks (indentation : Option Nat) :
    (rounds deepest : Nat) → (breaks : List Char) → List Spot →
      Except Problem (List Char × Nat × List Spot)
  | 0, deepest, breaks, text => .ok (breaks, deepest, text)
  | rounds + 1, deepest, breaks, text =>
    let within := indentation.elim text text.take
    let column := (within.takeWhile fun spot => spot.value == ' ').length
    let rest := text.drop column
    let short := indentation.all fun indentation => decide (column < indentation)
    match rest with
    | [] => .ok (breaks, max deepest column, [])
    | spot :: after =>
      if short && spot.value == '\t' then .error .tabInIndentation
      else if isBreak spot.value then
        readBreaks indentation rounds (max deepest column) (breaks ++ [spot.value]) after
      else .ok (breaks, max deepest column, rest)

/-- What has been read of a block scalar: its text, the break after its last line, the breaks of the
empty lines after that, and whether that line started with a blank. -/
structure Lines where
  text : List Char
  lastBreak : List Char
  breaks : List Char
  blankFirst : Bool

/-- The text up to a line that starts with a blank or not. In a folded scalar one line break between
lines that start with no blank becomes a blank, and of several the first is dropped. -/
def Lines.joined (lines : Lines) (folded blankFirst : Bool) : List Char :=
  if folded && lines.lastBreak == ['\n'] && !lines.blankFirst && !blankFirst then
    lines.text ++ (if lines.breaks.isEmpty then [' '] else lines.breaks)
  else lines.text ++ lines.lastBreak ++ lines.breaks

/-- The lines of a block scalar with a known indentation. -/
def readLines (folded : Bool) (indentation : Nat) :
    (rounds : Nat) → Lines → List Spot → Except Problem (Lines × List Spot)
  | 0, lines, text => .ok (lines, text)
  | _, lines, [] => .ok (lines, [])
  | rounds + 1, lines, spot :: rest =>
    if spot.column ≠ indentation then .ok (lines, spot :: rest)
    else do
      let line := (spot :: rest).takeWhile fun spot => !isBreak spot.value
      let after := (spot :: rest).drop line.length
      let (breaks, _, following) ← readBreaks (some indentation) after.length 0 [] (afterBreak after)
      let blankFirst := isBlank spot.value
      readLines folded indentation rounds
        ⟨lines.joined folded blankFirst ++ Spot.values line, Spot.values (after.take 1), breaks,
          blankFirst⟩
        following

/-- Reads a block scalar, after its indicator. The lines are indented further than the column
`outer` of the collection around them, if there is one. -/
def readBlock (folded : Bool) (outer : Option Nat) (text : List Spot) :
    Except Problem (List Char × List Spot) := do
  let (chomping, further, rest) ← readHeader text
  let given := further.map (outer.getD 0 + ·)
  let (breaks, deepest, rest) ← readBreaks given rest.length 0 [] rest
  let least := max 1 (outer.elim 0 (· + 1))
  let indentation := given.getD (max deepest least)
  let (lines, rest) ← readLines folded indentation rest.length ⟨[], [], breaks, false⟩ rest
  let tail :=
    match chomping with
    | .strip => []
    | .clip => lines.lastBreak
    | .keep => lines.lastBreak ++ lines.breaks
  .ok (lines.text ++ tail, rest)

end PageAttributes.Yaml
