/-
**The labels of a domain name.**

A name is a list of labels with dots between them. It is read in any writing: characters are first
put for what they are written for, the whole is put into its normal form, and a label that is written
with ASCII letters alone is spelt out. A name is admitted if all its characters are, and every label
is well formed.

* `spelledOut?` — a label as its characters, whichever way it is written;
* `isWellFormed` — a label starts with no mark and its joiners mean something;
* `labels?` — the labels of a name.
-/

import PageAttributes.Text.NormalForm
import PageAttributes.Url.Name.Bootstring
import PageAttributes.Url.Name.Direction
import PageAttributes.Url.Name.Folding
import PageAttributes.Url.Name.Joining

namespace PageAttributes.Url.Name

open Text

/-- The characters of ASCII that no name holds: controls, blanks, and those with a meaning of their
own in a URL. -/
def isForbidden (value : Char) : Bool :=
  value.toNat ≤ 0x20 || value.toNat == 0x7F || "%#/:<>?@[\\]^|".toList.contains value

/-- The start of a label that is written with ASCII letters alone. -/
def mark : List Char := ['x', 'n', '-', '-']

/-- How many characters a label of ASCII may have after the start that says it is spelt. -/
def spellingLimit : Nat := 2000

/-- How many characters a label outside ASCII may have. -/
def lengthLimit : Nat := 1000

/-- The label has only characters of ASCII. -/
def isAscii (label : List Char) : Bool := label.all fun value => value.toNat < 0x80

/-- The label that a spelling stands for: it has a character outside ASCII, is not spelt again, and is
written as names are once they are read. -/
def ofSpelling? (spelling : List Char) : Option (List Char) :=
  if spellingLimit < spelling.length then none
  else do
    let label ← Bootstring.decode? spelling
    if isAscii label || mark.isPrefixOf label
      || !(label.all fun value => value.toNat < 0x80 || isKept value)
      || normalForm label != label then none
    else some label

/-- A label as its characters, whichever way it is written. -/
def spelledOut? (label : List Char) : Option (List Char) :=
  if mark.isPrefixOf label then
    if isAscii label then ofSpelling? (label.drop mark.length) else none
  else some label

/-- A label starts with no mark, its joiners mean something, and it is not too long to be spelt. -/
def isWellFormed (label : List Char) : Bool :=
  isAscii label
    || (!label.head?.any isMark && joinersFit label && decide (label.length ≤ lengthLimit))

/-- The parts of a text between its dots. -/
def splitAtDots (text : List Char) : List (List Char) :=
  text.foldr (fun value parts =>
    match parts with
    | part :: rest => if value = '.' then [] :: part :: rest else (value :: part) :: rest
    | [] => []) [[]]

/-- The labels of a name, if it is admitted. -/
def labels? (name : List Char) : Option (List (List Char)) := do
  let folded ← name.mapM fold
  let text := normalForm folded.flatten
  if text.any isForbidden then none
  else
    let labels ← (splitAtDots text).mapM spelledOut?
    if labels.all isWellFormed && (!labels.any hasRightward || labels.all runsOneWay) then
      some labels
    else none

-- The bracket is part of another character before the name is looked through for brackets.
example : labels? ['a', '<', '\u0338', 'b'] = some [['a', '\u226e', 'b']] := by decide +kernel

-- The label that this spells, an `a` with an acute accent after it, is not in its normal form.
example : labels? "xn--a-xbb".toList = none := by decide +kernel

end PageAttributes.Url.Name
