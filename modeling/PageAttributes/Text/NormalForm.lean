/-
**The normal form of a text.**

Texts that look the same and mean the same may be written with different characters. The normal form
takes every character apart, puts the marks on each in the order of their classes, and puts together
what is made of a character and a mark that nothing keeps from it.

* `arranged` — the marks in the order of their classes;
* `composed` — a text put together;
* `normalForm` — the normal form.
-/

import PageAttributes.Text.Combining
import PageAttributes.Text.Decomposition

namespace PageAttributes.Text

/-- Puts a character before a text whose marks are arranged: behind the marks of lower classes. -/
def insertMark (value : Char) : List Char → List Char
  | [] => [value]
  | next :: rest =>
    if !startsAnew next && combiningClass next < combiningClass value then
      next :: insertMark value rest
    else value :: next :: rest

/-- The marks of a text in the order of their classes, those of one class as they stand. -/
def arranged (text : List Char) : List Char := text.foldr insertMark []

/-- No mark between a character and `value` keeps them apart: all are of lower classes. -/
def reaches (between : List Char) (value : Char) : Bool :=
  between.all fun mark => combiningClass mark < combiningClass value

/-- A text put together from a character on; `between` has the marks behind it that are not part of
it, the nearest first. -/
def composedFrom (start : Char) (between : List Char) : List Char → List Char
  | [] => start :: between.reverse
  | value :: rest =>
    match if reaches between value then composite? start value else none with
    | some composite => composedFrom composite between rest
    | none =>
      if startsAnew value then start :: (between.reverse ++ composedFrom value [] rest)
      else composedFrom start (value :: between) rest

/-- A text put together. -/
def composed : List Char → List Char
  | [] => []
  | start :: rest => composedFrom start [] rest

/-- The code point of the first mark; a text of characters before it is in normal form. -/
def firstMark : Nat := 0x300

/-- The normal form of a text. -/
def normalForm (text : List Char) : List Char :=
  if text.all fun value => value.toNat < firstMark then text
  else composed (arranged (text.flatMap parts))

example : normalForm ['a', '\u0302', '\u0323'] = ['\u1ead'] := by decide +kernel

end PageAttributes.Text
