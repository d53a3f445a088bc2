/-
**Characters in their places.**

A text is read as a list of characters, each with its line and its column. Every line break but the
separators of lines and paragraphs counts as one line feed.

* `Spot.ofText` — the characters of a text in their places;
* `startsMark` — whether three dashes or dots stand at the start of a line.
-/

namespace PageAttributes.Yaml

/-- A character with its line and its column. -/
structure Spot where
  value : Char
  line : Nat
  column : Nat

/-- A blank inside a line. -/
def isBlank (value : Char) : Bool := value == ' ' || value == '\t'

/-- The end of a line. -/
def isBreak (value : Char) : Bool := value == '\n' || value == '\u2028' || value == '\u2029'

/-- A blank or the end of a line. -/
def isGap (value : Char) : Bool := isBlank value || isBreak value

/-- A letter, a digit, a dash or an underscore: the characters of names. -/
def isNameCharacter (value : Char) : Bool := value.isAlphanum || value == '-' || value == '_'

/-- The mark that may start a text or a line. -/
def byteOrderMark : Char := '\ufeff'

/-- Every way to end a line as one character. -/
def withPlainBreaks : List Char → List Char
  | [] => []
  | '\r' :: '\n' :: rest => '\n' :: withPlainBreaks rest
  | '\r' :: rest => '\n' :: withPlainBreaks rest
  | value :: rest => (if value == '\u0085' then '\n' else value) :: withPlainBreaks rest

namespace Spot

/-- The characters of a text in their places, from a place on. -/
def placed : (line column : Nat) → List Char → List Spot
  | _, _, [] => []
  | line, column, value :: rest =>
    ⟨value, line, column⟩
      :: if isBreak value then placed (line + 1) 0 rest else placed line (column + 1) rest

/-- The characters of a text in their places. A byte order mark at its start has no place. -/
def ofText (text : String) : List Spot :=
  match withPlainBreaks text.toList with
  | [] => []
  | first :: rest => placed 0 0 (if first = byteOrderMark then rest else first :: rest)

/-- The characters of spots. -/
def values (spots : List Spot) : List Char := spots.map Spot.value

end Spot

/-- The text has ended, or a blank or the end of a line comes next. -/
def atGap (text : List Spot) : Bool := (text.head?.map Spot.value).all isGap

/-- The text or the line has ended. -/
def atLineEnd (text : List Spot) : Bool := (text.head?.map Spot.value).all isBreak

/-- What follows the blanks. -/
def afterBlanks (text : List Spot) : List Spot := text.dropWhile fun spot => isBlank spot.value

/-- What follows a comment, if one starts here. -/
def afterComment : List Spot → List Spot
  | [] => []
  | spot :: rest =>
    if spot.value = '#' then rest.dropWhile fun spot => !isBreak spot.value else spot :: rest

/-- What follows the end of the line, if it comes next. -/
def afterBreak : List Spot → List Spot
  | [] => []
  | spot :: rest => if isBreak spot.value then rest else spot :: rest

/-- Three of a character stand at the start of a line, alone. -/
def startsMark (mark : Char) (text : List Spot) : Bool :=
  (text.head?.any fun spot => spot.column == 0)
    && Spot.values (text.take 3) == [mark, mark, mark] && atGap (text.drop 3)

/-- A mark of the start or the end of a document. -/
def startsDocumentMark (text : List Spot) : Bool := startsMark '-' text || startsMark '.' text

/-- The text between two words: blanks inside a line stay; one line break becomes a blank, and of
several the first is dropped. -/
def foldGap (gap : List Spot) : List Char :=
  match (Spot.values gap).filter isBreak with
  | [] => Spot.values gap
  | ['\n'] => [' ']
  | '\n' :: more => more
  | breaks => breaks

end PageAttributes.Yaml
