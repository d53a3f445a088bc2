/-
**Blank characters.**

* `isBlank` — whether a character is a space, a line break or another separator without a picture;
* `isAllBlank` — whether a text has nothing else.
-/

import PageAttributes.Text.Ranges

namespace PageAttributes.Text

/-- The blanks of every script. -/
def blanks : Ranges := [
  (0x9, 0xd), (0x20, 0x20), (0x85, 0x85), (0xa0, 0xa0), (0x1680, 0x1680), (0x2000, 0x200a),
  (0x2028, 0x2029), (0x202f, 0x202f), (0x205f, 0x205f), (0x3000, 0x3000)]

/-- The character is a blank. -/
def isBlank (value : Char) : Bool := blanks.contains value

/-- The text has no character but blanks. -/
def isAllBlank (text : String) : Bool := text.toList.all isBlank

end PageAttributes.Text
