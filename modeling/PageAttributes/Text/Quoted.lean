/-
**Texts shown in quotes.**

In a report a text stands between double quotes, with everything escaped that could be mistaken or
could not be seen.

* `Text.quoted` — the form shown.
-/

import PageAttributes.Text.Unprintable

namespace PageAttributes.Text

/-- The escape of a character by its code point, in lower case hexadecimal digits. -/
def codePointEscape (value : Char) : List Char :=
  ['\\', 'u', '{'] ++ Nat.toDigits 16 value.toNat ++ ['}']

/-- A character as it is shown between quotes. -/
def quotedChar (value : Char) : List Char :=
  if value = '\x00' then ['\\', '0']
  else if value = '\t' then ['\\', 't']
  else if value = '\n' then ['\\', 'n']
  else if value = '\r' then ['\\', 'r']
  else if value = '"' then ['\\', '"']
  else if value = '\\' then ['\\', '\\']
  else if isUnprintable value then codePointEscape value
  else [value]

/-- A text between double quotes, as it is shown to a reader. -/
def quoted (text : String) : String :=
  String.ofList ('"' :: (text.toList.flatMap quotedChar ++ ['"']))

end PageAttributes.Text
