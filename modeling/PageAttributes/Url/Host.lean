/-
**Hosts of URLs.**

The host of a URL that browsers know is a name or an address; the host of any other URL is an address
in brackets or a text of which little is asked.

* `hostProblem?` — what is wrong with a host that browsers look up;
* `opaqueHostProblem?` — what is wrong with any other host.
-/

import PageAttributes.Url.Address
import PageAttributes.Url.Name.Labels
import PageAttributes.Url.Problem

namespace PageAttributes.Url

open Text

/-- The bytes of a text in which a percent sign and two hexadecimal digits write a byte. -/
def percentDecoded : List Char → List UInt8
  | [] => []
  | '%' :: first :: second :: rest =>
    match hexadecimal? first, hexadecimal? second with
    | some high, some low => UInt8.ofNat (high * 16 + low) :: percentDecoded rest
    | _, _ => '%'.toUInt8 :: percentDecoded (first :: second :: rest)
  | value :: rest => String.utf8EncodeChar value ++ percentDecoded rest

/-- The text that bytes write, if they are UTF-8. -/
def ofBytes? (bytes : List UInt8) : Option (List Char) :=
  (String.fromUTF8? ⟨bytes.toArray⟩).map String.toList

/-- What is wrong with an address in brackets, of which the first is given to be there. -/
def bracketProblem? (inside : List Char) : Option Problem :=
  if inside.getLast? = some ']' ∧ Address6.isValid inside.dropLast then none
  else some .badAddress6

/-- What is wrong with the labels of a name. -/
def nameProblem? (labels : List (List Char)) : Option Problem :=
  if labels.all List.isEmpty && labels.length ≤ 1 then some .emptyHost
  else if Address4.isNumeric labels && !Address4.isValid labels then some .badAddress4
  else none

/-- What is wrong with a host that browsers look up. -/
def hostProblem? : List Char → Option Problem
  | '[' :: inside => bracketProblem? inside
  | host =>
    match (ofBytes? (percentDecoded host)).bind Name.labels? with
    | some labels => nameProblem? labels
    | none => some .badDomain

/-- The characters that no host holds. -/
def isForbiddenInHost (value : Char) : Bool :=
  "\x00\t\n\r #/:<>?@[\\]^|".toList.contains value

/-- What is wrong with any other host. -/
def opaqueHostProblem? : List Char → Option Problem
  | '[' :: inside => bracketProblem? inside
  | host => if host.any isForbiddenInHost then some .badDomainCharacter else none

end PageAttributes.Url
