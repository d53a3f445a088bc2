/-
**Lists of values under sorted keys.**

A map from texts to values, as a list of pairs in strictly increasing key order. Keys are compared
code point by code point, which is the order of their UTF-8 bytes.

* `Keyed.put` — one value per key, the last one put wins, and the order is kept;
* `Keyed.without` — removes a key.

A value is found with `List.lookup`.
-/

namespace PageAttributes

/-- Values under text keys. -/
abbrev Keyed (α : Type) := List (String × α)

namespace Keyed

variable {α : Type}

/-- One text comes before another, code point by code point. -/
def Precedes (first second : String) : Prop := String.instLT.lt first second

instance : DecidableRel Precedes := fun first second => String.decidableLT first second

/-- Puts a value under a key, in place of an earlier value. -/
def put (key : String) (value : α) : Keyed α → Keyed α
  | [] => [(key, value)]
  | (other, held) :: rest =>
    if Precedes key other then (key, value) :: (other, held) :: rest
    else if key = other then (key, value) :: rest
    else (other, held) :: put key value rest

/-- All pairs, put in their order: of a repeated key the last value stays. -/
def ofPairs (pairs : List (String × α)) : Keyed α :=
  pairs.foldl (fun fields pair => put pair.1 pair.2 fields) []

/-- Removes a key. -/
def without (key : String) (fields : Keyed α) : Keyed α :=
  fields.filter fun field => field.1 != key

/-- The keys are strictly increasing. -/
def Sorted (fields : Keyed α) : Prop :=
  fields.Pairwise fun first second => Precedes first.1 second.1

end Keyed

end PageAttributes
