/-
**Ranges of code points.**

* `Ranges.contains` — whether a character is in one of the ranges.
-/

namespace PageAttributes.Text

/-- Ranges of code points, each with its first and its last. -/
abbrev Ranges := List (Nat × Nat)

/-- The character is in one of the ranges. -/
def Ranges.contains (ranges : Ranges) (value : Char) : Bool :=
  ranges.any fun range => range.1 ≤ value.toNat && value.toNat ≤ range.2

end PageAttributes.Text
