/-
**Powers of two and of ten.**
-/

namespace PageAttributes

/-- Two, multiplied by itself `exponent` times. -/
def twoTo (exponent : Nat) : Nat := Nat.pow 2 exponent

/-- Ten, multiplied by itself `exponent` times. -/
def tenTo (exponent : Nat) : Nat := Nat.pow 10 exponent

end PageAttributes
