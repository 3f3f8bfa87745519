/-!
# Locations

Where a match stands in the input. Lines are counted from one and columns from zero.
-/

namespace LexGen

structure Location where
  firstLine : Nat
  firstColumn : Nat
  lastLine : Nat
  lastColumn : Nat
  /-- The number of characters before the match and up to its end, where ranges are kept. -/
  range : Option (Nat × Nat)
deriving DecidableEq, Repr, Inhabited

/-- The location before anything has been matched. -/
def Location.start (ranges : Bool) : Location where
  firstLine := 1
  firstColumn := 0
  lastLine := 1
  lastColumn := 0
  range := if ranges then some (0, 0) else none

end LexGen
