/-!
# Sets of code points

A set of characters of a standard is a list of ranges of code points.
-/

namespace MessageSchema

/-- Ranges of code points, each by its first and last one. -/
abbrev CodePoints := List (Nat × Nat)

/-- Whether one of the ranges has a character in it. -/
def CodePoints.covers (ranges : CodePoints) (c : Char) : Bool :=
  ranges.any fun (first, last) => first ≤ c.toNat && c.toNat ≤ last

end MessageSchema
