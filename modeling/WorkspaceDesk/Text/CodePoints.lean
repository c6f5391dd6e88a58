/-!
# Sets of code points

Properties of characters are given by tables of ranges. `CodePoints` is such a table; a character
belongs to it when its code point lies in one of the ranges, ends included.
-/

namespace WorkspaceDesk.Text

/-- A set of code points, given by ranges with both ends included. -/
structure CodePoints where
  /-- The ranges, in ascending order. -/
  ranges : List (Nat × Nat)

namespace CodePoints

/-- A code point is a member when one of the ranges covers it. -/
def covers (s : CodePoints) (n : Nat) : Bool :=
  s.ranges.any fun r => r.1 ≤ n && n ≤ r.2

/-- A character is a member when its code point is. -/
def contains (s : CodePoints) (c : Char) : Bool :=
  s.covers c.toNat

end CodePoints

end WorkspaceDesk.Text
