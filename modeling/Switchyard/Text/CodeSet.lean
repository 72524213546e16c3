/-!
  Sets of characters given by their edges: the sorted code points at which membership changes,
  starting from "outside".  A character is inside when an odd number of edges lies at or below it.
-/

namespace Switchyard.Text

/-- A set of code points, as the ascending list of the points where membership changes. -/
structure CodeSet where
  /-- The code points at which membership changes, ascending. -/
  edges : List Nat

namespace CodeSet

/-- Membership by the edges alone: every edge at or below the point flips the answer. -/
def holds : List Nat → Nat → Bool
  | [], _ => false
  | e :: rest, n => if e ≤ n then !holds rest n else false

/-- Is the character in the set? -/
def contains (s : CodeSet) (c : Char) : Bool := holds s.edges c.toNat

end CodeSet
end Switchyard.Text
