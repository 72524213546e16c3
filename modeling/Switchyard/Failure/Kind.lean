import Switchyard.Observe.Event

/-!
  Kinds of exceptions and their lineage.

  Each kind may name a less specific kind.  The lineage of a kind is the kind itself followed by the
  kinds above it, most specific first.  It is computed by walking up; the walk ends at a kind with
  nothing above it, before a kind that was already met, and at a fixed length, so it ends whatever
  the kinds say about each other.
-/

namespace Switchyard

/-- A kind of exception, told apart by its name. -/
structure Kind where
  name : String
deriving DecidableEq, Repr

/-- The kind directly above each kind, if any. -/
abbrev Hierarchy := Kind → Option Kind

namespace Hierarchy

/-- The greatest number of kinds in a lineage. -/
def maxLineage : Nat := 32

/-- The kinds above `k` that are not among those seen, at most `room` of them, and whether the walk
    was cut off. -/
def above (h : Hierarchy) : Nat → List Kind → Kind → List Kind × Bool
  | room, seen, k =>
    match h k with
    | none => ([], false)
    | some p =>
      if p ∈ seen then ([], true)
      else match room with
        | 0 => ([], true)
        | room + 1 =>
          let (ks, cut) := above h room (p :: seen) p
          (p :: ks, cut)

/-- A kind followed by the kinds above it, most specific first. -/
def lineage (h : Hierarchy) (k : Kind) : List Kind := k :: (h.above (maxLineage - 1) [k] k).1

/-- Was the lineage cut off? -/
def isCut (h : Hierarchy) (k : Kind) : Bool := (h.above (maxLineage - 1) [k] k).2

/-- The warning that goes with a lineage that was cut off. -/
def warnings (h : Hierarchy) (k : Kind) : List Event :=
  if h.isCut k then
    [⟨.warn, "Exception lineage is cyclic or too deep; truncating", [("exception", .text k.name)]⟩]
  else []

end Hierarchy
end Switchyard
