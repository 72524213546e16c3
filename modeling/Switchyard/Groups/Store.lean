/-!
  Named groups.  Each gets the number that follows the last one given out, so that the number of a
  group that is gone does not come back.
-/

namespace Switchyard

/-- The number of a group. -/
abbrev GroupId := UInt64

/-- The groups there are, and the last number given out. -/
structure Groups where
  lastId : GroupId := 0
  /-- The groups with their names, in the order of their numbers. -/
  live : List (GroupId × String) := []

namespace Groups

/-- Put a group in its place, instead of one with the same number. -/
def place (id : GroupId) (name : String) : List (GroupId × String) → List (GroupId × String)
  | [] => [(id, name)]
  | g :: rest =>
    if id = g.1 then (id, name) :: rest
    else if id < g.1 then (id, name) :: g :: rest
    else g :: place id name rest

/-- Add a group; its number comes with it. -/
def create (gs : Groups) (name : String) : GroupId × Groups :=
  let id := gs.lastId + 1
  (id, ⟨id, place id name gs.live⟩)

/-- The name of a group. -/
def name? (gs : Groups) (id : GroupId) : Option String :=
  (gs.live.find? (·.1 = id)).map (·.2)

/-- Is there a group of this number? -/
def contains (gs : Groups) (id : GroupId) : Bool := gs.live.any (·.1 = id)

/-- Remove a group. -/
def erase (gs : Groups) (id : GroupId) : Groups :=
  { gs with live := gs.live.filter (·.1 ≠ id) }

end Groups
end Switchyard
