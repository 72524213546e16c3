import Switchyard.Groups.Routes

/-!
  The state of the application: the groups, what the admin pages list, how many request ids were
  generated, and how many random numbers were drawn.
-/

namespace Switchyard.App

/-- What the admin pages list.  It is empty until the router is frozen. -/
structure Listing where
  routes : List Route.Info := []
  index : List Route.IndexEntry := []

/-- The state of the application. -/
structure State where
  groups : Groups := {}
  listing : Listing := {}
  /-- The number of request ids generated so far. -/
  issued : Nat := 0
  /-- The random numbers, at least zero and below one each, in the order in which they come. -/
  random : Nat → Float := fun _ => 0.5
  /-- The number of random numbers drawn so far. -/
  drawn : Nat := 0

namespace State

/-- A fresh request id; `ids` are the generated ids, in the order in which they come. -/
def freshId (ids : Nat → String) (s : State) : String × State :=
  (ids s.issued, { s with issued := s.issued + 1 })

/-- The next random number. -/
def draw (s : State) : Float × State := (s.random s.drawn, { s with drawn := s.drawn + 1 })

/-- The place of the groups. -/
def groupsAccess : Groups.Access State where
  get := groups
  put gs s := { s with groups := gs }

end State
end Switchyard.App
