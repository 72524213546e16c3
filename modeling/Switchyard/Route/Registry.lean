import Switchyard.Build
import Switchyard.Route.Basic

/-!
  The routes of a router under construction, and the table that is made of them.

  No two routes of one interface share method and template.  A batch is registered as a whole or not
  at all.  Each route remembers the global filters that were there when it came.
-/

namespace Switchyard.Route

/-- What tells routes apart. -/
structure Key where
  method : String
  template : String
  admin : Bool
deriving DecidableEq, Repr

/-- A registered route with the global filters that will wrap it. -/
structure Registered (σ : Type) where
  route : Route σ
  global : Http.Chain σ

/-- Registered routes in order. -/
structure Registry (σ : Type) where
  routes : List (Registered σ) := []

variable {σ : Type}

/-- The key of a route. -/
def key (r : Route σ) : Key := ⟨r.method, r.template, r.admin⟩

/-- The first route whose key was seen before. -/
def firstRepeated? : List Key → List (Route σ) → Option (Route σ)
  | _, [] => none
  | seen, r :: rest => if r.key ∈ seen then some r else firstRepeated? (r.key :: seen) rest

namespace Registry

/-- The keys of the registered routes. -/
def keys (g : Registry σ) : List Key := g.routes.map fun p => p.route.key

/-- The event of registering a route. -/
def registeredEvent (global : Http.Chain σ) (r : Route σ) : Event :=
  ⟨.debug, "Route registered",
    [("route", .text r.name), ("admin", .flag r.admin), ("global_filters", .count global.length),
     ("route_filters", .count r.filters.length)]⟩

/-- Register a batch of routes behind the given global filters. -/
def registerAll (g : Registry σ) (routes : List (Route σ)) (global : Http.Chain σ) :
    Change (Registry σ) Unit :=
  match firstRepeated? g.keys routes with
  | some r => .refuse g (.duplicateRoute r.method r.template)
  | none =>
    .accept ⟨g.routes ++ routes.map fun r => ⟨r, global⟩⟩ () (routes.map (registeredEvent global))

/-- Register one route. -/
def register (g : Registry σ) (route : Route σ) (global : Http.Chain σ) : Change (Registry σ) Unit :=
  g.registerAll [route] global

end Registry

/-- A route that is ready to serve. -/
structure Compiled (σ : Type) where
  method : String
  pattern : Pattern
  admin : Bool
  info : Info
  matched : Matched
  /-- The whole path. -/
  composed : Http.Handler σ
  /-- The callback alone. -/
  callback : Http.Handler σ

/-- The routes of a frozen router, in the order of registration. -/
structure Table (σ : Type) where
  routes : List (Compiled σ)

namespace Table

/-- The first route of an interface whose method and template match. -/
def lookup (t : Table σ) (interface : Interface) (method path : String) :
    Option (Compiled σ × Params) :=
  (t.routes.filter fun r => interface.serves r.admin && r.method = method).findSome? fun r =>
    (r.pattern.matchPath? path).map fun params => (r, params)

end Table

/-- Make a registered route ready: filters outside and inside of its global filters, then its own. -/
def Registered.compile (outer inner : Http.Chain σ) (p : Registered σ) : Compiled σ :=
  { method := p.route.method
    pattern := p.route.pattern
    admin := p.route.admin
    info := p.route.info
    matched := p.route.matched
    composed := p.route.behind (outer ++ p.global ++ inner)
    callback := p.route.callback }

/-- The table of all registered routes. -/
def Registry.compile (g : Registry σ) (outer inner : Http.Chain σ) : Table σ :=
  ⟨g.routes.map (Registered.compile outer inner)⟩

end Switchyard.Route
