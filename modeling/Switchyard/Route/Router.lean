import Switchyard.Route.Registry
import Switchyard.Route.Mappers

/-!
  HTTP routers: the phase in which they are built, and dispatching afterwards.

  While a router is built, filters, mappers and routes come in any order.  A global filter wraps the
  routes that come after it and none that came before.  Freezing composes every route: failures are
  mapped once inside the global filters, so that these see replies, and once outside of them, for
  the failures that they raise themselves.
-/

namespace Switchyard.Route

/-- A group of routes that are registered together. -/
structure Controller (σ : Type) where
  /-- The name used in events. -/
  name : String
  /-- Its routes, or why they cannot be made. -/
  routes : Except BuildError (List (Route σ))

/-- How a request is to be dispatched. -/
structure Options where
  interface : Interface := .external
  /-- Call the callback alone, without any filter or mapping. -/
  bypass : Bool := false
deriving DecidableEq, Repr

/-- A frozen router. -/
structure Router (σ : Type) where
  table : Table σ

/-- A router under construction. -/
structure Builder (σ : Type) where
  phase : Phase := .building
  filters : Http.Chain σ := []
  mappers : Mappers Http.Response := initialMappers
  registry : Registry σ := {}

variable {σ : Type}

namespace Builder

/-- A call that is refused once the router is frozen. -/
def whileBuilding {α : Type} (b : Builder σ) (call : Change (Builder σ) α) : Change (Builder σ) α :=
  match b.phase with
  | .building => call
  | .frozen => .refuse b .frozen

/-- Add a chain of global filters, in order. -/
def addFilters (b : Builder σ) (c : Http.Chain σ) : Change (Builder σ) Unit :=
  b.whileBuilding (.accept { b with filters := b.filters ++ c } () [])

/-- Add a global filter. -/
def addFilter (b : Builder σ) (f : Http.Filter σ) : Change (Builder σ) Unit := b.addFilters [f]

/-- Map failures of a kind, and of the kinds below it. -/
def addMapper (b : Builder σ) (k : Kind) (m : Mapper Http.Response) : Change (Builder σ) Unit :=
  b.whileBuilding
    (.accept { b with mappers := b.mappers.register k m } () (b.mappers.registerEvents k))

/-- Map all other failures. -/
def setDefaultMapper (b : Builder σ) (m : Mapper Http.Response) : Change (Builder σ) Unit :=
  b.whileBuilding (.accept { b with mappers := b.mappers.registerDefault m } () [])

/-- Register a batch of routes behind the global filters added so far. -/
def addAll (b : Builder σ) (routes : List (Route σ)) (before : List Event) :
    Change (Builder σ) Unit :=
  let c := b.registry.registerAll routes b.filters
  ⟨{ b with registry := c.after }, c.result, before ++ c.events⟩

/-- Add a route. -/
def add (b : Builder σ) (r : Route σ) : Change (Builder σ) Unit :=
  b.whileBuilding (b.addAll [r] [])

/-- Add all routes of a controller, or none. -/
def addController (b : Builder σ) (c : Controller σ) : Change (Builder σ) Unit :=
  b.whileBuilding <|
    match c.routes with
    | .error e => .refuse b e
    | .ok routes =>
      b.addAll routes
        (if routes.isEmpty then
          [⟨.warn, "Controller declares no routes", [("controller", .text c.name)]⟩]
        else [])

/-- The event of freezing a router with this table. -/
def frozenEvent (t : Table σ) : Event :=
  ⟨.info, "HTTP router frozen",
    [("routes", .count t.routes.length),
     ("admin_routes", .count (t.routes.countP fun r => r.admin))]⟩

/-- Freeze: from here on nothing changes any more. -/
def freeze (b : Builder σ) : Change (Builder σ) (Router σ) :=
  b.whileBuilding <|
    match b.mappers.build with
    | .error e => .refuse b e
    | .ok resolver =>
      let mapping : Http.Chain σ := [Filter.mapFailures resolver]
      let table := b.registry.compile mapping mapping
      .accept { b with phase := .frozen, filters := [], registry := {} } ⟨table⟩ [frozenEvent table]

end Builder

namespace Router

/-- The path of a selected route: all of it, or the callback alone. -/
def selected (r : Compiled σ) (bypass : Bool) : Http.Handler σ :=
  if bypass then r.callback else r.composed

/-- Dispatch a request: select a route, leave the match with the request, and run the route. -/
def dispatch (t : Router σ) (o : Options) (req : Http.Request) :
    Flow σ Empty Empty (Except DispatchError Http.Response) :=
  match t.table.lookup o.interface req.method req.target.path with
  | none => do
    Prog.emit ⟨.debug, "No route matched",
      [("method", .text req.method), ("path", .text req.target.path),
       ("interface", .text o.interface.text)]⟩
    Prog.observe (.metric (.routeNotFound o.interface))
    pure (.error (.routeNotFound req.method req.target.path))
  | some (r, params) => do
    match ← selected r o.bypass { req with params? := some params, route? := some r.matched } with
    | .ok rep => pure (.ok rep)
    | .error f => pure (.error (.unhandled f))

/-- Every route, in the order of registration. -/
def routes (t : Router σ) : List Info := t.table.routes.map Compiled.info

/-- The routes that ask to be listed in the index. -/
def index (t : Router σ) : List IndexEntry :=
  t.routes.filterMap fun i => i.index?.map fun name => ⟨name, i.path⟩

/-- A router as a developer sees it. -/
def debug (t : Router σ) : String :=
  Text.recordText "HttpRouter" [("routes", Number.natText t.table.routes.length)]

end Router
end Switchyard.Route
