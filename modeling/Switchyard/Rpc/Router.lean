import Switchyard.Rpc.Registry

/-!
  Service routers: the phase in which they are built, and dispatching afterwards.

  A router serves one controller.  Every global filter wraps every method, so all of them come before
  the controller.  There is no mapper to begin with, and without one for all other failures a router
  cannot be frozen.
-/

namespace Switchyard.Rpc

/-- A service with its methods. -/
structure Controller (σ : Type) where
  name : String
  methods : List (Method σ)

/-- A frozen router. -/
structure Router (σ : Type) where
  /-- The name of the service, if there is one. -/
  service? : Option String
  table : Table σ

/-- A router under construction. -/
structure Builder (σ : Type) where
  phase : Phase := .building
  filters : Chain σ := []
  mappers : Mappers Reply := {}
  /-- The name of the controller, once there is one. -/
  controller? : Option String := none
  registry : Registry σ := {}

variable {σ : Type}

namespace Builder

/-- A call that is refused once the router is frozen. -/
def whileBuilding {α : Type} (b : Builder σ) (call : Change (Builder σ) α) : Change (Builder σ) α :=
  match b.phase with
  | .building => call
  | .frozen => .refuse b .frozen

/-- Add a global filter. -/
def addFilter (b : Builder σ) (f : Filter σ) : Change (Builder σ) Unit :=
  b.whileBuilding <|
    match b.controller? with
    | some controller => .refuse b (.filterAfterController controller)
    | none => .accept { b with filters := b.filters ++ [f] } () []

/-- Map failures of a kind, and of the kinds below it. -/
def addMapper (b : Builder σ) (k : Kind) (m : Mapper Reply) : Change (Builder σ) Unit :=
  b.whileBuilding
    (.accept { b with mappers := b.mappers.register k m } () (b.mappers.registerEvents k))

/-- Map all other failures. -/
def setDefaultMapper (b : Builder σ) (m : Mapper Reply) : Change (Builder σ) Unit :=
  b.whileBuilding (.accept { b with mappers := b.mappers.registerDefault m } () [])

/-- Bind the service: all of its methods, or none. -/
def addController (b : Builder σ) (c : Controller σ) : Change (Builder σ) Unit :=
  b.whileBuilding <|
    match b.controller? with
    | some existing => .refuse b (.multipleControllers existing c.name)
    | none =>
      let warnings : List Event :=
        if c.methods.isEmpty then
          [⟨.warn, "Thrift controller declares no methods", [("controller", .text c.name)]⟩]
        else []
      let g := b.registry.registerAll c.methods
      match g.result with
      | .error e => ⟨b, .error e, warnings ++ g.events⟩
      | .ok () =>
        .accept { b with registry := g.after, controller? := some c.name } ()
          (warnings ++ g.events ++
            [⟨.info, "Thrift controller added",
              [("controller", .text c.name), ("methods", .count g.after.methods.length)]⟩])

/-- Freeze: from here on nothing changes any more. -/
def freeze (b : Builder σ) : Change (Builder σ) (Router σ) :=
  b.whileBuilding <|
    match b.mappers.build with
    | .error e => .refuse b e
    | .ok resolver =>
      let mapping : Chain σ := [Filter.mapFailures resolver]
      let table := b.registry.compile (mapping ++ b.filters ++ mapping)
      .accept { b with phase := .frozen, filters := [], registry := {} } ⟨b.controller?, table⟩
        ((if b.controller?.isNone then [⟨.warn, "Thrift router frozen without a controller", []⟩]
          else []) ++
          [⟨.info, "Thrift router frozen", [("methods", .count table.names.length)]⟩])

end Builder

namespace Router

/-- Dispatch a call to its method, or to its callback alone. -/
def dispatch (t : Router σ) (bypass : Bool) (call : Call) :
    Flow σ Empty Empty (Except DispatchError Reply) :=
  match t.table.lookup call.method with
  | none => do
    Prog.emit ⟨.debug, "No Thrift method matched", [("method", .text call.method)]⟩
    Prog.observe (.metric .methodNotFound)
    pure (.error (.methodNotFound call.method))
  | some m => do
    match ← m.selected bypass call with
    | .ok rep => pure (.ok rep)
    | .error f => pure (.error (.unhandled f))

/-- A router as a developer sees it. -/
def debug (t : Router σ) : String :=
  Text.recordText "ThriftRouter"
    [("service", Text.optionText (t.service?.map Text.quote)),
     ("methods", Number.natText t.table.names.length)]

end Router
end Switchyard.Rpc
