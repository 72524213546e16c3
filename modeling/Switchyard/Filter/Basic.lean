import Switchyard.Program.Basic
import Switchyard.Failure.Mapper

/-!
  Handlers, filters and chains.

  A handler turns a request into a reply or a failure.  A filter stands in front of a handler: it
  sees the request, may run the rest of the path any number of times with any requests, and decides
  on the outcome.  The rest of the path is reached only by asking, so a filter is a value of its own
  that says nothing about what it stands in front of.

  A chain is a list of filters, the outermost first.  Chains are joined by joining the lists.
-/

namespace Switchyard

/-- Turns a request into a reply or a failure. -/
abbrev Handler (σ Req Rep : Type) := Req → Flow σ Empty Empty (Outcome Rep)

/-- Stands in front of a handler; a question is a request that the rest of the path is run with. -/
abbrev Filter (σ Req Rep : Type) := Req → Flow σ Req (Outcome Rep) (Outcome Rep)

/-- Filters in order, the outermost first. -/
abbrev Chain (σ Req Rep : Type) := List (Filter σ Req Rep)

namespace Filter

variable {σ Req Rep : Type}

/-- The filter in front of a handler. -/
def wrap (f : Filter σ Req Rep) (next : Handler σ Req Rep) : Handler σ Req Rep :=
  fun req => (f req).answer next

/-- Runs the rest of the path once and changes nothing. -/
def pass : Filter σ Req Rep := fun req => Prog.call req

/-- Runs the rest of the path with a changed request. -/
def onRequest (change : Req → Req) : Filter σ Req Rep := fun req => Prog.call (change req)

/-- Changes replies and lets failures pass. -/
def onReply (change : Rep → Rep) : Filter σ Req Rep := fun req => do
  match ← Prog.call req with
  | .ok rep => pure (.ok (change rep))
  | .error f => pure (.error f)

/-- Turns failures into replies with a table of mappers. -/
def mapFailures (r : Resolver Rep) : Filter σ Req Rep := fun req => do
  match ← Prog.call req with
  | .ok rep => pure (.ok rep)
  | .error f => do
    Prog.emit ⟨.debug, "Mapping failure to response",
      [("error", .text f.text), ("exception", .text (Text.optionText (f.kind?.map Kind.name)))]⟩
    Prog.observeAll ((r.events f).map .event)
    pure (.ok (r.reply f))

end Filter

namespace Chain

variable {σ Req Rep : Type}

/-- A handler behind every filter of a chain. -/
def compose (c : Chain σ Req Rep) (terminal : Handler σ Req Rep) : Handler σ Req Rep :=
  c.foldr Filter.wrap terminal

/-- A chain as a developer sees it. -/
def debug (c : Chain σ Req Rep) : String :=
  Text.recordText "FilterChain" [("len", Number.natText c.length)]

end Chain

/-- The ways of building a chain from filters of some description. -/
inductive ChainExpr (F : Type) where
  /-- The empty chain. -/
  | identity
  /-- A single filter. -/
  | of (f : F)
  /-- A filter added innermost. -/
  | withFilter (c : ChainExpr F) (f : F)
  /-- A shared filter added innermost. -/
  | push (c : ChainExpr F) (f : F)
  /-- One chain after the other. -/
  | andThen (c d : ChainExpr F)

namespace ChainExpr

variable {F : Type}

/-- The filters from the outermost to the innermost. -/
def filters : ChainExpr F → List F
  | identity => []
  | of f => [f]
  | withFilter c f | push c f => c.filters ++ [f]
  | andThen c d => c.filters ++ d.filters

/-- A chain built one filter at a time. -/
def ofList (fs : List F) : ChainExpr F := fs.foldl push identity

end ChainExpr
end Switchyard
