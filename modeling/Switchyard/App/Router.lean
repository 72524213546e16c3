import Switchyard.App.State
import Switchyard.Dark.Counts
import Switchyard.Dark.Setup
import Switchyard.Http.RequestId
import Switchyard.Http.Service
import Switchyard.Route.Filters

/-!
  The application's router.

  Request ids, logging and counting stand in front of every route.  The admin routes come before the
  dark traffic filter and the groups after it, so that copies are made of requests to groups only.
-/

namespace Switchyard.App

/-- Why the application cannot be built. -/
inductive Refusal where
  | dark (e : Dark.Error)
  | build (e : BuildError)

namespace Refusal

/-- The wording of a refusal. -/
def message : Refusal → String
  | .dark e => e.message
  | .build e => e.message

/-- A refusal as a developer sees it. -/
def debug : Refusal → String
  | .dark e => e.debug
  | .build e => e.message

end Refusal

/-! ## Admin routes -/

/-- A callback that shows something. -/
def showing (value : Flow State Empty Empty Json) : Http.Handler State := fun _ => do
  let v ← value
  pure (.ok (.json 200 v))

/-- The pages in the index. -/
def indexPage : Http.Handler State := showing do
  let listing ← Prog.update fun s => (s.listing, s)
  pure (.array (listing.index.map Route.IndexEntry.toJson))

/-- All routes. -/
def routesPage : Http.Handler State := showing do
  let listing ← Prog.update fun s => (s.listing, s)
  pure (.array (listing.routes.map Route.Info.toJson))

/-- The counters of dark traffic. -/
def darkPage (id : DarkId) : Http.Handler State := showing do
  let past ← Prog.lookBack Prog.done
  pure (Dark.Counts.ofRecord id past.reverse).toJson

/-- The admin routes; the page about dark traffic is there if dark traffic is. -/
def adminRoutes (dark? : Option DarkId) : List (Except BuildError (Route State)) :=
  let page (path : String) (settings : List (Route.Setting State)) (callback : Http.Handler State) :=
    (Route.make "GET" path callback).map (·.setAll settings)
  [page "/admin" [.admin] indexPage, page "/admin/routes" [.admin, .index "Routes"] routesPage] ++
    (dark?.map fun id =>
      page "/admin/dark_traffic" [.admin, .index "Dark traffic"] (darkPage id)).toList

/-! ## Building -/

/-- A router under construction, after a call. -/
abbrev Step := Change (Route.Builder State) Unit

/-- Add a route that could be made. -/
def addMade (b : Route.Builder State) : Except BuildError (Route State) → Step
  | .error e => .refuse b e
  | .ok r => b.add r

/-- The filters in front of every route. -/
def frontFilters (ids : Nat → String) : Http.Chain State :=
  [Route.requestIds (State.freshId ids), Route.logging, Route.stats]

/-- All calls up to freezing. -/
def assemble (ids : Nat → String) (dark : Dark.Setup State) : Step :=
  let begun := ({} : Route.Builder State).addFilters (frontFilters ids)
  let withAdmin := (adminRoutes (dark.settings?.map (·.id))).foldl
    (fun c r => c.andThen fun b => addMade b r) begun
  (withAdmin.andThen fun b => b.addFilters dark.chain).andThen fun b =>
    b.addController (Groups.controller State.groupsAccess)

/-- The application. -/
structure Built where
  router : Route.Router State
  /-- The state in which it begins. -/
  state : State
  /-- The events of building it. -/
  events : List Event

/-- The number of the application's dark traffic filter. -/
def darkId : DarkId := 0

/-- Build the application for a configuration.  The ids for requests that come without one are generated
    outside of it; the supply may be any. -/
def buildWith (ids : Nat → String) (c : Config) (n : Dark.Network) : Except Refusal Built := do
  let dark ← (Dark.Setup.ofConfig State.draw n darkId c.darkTraffic).mapError .dark
  let change := (assemble ids dark).andThen fun b => b.freeze
  let router ← change.result.mapError .build
  pure
    { router := router
      state := { listing := ⟨router.routes, router.index⟩ }
      events := dark.events ++ change.events }

/-- Build the application with the supply of ids for runs that are to be repeated. -/
def build (c : Config) (n : Dark.Network) : Except Refusal Built := buildWith Http.nthRequestId c n

/-- The service of an interface. -/
def Built.service (a : Built) (c : Config) (i : Interface) : Http.Service State :=
  { router := a.router, interface := i, bodyLimit := c.server.maxBodyBytes }

end Switchyard.App
