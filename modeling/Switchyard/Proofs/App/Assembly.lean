import Switchyard.App.Router
import Switchyard.Proofs.Refused
import Switchyard.Proofs.Route.Dispatch

/-!
  The application's router, as what its calls make of it.

  Building the application is a history of calls that are all accepted (`assemble_eq`), followed by
  freezing.  So the routes are known (`pages`, `groupRoutes`), and so are the filters that each of them is
  behind: the dark traffic filter comes after the pages and before the groups, and there are no mappers but
  those that every router starts with.

  * `settings?_of_destination` — dark traffic as the configuration asks for it;
  * `build_of_setup`  — the application can be built once dark traffic is set up;
  * `router_of_build` — the router of an application that could be built;
  * `takes_dispatch`  — what dispatching a request comes to: to a page on the admin interface, to a group on
    the external one, or to nothing.
-/

namespace Switchyard

/-! ## Dark traffic -/

namespace Dark.Setup

variable {σ : Type} {draw : σ → Float × σ} {n : Network} {id : DarkId} {c : Config.DarkTraffic}
  {setup : Setup σ}

/-- With a destination there is a filter: its client sends over the network, and its sampler draws. -/
theorem settings?_of_destination (h : ofConfig draw n id c = .ok setup) {destination : String}
    (hdestination : c.destination? = some destination) :
    ∃ client : HttpClient, HttpClient.make destination c.clientId c.muxEnabled = .ok client ∧
      setup.settings? = some
        { id := id, client := client.client n, sampler := .ratio draw c.sampleRate
          afterService := c.forwardAfterService, timeoutMs := c.timeoutMs } := by
  rw [ofConfig, hdestination] at h
  cases hmake : HttpClient.make destination c.clientId c.muxEnabled with
  | error e =>
    simp only [hmake] at h
    cases h
  | ok client =>
    simp only [hmake] at h
    obtain rfl := Except.ok.inj h
    exact ⟨client, rfl, rfl⟩

/-- Whatever the filter is, its sampler draws. -/
theorem sampler_of_settings? (h : ofConfig draw n id c = .ok setup) {settings : Settings σ Http.Request}
    (hsettings : setup.settings? = some settings) : settings.sampler = .ratio draw c.sampleRate := by
  cases hdestination : c.destination? with
  | none =>
    rw [ofConfig, hdestination] at h
    obtain rfl := Except.ok.inj h
    cases hsettings
  | some destination =>
    obtain ⟨client, -, hsome⟩ := settings?_of_destination h hdestination
    obtain rfl := Option.some.inj (hsettings.symm.trans hsome)
    rfl

end Dark.Setup

namespace App

open Route

/-! ## The routes -/

/-- The admin pages; the page about dark traffic is there if dark traffic is. -/
def pages (dark? : Option DarkId) : List (Route State) :=
  [{ name := "GET /admin", method := "GET", pattern := .constant "/admin", admin := true
     callback := indexPage },
   { name := "GET /admin/routes", method := "GET", pattern := .constant "/admin/routes", admin := true
     index? := some "Routes", callback := routesPage }] ++
  (dark?.map fun id =>
    { name := "GET /admin/dark_traffic", method := "GET", pattern := .constant "/admin/dark_traffic"
      admin := true, index? := some "Dark traffic", callback := darkPage id : Route State }).toList

/-- The template of a single group. -/
def groupPattern : Pattern := .parameterized "/groups/:id" [.literal "groups", .param "id"] ["id"]

/-- The routes of the groups. -/
def groupRoutes : List (Route State) :=
  [{ name := "POST /groups/", method := "POST", pattern := .constant "/groups/"
     callback := Groups.createGroup State.groupsAccess },
   { name := "GET /groups/", method := "GET", pattern := .constant "/groups/"
     callback := Groups.listGroups State.groupsAccess },
   { name := "GET /groups/:id", method := "GET", pattern := groupPattern
     callback := Groups.showGroup State.groupsAccess },
   { name := "DELETE /groups/:id", method := "DELETE", pattern := groupPattern
     callback := Groups.removeGroup State.groupsAccess }]

theorem admin_of_mem_pages {dark? : Option DarkId} {r : Route State} (h : r ∈ pages dark?) :
    r.admin = true := by
  cases dark? with
  | none =>
    have hall : ∀ r ∈ pages none, r.admin = true := by simp [pages]
    exact hall r h
  | some id =>
    have hall : ∀ r ∈ pages (some id), r.admin = true := by simp [pages]
    exact hall r h

theorem admin_of_mem_groupRoutes {r : Route State} (h : r ∈ groupRoutes) : r.admin = false := by
  have hall : ∀ r ∈ groupRoutes, r.admin = false := by simp [groupRoutes]
  exact hall r h

/-- No route has filters of its own. -/
theorem filters_of_mem {dark? : Option DarkId} {r : Route State} (h : r ∈ pages dark? ++ groupRoutes) :
    r.filters = [] := by
  cases dark? with
  | none =>
    have hall : ∀ r ∈ pages none ++ groupRoutes, r.filters = [] := by simp [pages, groupRoutes]
    exact hall r h
  | some id =>
    have hall : ∀ r ∈ pages (some id) ++ groupRoutes, r.filters = [] := by simp [pages, groupRoutes]
    exact hall r h

/-! ## The calls -/

section Calls

variable (ids : Nat → String) (dark : Dark.Setup State)

/-- The number of the dark traffic filter, if there is one. -/
def darkId? : Option DarkId := dark.settings?.map (·.id)

/-- The calls up to freezing. -/
def history : List (BuildCall State) :=
  .addFilters (frontFilters ids) :: (pages (darkId? dark)).map .add ++
    [.addFilters dark.chain, .addController (Groups.controller State.groupsAccess)]

/-- The mappers of the application: those that every router starts with. -/
def mapping : Resolver Http.Response := ⟨initialMappers.entries, defaultMapper⟩

/-- **Every call is accepted**, so building the application is making these calls. -/
theorem assemble_eq : (assemble ids dark).result = .ok () ∧ (assemble ids dark).after = built (history ids dark) := by
  obtain ⟨settings?, events⟩ := dark
  cases settings? with
  | none => exact ⟨rfl, rfl⟩
  | some settings => exact ⟨rfl, rfl⟩

theorem accepted_history : accepted (history ids dark) = history ids dark := by
  obtain ⟨settings?, events⟩ := dark
  cases settings? with
  | none => rfl
  | some settings => rfl

theorem mappersOf_history : (mappersOf (history ids dark)).build = .ok mapping := by
  obtain ⟨settings?, events⟩ := dark
  cases settings? with
  | none => rfl
  | some settings => rfl

/-- The pages are behind the filters in front, and the groups behind the dark traffic filter as well. -/
theorem registered_history :
    registered [] (history ids dark)
      = (pages (darkId? dark)).map (⟨·, frontFilters ids⟩) ++
        groupRoutes.map (⟨·, frontFilters ids ++ dark.chain⟩) := by
  obtain ⟨settings?, events⟩ := dark
  cases settings? with
  | none => rfl
  | some settings => rfl

end Calls

/-! ## The router -/

theorem freeze_notMem_history (ids : Nat → String) (dark : Dark.Setup State) : .freeze ∉ history ids dark := by
  simp [history]

/-- **Once dark traffic is set up the application can be built**: all calls are accepted, and so is
    freezing. -/
theorem build_of_setup {c : Config} {n : Dark.Network} {dark : Dark.Setup State}
    (hdark : Dark.Setup.ofConfig State.draw n darkId c.darkTraffic = .ok dark) (ids : Nat → String) :
    ∃ router app, (built (history ids dark)).freeze.result = .ok router ∧ buildWith ids c n = .ok app ∧
      app.router = router ∧ app.state = { listing := ⟨router.routes, router.index⟩ } := by
  obtain ⟨hresult, hafter⟩ := assemble_eq ids dark
  obtain ⟨router, hfreeze⟩ := exists_router_of_freeze (freeze_notMem_history ids dark)
  have hchange : ((assemble ids dark).andThen fun b => b.freeze).result = .ok router := by
    rw [Change.andThen, hresult, hafter]
    exact hfreeze
  let app : Built :=
    { router := router, state := { listing := ⟨router.routes, router.index⟩ }
      events := dark.events ++ ((assemble ids dark).andThen fun b => b.freeze).events }
  refine ⟨router, app, hfreeze, ?_, rfl, rfl⟩
  rw [buildWith, hdark]
  show (((assemble ids dark).andThen fun b => b.freeze).result.mapError Refusal.build).bind (fun router =>
      .ok ({ router := router, state := { listing := ⟨router.routes, router.index⟩ }, events := _ } : Built))
    = .ok app
  rw [hchange]
  rfl

/-- The application is refused if dark traffic is. -/
theorem build_of_setup_error {c : Config} {n : Dark.Network} {e : Dark.Error}
    (hdark : Dark.Setup.ofConfig State.draw n darkId c.darkTraffic = .error e) (ids : Nat → String) :
    buildWith ids c n = .error (.dark e) := by
  rw [buildWith, hdark]
  rfl

/-- **The router of an application that could be built**, and the state in which it begins. -/
theorem router_of_build {c : Config} {n : Dark.Network} {ids : Nat → String} {app : Built}
    (h : buildWith ids c n = .ok app) :
    ∃ dark, Dark.Setup.ofConfig State.draw n darkId c.darkTraffic = .ok dark ∧
      app.router.table.routes = compiled mapping (registered [] (accepted (history ids dark))) ∧
      app.state = { listing := ⟨app.router.routes, app.router.index⟩ } := by
  cases hdark : Dark.Setup.ofConfig State.draw n darkId c.darkTraffic with
  | error e =>
    rw [build_of_setup_error hdark ids] at h
    cases h
  | ok dark =>
    obtain ⟨router, app', hfreeze, hbuild, rfl, hstate⟩ := build_of_setup hdark ids
    obtain rfl := Except.ok.inj (hbuild.symm.trans h)
    obtain ⟨resolver, hresolver, htable⟩ := router_of_freeze hfreeze
    have hmapping := hresolver
    rw [accepted_history, mappersOf_history] at hmapping
    obtain rfl := Except.ok.inj hmapping
    exact ⟨dark, rfl, htable, hstate⟩

/-! ## Dispatching -/

/-- What dispatching a request on an interface comes to. -/
inductive Takes (ids : Nat → String) (dark : Dark.Setup State) (i : Interface) (req : Http.Request) :
    Flow State Empty Empty (Except DispatchError Http.Response) → Prop where
  /-- To a page. -/
  | page {r : Route State} {params : Params} (hr : r ∈ pages (darkId? dark))
      (h : r.Answers i req.method req.target.path params) :
      Takes ids dark i req
        (dispatched ((stages mapping (frontFilters ids) []).compose r.callback) (req.enter r params))
  /-- To the groups. -/
  | group {r : Route State} {params : Params} (hr : r ∈ groupRoutes)
      (h : r.Answers i req.method req.target.path params) :
      Takes ids dark i req
        (dispatched ((stages mapping (frontFilters ids ++ dark.chain) []).compose r.callback) (req.enter r params))
  /-- To nothing. -/
  | unmatched (h : Unanswered (pages (darkId? dark) ++ groupRoutes) i req.method req.target.path) :
      Takes ids dark i req (notFound i req)

theorem takes_dispatch {router : Router State} {ids : Nat → String} {dark : Dark.Setup State}
    (htable : router.table.routes = compiled mapping (registered [] (accepted (history ids dark))))
    {o : Options} (hbypass : o.bypass = false) (req : Http.Request) :
    Takes ids dark o.interface req (router.dispatch o req) := by
  have hroutes : acceptedRoutes (history ids dark) = pages (darkId? dark) ++ groupRoutes := by
    rw [acceptedRoutes, ← map_route_registered [], accepted_history, registered_history, List.map_append,
      map_route_batch, map_route_batch]
  rcases answersFirst_or_unanswered (acceptedRoutes (history ids dark)) o.interface req.method req.target.path
    with ⟨earlier, r, later, params, hsplit, hfirst⟩ | hnone
  · obtain ⟨global, hmem, hdispatch⟩ := dispatch_of_accepted htable hsplit hfirst
    have hr : r ∈ pages (darkId? dark) ++ groupRoutes :=
      hroutes ▸ hsplit ▸ List.mem_append_right _ List.mem_cons_self
    rw [hdispatch, hbypass, filters_of_mem hr]
    rw [accepted_history, registered_history] at hmem
    rcases List.mem_append.mp hmem with hmem | hmem
    · obtain ⟨r', hr', heq⟩ := List.mem_map.mp hmem
      obtain ⟨rfl, rfl⟩ := Registered.mk.inj heq
      exact .page hr' hfirst.answers
    · obtain ⟨r', hr', heq⟩ := List.mem_map.mp hmem
      obtain ⟨rfl, rfl⟩ := Registered.mk.inj heq
      exact .group hr' hfirst.answers
  · rw [dispatch_of_unanswered htable hnone]
    exact .unmatched (hroutes ▸ hnone)

end App
end Switchyard
