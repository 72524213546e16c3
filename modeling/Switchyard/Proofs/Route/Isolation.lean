import Switchyard.Proofs.Route.Dispatch
import Switchyard.Route.Filters

/-!
  The two interfaces of a router do not influence each other.

  1. **Contributions.**  Accepted calls contribute filters, mappers and routes, one after the other
     (`Contribution`).  Of these an interface is concerned by the filters, the mappers, and the routes that it
     serves (`seenFrom`).

  2. **What an interface selects.**  The routes that it serves, with the filters in front of them, are told by what
     concerns it (`served_of_seenFrom`), and looking up skips all others (`lookup_of_served`).  The mappers are told
     by it too (`mappersOf_of_seenFrom`).

  3. **What it dispatches.**  So are the route that is selected and the stages in front of its callback, and that is
     all there is to dispatching a request.

  The main statement is `interfaces_are_isolated`: routers with the same contributions as seen from an interface
  dispatch the requests on it alike, whatever other routes they have.
-/

namespace Switchyard.Route

variable {σ : Type}

/-- What a call contributes, piece by piece. -/
inductive Contribution (σ : Type) where
  | filter (f : Http.Filter σ)
  | mapper (reg : Registration Http.Response)
  | route (r : Route σ)

/-- The contributions of a call, in order. -/
def BuildCall.contributions (k : BuildCall σ) : List (Contribution σ) :=
  k.routes.map .route ++ (k.filters.map .filter ++ k.registrations.map .mapper)

namespace Contribution

/-- Does the contribution concern the interface?  A route concerns the interface that serves it, all else
    concerns both. -/
def concerns (i : Interface) : Contribution σ → Bool
  | route r => i.serves r.admin
  | _ => true

/-- The registration that is contributed, if it is one. -/
def mapper? : Contribution σ → Option (Registration Http.Response)
  | mapper reg => some reg
  | _ => none

/-- The routes that are contributed, each with the filters there are when it comes. -/
def registered : Http.Chain σ → List (Contribution σ) → List (Registered σ)
  | _, [] => []
  | global, filter f :: cs => registered (global ++ [f]) cs
  | global, mapper _ :: cs => registered global cs
  | global, route r :: cs => ⟨r, global⟩ :: registered global cs

theorem registered_filters (global c : Http.Chain σ) (cs : List (Contribution σ)) :
    registered global (c.map filter ++ cs) = registered (global ++ c) cs := by
  induction c generalizing global with
  | nil =>
    rw [List.append_nil]
    rfl
  | cons f c ih =>
    show registered (global ++ [f]) (c.map filter ++ cs) = _
    rw [ih, List.append_assoc]
    rfl

theorem registered_routes (global : Http.Chain σ) (routes : List (Route σ)) (cs : List (Contribution σ)) :
    registered global (routes.map route ++ cs)
      = (routes.map fun r => ⟨r, global⟩) ++ registered global cs := by
  induction routes with
  | nil => rfl
  | cons r routes ih => exact congrArg (⟨r, global⟩ :: ·) ih

theorem registered_mappers (global : Http.Chain σ) (regs : List (Registration Http.Response))
    (cs : List (Contribution σ)) : registered global (regs.map mapper ++ cs) = registered global cs := by
  induction regs with
  | nil => rfl
  | cons reg regs ih => exact ih

/-- **The routes that an interface serves are registered as if no other routes came.** -/
theorem filter_registered (i : Interface) (global : Http.Chain σ) (cs : List (Contribution σ)) :
    (registered global cs).filter (fun p => i.serves p.route.admin)
      = registered global (cs.filter (concerns i)) := by
  induction cs generalizing global with
  | nil => rfl
  | cons c cs ih =>
    cases c with
    | filter f => exact ih (global ++ [f])
    | mapper reg => exact ih global
    | route r =>
      have hconcerns : concerns i (route r) = i.serves r.admin := rfl
      rw [registered, List.filter_cons, List.filter_cons, ih, hconcerns]
      split
      · rfl
      · rfl

/-- All mappers concern an interface. -/
theorem filterMap_mapper? (i : Interface) (cs : List (Contribution σ)) :
    (cs.filter (concerns i)).filterMap mapper? = cs.filterMap mapper? := by
  rw [List.filterMap_filter]
  refine congrArg (List.filterMap · cs) (funext fun c => ?_)
  cases c with
  | filter f => rfl
  | mapper reg => rfl
  | route r =>
    show (if i.serves r.admin = true then none else none) = none
    rw [ite_self]

end Contribution

/-- Calls register the routes that they contribute. -/
theorem registered_eq (global : Http.Chain σ) (calls : List (BuildCall σ)) :
    registered global calls = Contribution.registered global (calls.flatMap BuildCall.contributions) := by
  induction calls generalizing global with
  | nil => rfl
  | cons k calls ih =>
    rw [registered, ih, List.flatMap_cons, BuildCall.contributions, List.append_assoc, List.append_assoc,
      Contribution.registered_routes, Contribution.registered_filters, Contribution.registered_mappers]

/-- Calls register the mappers that they contribute. -/
theorem registrations_eq (calls : List (BuildCall σ)) :
    calls.flatMap BuildCall.registrations
      = (calls.flatMap BuildCall.contributions).filterMap Contribution.mapper? := by
  rw [List.filterMap_flatMap]
  refine congrArg (List.flatMap · calls) (funext fun k => ?_)
  have hroutes : (k.routes.map Contribution.route).filterMap Contribution.mapper? = [] :=
    List.filterMap_eq_nil_iff.mpr (List.forall_mem_map.mpr fun _ _ => rfl)
  have hfilters : (k.filters.map Contribution.filter).filterMap Contribution.mapper? = [] :=
    List.filterMap_eq_nil_iff.mpr (List.forall_mem_map.mpr fun _ _ => rfl)
  have hmappers : (k.registrations.map Contribution.mapper : List (Contribution σ)).filterMap
      Contribution.mapper? = k.registrations := by
    rw [List.filterMap_map]
    exact List.filterMap_some
  rw [BuildCall.contributions, List.filterMap_append, List.filterMap_append, hroutes, hfilters, hmappers]
  rfl

/-- What concerns an interface of what the accepted calls contribute, in order. -/
def seenFrom (i : Interface) (calls : List (BuildCall σ)) : List (Contribution σ) :=
  ((accepted calls).flatMap BuildCall.contributions).filter (Contribution.concerns i)

section Seen

variable {i : Interface} {calls calls' : List (BuildCall σ)}

/-- The mappers of a router are seen from both interfaces. -/
theorem mappersOf_of_seenFrom (h : seenFrom i calls = seenFrom i calls') :
    mappersOf (accepted calls) = mappersOf (accepted calls') := by
  have hregistrations : ∀ calls : List (BuildCall σ), (accepted calls).flatMap BuildCall.registrations
      = (seenFrom i calls).filterMap Contribution.mapper? := by
    intro calls
    rw [registrations_eq, seenFrom, Contribution.filterMap_mapper?]
  rw [mappersOf_eq_table, mappersOf_eq_table, hregistrations, hregistrations, h]

/-- The routes that an interface serves are seen from it, with the filters they come behind. -/
theorem served_of_seenFrom (h : seenFrom i calls = seenFrom i calls') :
    (registered [] (accepted calls)).filter (fun p => i.serves p.route.admin)
      = (registered [] (accepted calls')).filter (fun p => i.serves p.route.admin) := by
  rw [registered_eq, registered_eq, Contribution.filter_registered, Contribution.filter_registered,
    ← seenFrom, ← seenFrom, h]

end Seen

/-- Looking up on an interface only looks at the routes that it serves. -/
theorem lookup_of_served {t t' : Table σ} {i : Interface}
    (h : t.routes.filter (fun c => i.serves c.admin) = t'.routes.filter fun c => i.serves c.admin)
    (method path : String) : t.lookup i method path = t'.lookup i method path := by
  have hserved : ∀ t : Table σ, (t.routes.filter fun c => i.serves c.admin && c.method = method)
      = (t.routes.filter fun c => i.serves c.admin).filter fun c => c.method = method := by
    intro t
    rw [List.filter_filter]
    exact List.filter_congr fun c _ => Bool.and_comm _ _
  rw [Table.lookup, Table.lookup, hserved, hserved, h]

/-- What a request does that is dispatched is what the stages to a callback tell. -/
def GoesThrough (router : Router σ) (o : Options) (req : Http.Request) (path : Http.Chain σ)
    (callback : Http.Handler σ) (entering : Http.Request) : Prop :=
  ∀ acts res, Prog.Run (router.dispatch o req) acts res ↔
    ∃ es out, Chain.Account callback path 0 entering es out ∧ acts = es.filterMap Entry.act? ∧
      res = out.map (·.mapError .unhandled)

/-- **The interfaces are isolated from each other.**  Take two routers to which the same filters and mappers
    were added in the same places, and the same routes that an interface serves; what other routes came in
    between, alone or in controllers, may differ.  Then a request on the interface is dispatched by both
    alike: no route answers it in either, or it goes through the same stages to the same callback, those of
    a route that the interface serves. -/
theorem interfaces_are_isolated {calls calls' : List (BuildCall σ)} {router router' : Router σ}
    (hfreeze : (built calls).freeze.result = .ok router)
    (hfreeze' : (built calls').freeze.result = .ok router') {i : Interface}
    (hseen : seenFrom i calls = seenFrom i calls') {o : Options} (ho : o.interface = i)
    (req : Http.Request) :
    router.dispatch o req = router'.dispatch o req ∧
      ((router.dispatch o req = notFound i req ∧ router'.dispatch o req = notFound i req) ∨
        ∃ resolver global r params,
          ⟨r, global⟩ ∈ registered [] (accepted calls) ∧ ⟨r, global⟩ ∈ registered [] (accepted calls') ∧
          r.Answers i req.method req.target.path params ∧
          let path := stagesFor o.bypass resolver global r.filters
          GoesThrough router o req path r.callback (req.enter r params) ∧
          GoesThrough router' o req path r.callback (req.enter r params)) := by
  obtain ⟨resolver, hresolver, htable⟩ := router_of_freeze hfreeze
  obtain ⟨resolver', hresolver', htable'⟩ := router_of_freeze hfreeze'
  obtain rfl : resolver = resolver' := by
    rw [mappersOf_of_seenFrom hseen, hresolver'] at hresolver
    exact (Except.ok.inj hresolver).symm
  have hserved := served_of_seenFrom hseen
  have hdispatch : router.dispatch o req = router'.dispatch o req := by
    have htables : router.table.routes.filter (fun c => i.serves c.admin)
        = router'.table.routes.filter fun c => i.serves c.admin := by
      rw [htable, htable', compiled, compiled, List.filter_map, List.filter_map]
      exact congrArg _ hserved
    have hlookup := lookup_of_served htables req.method req.target.path
    rw [Router.dispatch, Router.dispatch, ho, hlookup]
  refine ⟨hdispatch, ?_⟩
  rw [← hdispatch]
  rcases answersFirst_or_unanswered (acceptedRoutes calls) o.interface req.method req.target.path with
    ⟨earlier, r, later, params, hroutes, hfirst⟩ | hnone
  · obtain ⟨global, hmem, heq⟩ := dispatch_of_accepted htable hroutes hfirst
    rw [ho] at hfirst
    have hthrough : GoesThrough router o req (stagesFor o.bypass resolver global r.filters) r.callback
        (req.enter r params) := by
      intro acts res
      rw [heq]
      exact run_dispatched_iff
    have hserves : i.serves r.admin = true := (Interface.serves_iff i r.admin).mpr hfirst.answers.interface
    have hmem' : ⟨r, global⟩ ∈ registered [] (accepted calls') := by
      have hfiltered : ⟨r, global⟩ ∈ (registered [] (accepted calls)).filter
          fun p => i.serves p.route.admin := List.mem_filter.mpr ⟨hmem, hserves⟩
      rw [hserved] at hfiltered
      exact (List.mem_filter.mp hfiltered).1
    refine Or.inr ⟨resolver, global, r, params, hmem, hmem', hfirst.answers, hthrough, ?_⟩
    intro acts res
    rw [← hdispatch]
    exact hthrough acts res
  · have hnotFound := dispatch_of_unanswered htable hnone
    rw [ho] at hnotFound
    exact Or.inl ⟨hnotFound, hnotFound⟩

/-- A router with an administrative route in the controller of a public one, and a router without. -/
theorem interfaces_are_isolated_hidden :
    let shown : Route Unit :=
      { name := "ping", method := "GET", pattern := .constant "/ping"
        callback := fun _ => .done (.ok (.empty 200)) }
    let hidden : Route Unit :=
      { name := "stats", method := "GET", pattern := .parameterized "/:page" [.param "page"] ["page"]
        admin := true, filters := [logging], callback := fun _ => .done (.error (.ofMessage "hidden")) }
    let calls := [.addController ⟨"pages", .ok [hidden, shown]⟩, .addFilter logging, .add hidden]
    let calls' := [.add shown, .addFilters [logging]]
    let req : Http.Request := { target := { path := "/ping" } }
    ∃ router router', (built calls).freeze.result = .ok router ∧ (built calls').freeze.result = .ok router' ∧
      seenFrom .external calls = seenFrom .external calls' ∧
      router.dispatch {} req = router'.dispatch {} req := by
  intro shown hidden calls calls' req
  have hfreeze : (built calls).freeze.result = .ok _ := rfl
  have hfreeze' : (built calls').freeze.result = .ok _ := rfl
  have hseen : seenFrom .external calls = seenFrom .external calls' := rfl
  obtain ⟨hdispatch, -⟩ := interfaces_are_isolated (o := {}) hfreeze hfreeze' hseen rfl req
  exact ⟨_, _, hfreeze, hfreeze', hseen, hdispatch⟩

end Switchyard.Route
