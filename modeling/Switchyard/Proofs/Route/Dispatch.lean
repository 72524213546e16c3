import Switchyard.Proofs.Filter.Stages
import Switchyard.Proofs.Route.History

/-!
  Which route a request is dispatched to, and what dispatching it is.

  A route answers requests on one interface, with one method, on the paths that its template matches
  (`Answers`); of several that answer, the first counts (`AnswersFirst`).  A request enters the route
  with the match (`Http.Request.enter`).

  * `lookup_eq_some_iff`, `lookup_eq_none_iff` — looking up is looking for the first that answers;
  * `dispatch_of_answersFirst`, `dispatch_of_unanswered` — dispatching, as equations between programs.
-/

namespace Switchyard

/-- The admin interface serves the admin routes, and the external one all others. -/
theorem Interface.serves_iff (i : Interface) (isAdmin : Bool) :
    i.serves isAdmin = true ↔ (isAdmin = true ↔ i = .admin) := by
  cases i <;> cases isAdmin <;> decide

/-- The request as it enters a route, with what the match left. -/
def Http.Request.enter {σ : Type} (req : Http.Request) (r : Route σ) (params : Route.Params) :
    Http.Request :=
  { req with params? := some params, route? := some r.matched }

namespace Route

variable {σ : Type}

/-- A route answers requests on an interface with a method and a path, and binds parameters. -/
structure Answers (r : Route σ) (i : Interface) (method path : String) (params : Params) : Prop where
  interface : r.admin = true ↔ i = .admin
  method : r.method = method
  path : r.pattern.matchPath? path = some params

/-- None of the routes answers. -/
def Unanswered (routes : List (Route σ)) (i : Interface) (method path : String) : Prop :=
  ∀ r ∈ routes, ∀ params, ¬ r.Answers i method path params

/-- A route answers, and none of the routes before it does. -/
structure AnswersFirst (earlier : List (Route σ)) (r : Route σ) (i : Interface) (method path : String)
    (params : Params) : Prop where
  answers : r.Answers i method path params
  unanswered : Unanswered earlier i method path

/-- Some route answers first, or none answers. -/
theorem answersFirst_or_unanswered (routes : List (Route σ)) (i : Interface) (method path : String) :
    (∃ earlier r later params, routes = earlier ++ r :: later ∧
      AnswersFirst earlier r i method path params) ∨ Unanswered routes i method path := by
  induction routes with
  | nil => exact Or.inr fun r hr => nomatch hr
  | cons r routes ih =>
    by_cases hr : ∃ params, r.Answers i method path params
    · obtain ⟨params, hr⟩ := hr
      exact Or.inl ⟨[], r, routes, params, rfl, hr, fun r' hr' => nomatch hr'⟩
    have hnot : ∀ params, ¬ r.Answers i method path params := fun params h => hr ⟨params, h⟩
    rcases ih with ⟨earlier, r', later, params, rfl, hanswers, hnone⟩ | hnone
    · refine Or.inl ⟨r :: earlier, r', later, params, rfl, hanswers, ?_⟩
      exact List.forall_mem_cons.mpr ⟨hnot, hnone⟩
    · exact Or.inr (List.forall_mem_cons.mpr ⟨hnot, hnone⟩)

/-! ## Looking up -/

/-- A route that is ready to serve, with what it binds, if it answers. -/
def Compiled.attempt (i : Interface) (method path : String) (c : Compiled σ) :
    Option (Compiled σ × Params) :=
  if i.serves c.admin && c.method = method then (c.pattern.matchPath? path).map fun params => (c, params)
  else none

/-- The lookup goes through the routes in order, and the first attempt that succeeds counts. -/
theorem lookup_eq_findSome? (t : Table σ) (i : Interface) (method path : String) :
    t.lookup i method path = t.routes.findSome? (Compiled.attempt i method path) := by
  obtain ⟨routes⟩ := t
  rw [Table.lookup]
  -- routes that are filtered out are routes at which the attempt fails
  induction routes with
  | nil => rfl
  | cons c cs ih =>
    rw [List.filter_cons, List.findSome?_cons, Compiled.attempt]
    by_cases hc : (i.serves c.admin && c.method = method) = true
    · rw [if_pos hc, if_pos hc, List.findSome?_cons]
      cases c.pattern.matchPath? path with
      | none => exact ih
      | some params => rfl
    · rw [if_neg hc, if_neg hc]
      exact ih

/-- An attempt with a compiled route succeeds if the route answers, with the parameters that it answers
    with. -/
theorem attempt_compile_iff {outer inner : Http.Chain σ} {p : Registered σ} {i : Interface}
    {method path : String} {c : Compiled σ} {params : Params} :
    (p.compile outer inner).attempt i method path = some (c, params) ↔
      c = p.compile outer inner ∧ p.route.Answers i method path params := by
  have hserves : (i.serves (p.compile outer inner).admin
      && (p.compile outer inner).method = method) = true ↔
      (p.route.admin = true ↔ i = .admin) ∧ p.route.method = method := by
    rw [Bool.and_eq_true, Interface.serves_iff, decide_eq_true_eq]
    rfl
  rw [Compiled.attempt]
  constructor
  · intro h
    split at h
    · rename_i hc
      obtain ⟨hinterface, hmethod⟩ := hserves.mp hc
      obtain ⟨params', hpath, heq⟩ := Option.map_eq_some_iff.mp h
      obtain ⟨rfl, rfl⟩ := Prod.mk.inj heq
      exact ⟨rfl, hinterface, hmethod, hpath⟩
    · nomatch h
  · rintro ⟨rfl, hinterface, hmethod, hpath⟩
    rw [if_pos (hserves.mpr ⟨hinterface, hmethod⟩)]
    show Option.map _ (p.route.pattern.matchPath? path) = _
    rw [hpath]
    rfl

/-- And it fails if the route answers with none. -/
theorem attempt_compile_eq_none_iff {outer inner : Http.Chain σ} {p : Registered σ} {i : Interface}
    {method path : String} :
    (p.compile outer inner).attempt i method path = none ↔
      ∀ params, ¬ p.route.Answers i method path params := by
  constructor
  · intro hnone params hanswers
    rw [attempt_compile_iff.mpr ⟨rfl, hanswers⟩] at hnone
    nomatch hnone
  · intro hnot
    cases hc : (p.compile outer inner).attempt i method path with
    | none => rfl
    | some found => exact absurd (attempt_compile_iff.mp hc).2 (hnot found.2)

section Lookup

variable {outer inner : Http.Chain σ} {t : Table σ} {regs : List (Registered σ)}
  {i : Interface} {method path : String}

/-- Looking up finds the first route that answers. -/
theorem lookup_eq_some_iff (htable : t.routes = regs.map (Registered.compile outer inner))
    {c : Compiled σ} {params : Params} :
    t.lookup i method path = some (c, params) ↔
      ∃ earlier p later, regs = earlier ++ p :: later ∧ c = p.compile outer inner ∧
        AnswersFirst (earlier.map Registered.route) p.route i method path params := by
  rw [lookup_eq_findSome?, htable, List.findSome?_map, List.findSome?_eq_some_iff]
  constructor
  · rintro ⟨earlier, p, later, hregs, hp, hearlier⟩
    obtain ⟨hc, hanswers⟩ := attempt_compile_iff.mp hp
    refine ⟨earlier, p, later, hregs, hc, hanswers, ?_⟩
    exact List.forall_mem_map.mpr fun q hq => attempt_compile_eq_none_iff.mp (hearlier q hq)
  · rintro ⟨earlier, p, later, hregs, hc, hanswers, hearlier⟩
    refine ⟨earlier, p, later, hregs, attempt_compile_iff.mpr ⟨hc, hanswers⟩, fun q hq => ?_⟩
    exact attempt_compile_eq_none_iff.mpr (List.forall_mem_map.mp hearlier q hq)

/-- Looking up finds nothing if no route answers, and only then. -/
theorem lookup_eq_none_iff (htable : t.routes = regs.map (Registered.compile outer inner)) :
    t.lookup i method path = none ↔ Unanswered (regs.map Registered.route) i method path := by
  rw [lookup_eq_findSome?, htable, List.findSome?_map, List.findSome?_eq_none_iff]
  constructor
  · intro h
    exact List.forall_mem_map.mpr fun p hp => attempt_compile_eq_none_iff.mp (h p hp)
  · intro h p hp
    exact attempt_compile_eq_none_iff.mpr (List.forall_mem_map.mp h p hp)

end Lookup

/-! ## Dispatching -/

/-- What dispatching a request that no route answers comes to. -/
def notFound (i : Interface) (req : Http.Request) :
    Flow σ Empty Empty (Except DispatchError Http.Response) :=
  refused
    [.event ⟨.debug, "No route matched",
      [("method", .text req.method), ("path", .text req.target.path), ("interface", .text i.text)]⟩,
     .metric (.routeNotFound i)]
    (.routeNotFound req.method req.target.path)

theorem dispatch_of_lookup {router : Router σ} {o : Options} {req : Http.Request} {c : Compiled σ}
    {params : Params} (h : router.table.lookup o.interface req.method req.target.path = some (c, params)) :
    router.dispatch o req
      = dispatched (Router.selected c o.bypass)
          { req with params? := some params, route? := some c.matched } := by
  rw [Router.dispatch, h]
  refine congrArg (Prog.bind _) (funext fun outcome => ?_)
  cases outcome with
  | ok rep => rfl
  | error f => rfl

section Frozen

variable {calls : List (BuildCall σ)} {router : Router σ} {resolver : Resolver Http.Response}

/-- Dispatching a request to the first route that answers: its callback alone, or behind the stages of
    its path. -/
theorem dispatch_of_answersFirst
    (htable : router.table.routes = compiled resolver (registered [] (accepted calls)))
    {earlier later : List (Registered σ)} {p : Registered σ}
    (hregs : registered [] (accepted calls) = earlier ++ p :: later) {o : Options} {req : Http.Request}
    {params : Params}
    (h : AnswersFirst (earlier.map Registered.route) p.route o.interface req.method req.target.path params) :
    router.dispatch o req
      = dispatched
          ((stagesFor o.bypass resolver p.global p.route.filters).compose p.route.callback)
          (req.enter p.route params) := by
  have hlookup := (lookup_eq_some_iff htable).mpr ⟨earlier, p, later, hregs, rfl, h⟩
  rw [dispatch_of_lookup hlookup, Router.selected]
  cases o.bypass with
  | true => rfl
  | false =>
    show dispatched (p.route.behind ([Filter.mapFailures resolver] ++ p.global
      ++ [Filter.mapFailures resolver])) (req.enter p.route params) = _
    rw [Route.behind, List.append_assoc, List.append_assoc]
    rfl

/-- **The first accepted route that answers** is the one that a request is dispatched to, with the
    parameters of its match. -/
theorem dispatch_of_accepted
    (htable : router.table.routes = compiled resolver (registered [] (accepted calls)))
    {earlier later : List (Route σ)} {r : Route σ} (hroutes : acceptedRoutes calls = earlier ++ r :: later)
    {o : Options} {req : Http.Request} {params : Params}
    (h : AnswersFirst earlier r o.interface req.method req.target.path params) :
    ∃ global, ⟨r, global⟩ ∈ registered [] (accepted calls) ∧
      router.dispatch o req
        = dispatched ((stagesFor o.bypass resolver global r.filters).compose r.callback)
            (req.enter r params) := by
  obtain ⟨earlier', global, later', hregs, rfl⟩ := registered_of_acceptedRoutes hroutes
  have hmem : ⟨r, global⟩ ∈ registered [] (accepted calls) :=
    hregs ▸ List.mem_append_right _ List.mem_cons_self
  exact ⟨global, hmem, dispatch_of_answersFirst htable hregs h⟩

/-- And a request that no accepted route answers is not found. -/
theorem dispatch_of_unanswered
    (htable : router.table.routes = compiled resolver (registered [] (accepted calls)))
    {o : Options} {req : Http.Request}
    (h : Unanswered (acceptedRoutes calls) o.interface req.method req.target.path) :
    router.dispatch o req = notFound o.interface req := by
  rw [acceptedRoutes, ← map_route_registered []] at h
  rw [Router.dispatch, (lookup_eq_none_iff htable).mpr h]
  rfl

end Frozen

end Route
end Switchyard
