import Switchyard.Proofs.Route.Dispatch
import Switchyard.Route.Filters

/-!
  The path of a request through a frozen router.

  1. **Settings.**  The filters of a route are those that its settings attach, in their order (`filters_setAll`), and
     no setting changes the callback (`callback_setAll`).

  2. **Stages.**  The stages of a route are fixed when it is added: the global filters that were accepted before it,
     and the filters attached to the route itself, each behind a stage that maps failures.

  3. **Dispatching.**  The route that is selected is entered with its match, and its stages run one inside the other.

  The main statement is `dispatch_is_nested`; the filters and the callback in it are any programs whatever, and the
  calls that built the router are any calls.
-/

namespace Switchyard.Route

variable {σ : Type}

/-! ## The filters of a route -/

/-- The filters that a setting attaches to a route. -/
def Setting.attached : Setting σ → Http.Chain σ
  | .filter f => [f]
  | .filters c => c
  | _ => []

theorem setAll_cons (r : Route σ) (s : Setting σ) (ss : List (Setting σ)) :
    r.setAll (s :: ss) = (r.set s).setAll ss := rfl

/-- A setting puts its filters behind those of the route. -/
theorem filters_set (r : Route σ) (s : Setting σ) : (r.set s).filters = r.filters ++ s.attached := by
  cases s with
  | filter f => rfl
  | filters c => rfl
  | name s => exact (List.append_nil _).symm
  | admin => exact (List.append_nil _).symm
  | index s => exact (List.append_nil _).symm

/-- The filters of a route are those it was made with and those attached since, in order. -/
theorem filters_setAll (r : Route σ) (ss : List (Setting σ)) :
    (r.setAll ss).filters = r.filters ++ ss.flatMap Setting.attached := by
  induction ss generalizing r with
  | nil => exact (List.append_nil _).symm
  | cons s ss ih => rw [setAll_cons, ih, filters_set, List.flatMap_cons, List.append_assoc]

/-- No setting changes the callback. -/
theorem callback_setAll (r : Route σ) (ss : List (Setting σ)) :
    (r.setAll ss).callback = r.callback := by
  induction ss generalizing r with
  | nil => rfl
  | cons s ss ih =>
    rw [setAll_cons, ih]
    cases s with
    | filter f => rfl
    | filters c => rfl
    | name s => rfl
    | admin => rfl
    | index s => rfl


/-! ## The path of a dispatched request -/

/-- **A request is dispatched through `M(G₁(..Gₖ(M(P₁(..Pₘ(callback))))))`.**  The `G` are the global
    filters accepted before the call that added the route, the `P` the filters attached to the route,
    and `M` maps failures: it settles what it stands in front of.

    So is the order in which the stages are invoked: what the dispatched request does is what the
    accounts of these stages tell, and it ends with a reply if it ends.  The inner `M` is only left with
    replies, so the innermost global filter gets nothing else; and without global filters the two `M`
    are one. -/
theorem dispatch_is_nested {calls : List (BuildCall σ)} {router : Router σ}
    (hfreeze : (built calls).freeze.result = .ok router)
    {before after : List (BuildCall σ)} {call : BuildCall σ}
    (hcalls : accepted calls = before ++ call :: after)
    {made : Route σ} {settings : List (Setting σ)} {earlier later : List (Route σ)}
    (hroutes : call.routes = earlier ++ made.setAll settings :: later)
    {o : Options} {req : Http.Request} {params : Params} (hbypass : o.bypass = false)
    (hselected : AnswersFirst (before.flatMap BuildCall.routes ++ earlier) (made.setAll settings)
      o.interface req.method req.target.path params) :
    ∃ resolver, (mappersOf (accepted calls)).build = .ok resolver ∧
      let M : Http.Filter σ := Filter.mapFailures resolver
      let Gs := before.flatMap BuildCall.filters
      let Ps := made.filters ++ settings.flatMap Setting.attached
      let entering := req.enter (made.setAll settings) params
      router.dispatch o req
          = dispatched (M.wrap (Chain.compose Gs (M.wrap (Chain.compose Ps made.callback)))) entering ∧
      (∀ acts res, Prog.Run (router.dispatch o req) acts res ↔
        ∃ es, ∃ rep? : Option Http.Response,
          Chain.Account made.callback (M :: (Gs ++ M :: Ps)) 0 entering es (rep?.map .ok) ∧
            acts = es.filterMap Entry.act? ∧ res = rep?.map .ok) ∧
      (∀ next q, M.wrap next q = (next q).bind (Filter.settle resolver)) ∧
      (∀ es r, Chain.Account made.callback (M :: (Gs ++ M :: Ps)) 0 entering es r →
        ∀ outcome, .leave (Gs.length + 1) outcome ∈ es → ∃ rep, outcome = .ok rep) ∧
      (Gs = [] → router.dispatch o req
          = dispatched (M.wrap (Chain.compose Ps made.callback)) entering) := by
  obtain ⟨resolver, hresolver, htable⟩ := router_of_freeze hfreeze
  refine ⟨resolver, hresolver, ?_⟩
  intro M Gs Ps entering
  -- the route stands among the registered ones with the filters of the calls before its own
  let batch : List (Route σ) → List (Registered σ) := fun routes => routes.map fun r => ⟨r, Gs⟩
  have hregs : registered [] (accepted calls)
      = (registered [] before ++ batch earlier) ++
        ⟨made.setAll settings, Gs⟩ :: (batch later ++ registered (Gs ++ call.filters) after) := by
    rw [hcalls, registered_split, hroutes, List.map_append, List.map_cons]
    simp only [List.append_assoc, List.cons_append]
    rfl
  have hearlier : (registered [] before ++ batch earlier).map Registered.route
      = before.flatMap BuildCall.routes ++ earlier := by
    rw [List.map_append, map_route_registered, map_route_batch]
  have hdispatch : router.dispatch o req
      = dispatched ((stages resolver Gs Ps).compose made.callback) entering := by
    rw [← hearlier] at hselected
    rw [dispatch_of_answersFirst htable hregs hselected, hbypass, filters_setAll, callback_setAll]
    rfl
  have hnested : router.dispatch o req
      = dispatched (M.wrap (Chain.compose Gs (M.wrap (Chain.compose Ps made.callback)))) entering := by
    rw [hdispatch, Chain.compose_stages]
  refine ⟨hnested, ?_, Filter.wrap_mapFailures resolver, ?_, ?_⟩
  · intro acts res
    rw [hdispatch]
    exact run_stages_iff
  · intro es r haccount outcome houtcome
    refine Chain.left_with_reply haccount (Chain.stages_inner resolver Gs Ps) ?_
    rw [Nat.zero_add]
    exact houtcome
  · intro hnone
    rw [hnested, hnone]
    exact congrArg (dispatched · entering) (Filter.mapped_once resolver _)

/-- A route with a filter of its own, between two global filters of which it is behind the first. -/
theorem dispatch_is_nested_ping :
    let made : Route Unit :=
      { name := "ping", method := "GET", pattern := .constant "/ping"
        callback := fun _ => .done (.error (.ofMessage "no pong")) }
    let route := made.setAll [.filter Filter.pass]
    let calls := [.addFilter logging, .add route, .addFilter stats]
    let req : Http.Request := { target := { path := "/ping" } }
    ∃ router resolver, (built calls).freeze.result = .ok router ∧
      router.dispatch {} req
        = dispatched
            ((Filter.mapFailures resolver).wrap
              (Chain.compose [logging]
                ((Filter.mapFailures resolver).wrap (Chain.compose [Filter.pass] made.callback))))
            (req.enter route {}) := by
  intro made route calls req
  have hfreeze : (built calls).freeze.result = .ok _ := rfl
  have hcalls : accepted calls = [.addFilter logging] ++ .add route :: [.addFilter stats] := rfl
  have hroutes : (BuildCall.add route).routes = [] ++ made.setAll [.filter Filter.pass] :: [] := rfl
  have hselected : AnswersFirst [] route ({} : Options).interface req.method req.target.path {} :=
    ⟨⟨by decide, rfl, by decide⟩, fun r hr => nomatch hr⟩
  obtain ⟨resolver, -, hdispatch, -⟩ := dispatch_is_nested hfreeze hcalls hroutes rfl hselected
  exact ⟨_, resolver, hfreeze, hdispatch⟩

end Switchyard.Route
