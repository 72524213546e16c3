import Switchyard.Proofs.Route.Dispatch
import Switchyard.Route.Filters

/-!
  What the outermost global filter records of a request.

  The filter that counts requests runs the rest of the path once, and then records the status of what that
  came to (`wrap_stats`).  If a filter stands outermost among the global filters (`Outermost`), every request
  that selects a route goes through it (`dispatch_outermost`), and nothing but the stage that maps failures
  stands outside of it (`dispatched_outermost`).

  The stage right behind the global filters maps failures too, so what the filter gets is a reply, with the
  status that the response has in the end, unless one of the other global filters raised a failure
  (`Raised`): such a failure is recorded as a server error, whatever it is mapped to.

  * `run_counted_iff`           — the runs of a request that is counted;
  * `raised_of_failed`          — a failure that reaches the outermost filter was raised by another one;
  * `recorded_status_is_real`   — the recorded status is that of the response, or a global filter raised;
  * `recorded_status_differs`   — and in the second case it may be another one.
-/

namespace Switchyard

/-! ## Settling, as something that was noted and a reply -/

namespace Filter

variable {σ Req Rep Q A : Type}

/-- The reply that an outcome is settled with. -/
def replyTo (r : Resolver Rep) : Outcome Rep → Rep
  | .ok rep => rep
  | .error f => r.reply f

/-- What is noted when an outcome is settled. -/
def settlingNotes (r : Resolver Rep) : Outcome Rep → List Observation
  | .ok _ => []
  | .error f => mappingNotes r f

theorem settle_eq (r : Resolver Rep) (o : Outcome Rep) :
    (settle r o : Flow σ Q A (Outcome Rep))
      = (Prog.observeAll (settlingNotes r o)).bind fun _ => .done (.ok (replyTo r o)) := by
  cases o with
  | ok rep => rfl
  | error f => rfl

/-- What is noted when an outcome is settled are events. -/
theorem event_of_mem_settlingNotes {r : Resolver Rep} {outcome : Outcome Rep} {o : Observation}
    (h : o ∈ settlingNotes r outcome) : ∃ e, o = .event e := by
  cases outcome with
  | ok rep => cases h
  | error f =>
    rcases List.mem_cons.mp h with rfl | h
    · exact ⟨_, rfl⟩
    · obtain ⟨e, -, rfl⟩ := List.mem_map.mp h
      exact ⟨e, rfl⟩

end Filter

/-! ## Who raised a failure -/

section Raised

variable {σ Req Rep : Type} {es : List (Entry σ Req Rep)}

/-- A stage is only left with replies. -/
def OnlyReplies (es : List (Entry σ Req Rep)) (stage : Nat) : Prop :=
  ∀ outcome, .leave stage outcome ∈ es → ∃ rep, outcome = .ok rep

/-- One of `n` stages, of which the outermost has the number `first`, raised a failure: it was left with
    one, although the next stage was only left with replies. -/
def Raised (n first : Nat) (es : List (Entry σ Req Rep)) : Prop :=
  ∃ k < n, (∃ f, .leave (first + k) (.error f) ∈ es) ∧ OnlyReplies es (first + k + 1)

/-- **A failure that comes out of some stages was raised by one of them**, if none goes in. -/
theorem raised_of_left {n first : Nat} (hinside : OnlyReplies es (first + n)) {f : Failure}
    (hleft : .leave first (.error f) ∈ es) : Raised n first es := by
  induction n generalizing first f with
  | zero =>
    obtain ⟨rep, hrep⟩ := hinside _ hleft
    cases hrep
  | succ n ih =>
    -- either the outermost stage raised it, or a failure came out of the stages inside of it
    by_cases hreplies : OnlyReplies es (first + 1)
    · exact ⟨0, Nat.zero_lt_succ n, ⟨f, hleft⟩, hreplies⟩
    · obtain ⟨outcome, hnot⟩ := Classical.not_forall.mp hreplies
      obtain ⟨hinner, hfailed⟩ := Classical.not_imp.mp hnot
      cases outcome with
      | ok rep => exact absurd ⟨rep, rfl⟩ hfailed
      | error f' =>
        rw [Nat.add_comm n, ← Nat.add_assoc] at hinside
        obtain ⟨k, hk, hraised, hbehind⟩ := ih hinside hinner
        rw [show first + 1 + k = first + (k + 1) from by omega] at hraised hbehind
        exact ⟨k + 1, Nat.succ_lt_succ hk, hraised, hbehind⟩

end Raised

/-- An account that is over ends with leaving its first stage. -/
theorem Chain.leave_mem {σ Req Rep : Type} {terminal : Handler σ Req Rep} {c : Chain σ Req Rep} {i : Nat}
    {req : Req} {es : List (Entry σ Req Rep)} {o : Outcome Rep} (h : Account terminal c i req es (some o)) :
    .leave i o ∈ es := by
  cases c with
  | nil =>
    obtain ⟨inner, -, rfl⟩ := h
    exact List.mem_cons_of_mem _ (List.mem_append_right _ List.mem_cons_self)
  | cons f c =>
    obtain ⟨inner, -, rfl⟩ := h
    exact List.mem_cons_of_mem _ (List.mem_append_right _ List.mem_cons_self)

namespace Route

variable {σ : Type}

/-! ## The filter that counts requests -/

/-- What is noted when a request is counted with an outcome. -/
def countingNotes (req : Http.Request) (outcome : Outcome Http.Response) : List Observation :=
  let route := (req.route?.map Matched.name).getD "unknown"
  [.metric (.request route req.method (countedStatus outcome)), .metric (.duration route)]

/-- Counting runs the rest of the path once, notes what that came to, and comes to the same. -/
theorem wrap_stats (next : Http.Handler σ) (req : Http.Request) :
    stats.wrap next req
      = (next req).bind fun o => (Prog.observeAll (countingNotes req o)).bind fun _ => .done o := rfl

/-- Dispatching through all stages: what the outermost global filter makes of the rest of the path is
    settled. -/
theorem dispatched_outermost (resolver : Resolver Http.Response) (f : Http.Filter σ)
    (further own : Http.Chain σ) (callback : Http.Handler σ) (req : Http.Request) :
    dispatched ((stages resolver (f :: further) own).compose callback) req
      = (f.wrap (Chain.compose (further ++ Filter.mapFailures resolver :: own) callback) req).bind fun o =>
          (Prog.observeAll (Filter.settlingNotes resolver o)).bind fun _ =>
            .done (.ok (Filter.replyTo resolver o)) := by
  show ((Filter.mapFailures resolver).wrap
    (f.wrap (Chain.compose (further ++ Filter.mapFailures resolver :: own) callback)) req).bind _ = _
  rw [Filter.wrap_mapFailures, Prog.bind_assoc]
  refine congrArg (Prog.bind _) (funext fun o => ?_)
  rw [Filter.settle_eq, Prog.bind_assoc]
  rfl

/-- Dispatching through all stages, if the outermost global filter counts. -/
theorem dispatched_counted (resolver : Resolver Http.Response) (further own : Http.Chain σ)
    (callback : Http.Handler σ) (req : Http.Request) :
    dispatched ((stages resolver (stats :: further) own).compose callback) req
      = (Chain.compose (further ++ Filter.mapFailures resolver :: own) callback req).bind fun o =>
          (Prog.observeAll (countingNotes req o ++ Filter.settlingNotes resolver o)).bind fun _ =>
            .done (.ok (Filter.replyTo resolver o)) := by
  rw [dispatched_outermost, wrap_stats, Prog.bind_assoc]
  -- counting leaves two entries, and then the outcome is settled
  rfl

/-- **The runs of a request that is counted**: what the stages inside do, the record of what they came to,
    and what settling that notes. -/
theorem run_counted_iff {resolver : Resolver Http.Response} {further own : Http.Chain σ}
    {callback : Http.Handler σ} {req : Http.Request} {acts : List (Prog.Action σ Job)}
    {out : Except DispatchError Http.Response} :
    Prog.Run (dispatched ((stages resolver (stats :: further) own).compose callback) req) acts (some out) ↔
      ∃ o inner,
        Prog.Run (Chain.compose (further ++ Filter.mapFailures resolver :: own) callback req) inner (some o) ∧
          acts = inner ++ (countingNotes req o ++ Filter.settlingNotes resolver o).map .noted ∧
          out = .ok (Filter.replyTo resolver o) := by
  rw [dispatched_counted]
  exact Prog.run_noted_iff

/-! ## The outermost global filter -/

/-- A filter is the first global filter of a history of calls, and was added before every route. -/
def Outermost (f : Http.Filter σ) (calls : List (BuildCall σ)) : Prop :=
  ∃ before first after more, accepted calls = before ++ first :: after ∧
    (∀ k ∈ before, k.filters = [] ∧ k.routes = []) ∧ first.filters = f :: more

/-- A call that contributes filters contributes no routes. -/
theorem routes_of_filters {k : BuildCall σ} {f : Http.Filter σ} {more : Http.Chain σ}
    (h : k.filters = f :: more) : k.routes = [] := by
  cases k with
  | addFilter g => rfl
  | addFilters c => rfl
  | addMapper kind m => rfl
  | setDefaultMapper m => rfl
  | add r => cases h
  | addController c => cases h
  | freeze => rfl

/-- What there is to begin with stands outermost before every route. -/
theorem prefix_of_registered {p : Registered σ} {global : Http.Chain σ} {ks : List (BuildCall σ)}
    (h : p ∈ registered global ks) : global <+: p.global := by
  induction ks generalizing global with
  | nil => cases h
  | cons k ks ih =>
    rw [registered] at h
    rcases List.mem_append.mp h with h | h
    · obtain ⟨r, -, rfl⟩ := List.mem_map.mp h
      exact List.prefix_rfl
    · exact (List.prefix_append _ _).trans (ih h)

/-- The first global filter stands outermost before every route. -/
theorem Outermost.registered {f : Http.Filter σ} {calls : List (BuildCall σ)} (h : Outermost f calls)
    {p : Registered σ} (hp : p ∈ registered [] (accepted calls)) : ∃ further, p.global = f :: further := by
  obtain ⟨before, first, after, more, hcalls, hbefore, hfirst⟩ := h
  have hroutes : before.flatMap BuildCall.routes = [] :=
    List.flatMap_eq_nil_iff.mpr fun k hk => (hbefore k hk).2
  have hfilters : before.flatMap BuildCall.filters = [] :=
    List.flatMap_eq_nil_iff.mpr fun k hk => (hbefore k hk).1
  rw [hcalls, registered_split, routes_of_filters hfirst, hfilters, hfirst] at hp
  rcases List.mem_append.mp hp with hp | hp
  · rw [List.map_nil, List.append_nil] at hp
    have hroute := List.mem_map_of_mem (f := Registered.route) hp
    rw [map_route_registered, hroutes] at hroute
    cases hroute
  · obtain ⟨rest, hrest⟩ := prefix_of_registered hp
    exact ⟨more ++ rest, hrest.symm⟩

/-- **A failure that reaches the outermost global filter was raised by another global filter**: the stage
    right behind the global filters maps failures. -/
theorem raised_of_failed {resolver : Resolver Http.Response} {further own : Http.Chain σ}
    {callback : Http.Handler σ} {req : Http.Request} {es : List (Entry σ Http.Request Http.Response)}
    {f : Failure}
    (h : Chain.Account callback (further ++ Filter.mapFailures resolver :: own) 2 req es (some (.error f))) :
    Raised further.length 2 es := by
  have hplace : (further ++ Filter.mapFailures resolver :: own)[further.length]?
      = some (Filter.mapFailures resolver) := getElem?_behind further own _
  have hinside : OnlyReplies es (2 + further.length) :=
    fun outcome hleft => Chain.left_with_reply h hplace hleft
  exact raised_of_left hinside (Chain.leave_mem h)

section Selected

variable {calls : List (BuildCall σ)} {router : Router σ} {f : Http.Filter σ}
  {earlier later : List (Route σ)} {r : Route σ} {o : Options} {req : Http.Request} {params : Params}

/-- A request that selects a route goes through the outermost global filter first. -/
theorem dispatch_outermost (hfreeze : (built calls).freeze.result = .ok router) (hfirst : Outermost f calls)
    (hroutes : acceptedRoutes calls = earlier ++ r :: later) (hbypass : o.bypass = false)
    (hselected : AnswersFirst earlier r o.interface req.method req.target.path params) :
    ∃ resolver further, (mappersOf (accepted calls)).build = .ok resolver ∧
      ⟨r, f :: further⟩ ∈ registered [] (accepted calls) ∧
      router.dispatch o req
        = dispatched ((stages resolver (f :: further) r.filters).compose r.callback) (req.enter r params) := by
  obtain ⟨resolver, hresolver, htable⟩ := router_of_freeze hfreeze
  obtain ⟨global, hmem, hdispatch⟩ := dispatch_of_accepted htable hroutes hselected
  obtain ⟨further, hglobal⟩ := hfirst.registered hmem
  obtain rfl : global = f :: further := hglobal
  rw [hbypass] at hdispatch
  exact ⟨resolver, further, hresolver, hmem, hdispatch⟩

end Selected

/-! ## The recorded status -/

/-- **The recorded status is the status of the response, unless a global filter raised a failure.**

    A request that selects a route goes through the filter that counts, which records the outcome of the
    stages behind it.  The outcome is the response that the dispatch returns, and the status is its own: it
    came from the callback, from a filter that answered for it, or from mapping a failure of the callback or
    of one of the route's own filters.  Or else the outcome is a failure, which one of the other global
    filters raised; it is recorded as a server error, and the response is what it is mapped to. -/
theorem recorded_status_is_real {calls : List (BuildCall σ)} {router : Router σ}
    (hfreeze : (built calls).freeze.result = .ok router) (hstats : Outermost stats calls)
    {earlier later : List (Route σ)} {r : Route σ} (hroutes : acceptedRoutes calls = earlier ++ r :: later)
    {o : Options} {req : Http.Request} {params : Params} (hbypass : o.bypass = false)
    (hselected : AnswersFirst earlier r o.interface req.method req.target.path params)
    {acts : List (Prog.Action σ Job)} {out : Except DispatchError Http.Response}
    (hrun : Prog.Run (router.dispatch o req) acts (some out)) :
    ∃ resolver further rep es outcome status,
      (mappersOf (accepted calls)).build = .ok resolver ∧
      ⟨r, stats :: further⟩ ∈ registered [] (accepted calls) ∧
      Chain.Account r.callback (further ++ Filter.mapFailures resolver :: r.filters) 2 (req.enter r params)
        es (some outcome) ∧
      out = .ok rep ∧
      (∃ later, acts = es.filterMap Entry.act?
        ++ .noted (.metric (.request r.name req.method status)) :: later) ∧
      ((outcome = .ok rep ∧ status = rep.status) ∨
        ∃ f, outcome = .error f ∧ rep = resolver.reply f ∧ status = 500 ∧ Raised further.length 2 es) := by
  obtain ⟨resolver, further, hresolver, hmem, hdispatch⟩ :=
    dispatch_outermost hfreeze hstats hroutes hbypass hselected
  rw [hdispatch] at hrun
  obtain ⟨outcome, inner, hinner, rfl, hout⟩ := run_counted_iff.mp hrun
  obtain ⟨es, haccount, rfl⟩ := (Chain.run_compose_iff r.callback _ 2 _ _ _).mp hinner
  refine ⟨resolver, further, _, es, outcome, countedStatus outcome, hresolver, hmem, haccount, hout,
    ⟨_, rfl⟩, ?_⟩
  cases outcome with
  | ok rep => exact Or.inl ⟨rfl, rfl⟩
  | error f => exact Or.inr ⟨f, rfl, rfl, rfl, raised_of_failed haccount⟩

/-- A callback whose failure is mapped to a conflict, which is recorded as one. -/
theorem recorded_status_is_real_conflict :
    let route : Route Unit :=
      { name := "groups", method := "POST", pattern := .constant "/groups/"
        callback := fun _ => .done (.error (.ofHttp (.conflict "group exists"))) }
    let calls := [.addFilter stats, .add route]
    let req : Http.Request := { method := "POST", target := { path := "/groups/" } }
    ∃ router acts rep, (built calls).freeze.result = .ok router ∧
      Prog.Run (router.dispatch {} req) acts (some (.ok rep)) ∧ rep.status = 409 ∧
      .noted (.metric (.request "groups" "POST" 409)) ∈ acts := by
  intro route calls req
  have hfreeze : (built calls).freeze.result = .ok _ := rfl
  have hstats : Outermost stats calls :=
    ⟨[], .addFilter stats, [.add route], [], rfl, List.forall_mem_nil _, rfl⟩
  have hroutes : acceptedRoutes calls = [] ++ route :: [] := rfl
  have hselected : AnswersFirst [] route ({} : Options).interface req.method req.target.path {} :=
    ⟨⟨by decide, rfl, by decide⟩, List.forall_mem_nil _⟩
  refine ⟨_, _, _, hfreeze, .note (.note (.note (.done _))), rfl, ?_⟩
  obtain ⟨resolver, further, rep, es, outcome, status, -, hmem, -, hout, ⟨later, hacts⟩, hstatus⟩ :=
    recorded_status_is_real hfreeze hstats hroutes rfl hselected (.note (.note (.note (.done _))))
  obtain rfl := Except.ok.inj hout
  rw [hacts]
  refine List.mem_append_right _ (List.mem_cons.mpr (Or.inl ?_))
  rcases hstatus with ⟨-, rfl⟩ | ⟨f, -, -, -, k, hk, -⟩
  · rfl
  · -- there is no other global filter
    obtain rfl : further = [] := (List.cons.inj (Registered.mk.inj (List.mem_singleton.mp hmem)).2).2
    cases hk

/-- **The recorded status need not be that of the response.**  A global filter behind the one that counts
    raises a failure: it is mapped to a response with the status that it names, and recorded as a server
    error. -/
theorem recorded_status_differs :
    let route : Route Unit :=
      { name := "GET /ping", method := "GET", pattern := .constant "/ping"
        callback := fun _ => .done (.ok { status := 200 }) }
    let failing : Http.Filter Unit := fun _ => .done (.error (.ofHttp (.notFound "gone")))
    let calls := [.addFilter stats, .addFilter failing, .add route]
    let req : Http.Request := { target := { path := "/ping" } }
    ∃ router acts rep, (built calls).freeze.result = .ok router ∧ Outermost stats calls ∧
      AnswersFirst [] route ({} : Options).interface req.method req.target.path {} ∧
      Prog.Run (router.dispatch {} req) acts (some (.ok rep)) ∧ rep.status = 404 ∧
      .noted (.metric (.request route.name req.method 500)) ∈ acts ∧
      ∀ status, .noted (.metric (.request route.name req.method status)) ∈ acts → status ≠ rep.status := by
  intro route failing calls req
  have hstats : Outermost stats calls :=
    ⟨[], .addFilter stats, [.addFilter failing, .add route], [], rfl, List.forall_mem_nil _, rfl⟩
  have hselected : AnswersFirst [] route ({} : Options).interface req.method req.target.path {} :=
    ⟨⟨by decide, rfl, by decide⟩, List.forall_mem_nil _⟩
  refine ⟨_, _, _, rfl, hstats, hselected, .note (.note (.note (.done _))), rfl, List.mem_cons_self,
    fun status hstatus => ?_⟩
  -- of what is noted only the first entry is a request that is counted
  rcases List.mem_cons.mp hstatus with heq | hlater
  · obtain ⟨-, -, rfl⟩ := Metric.request.inj (Observation.metric.inj (Prog.Action.noted.inj heq))
    decide
  · rcases List.mem_cons.mp hlater with heq | hlater
    · cases Observation.metric.inj (Prog.Action.noted.inj heq)
    · cases Prog.Action.noted.inj (List.mem_singleton.mp hlater)

end Route
end Switchyard
