import Switchyard.Proofs.Filter.Relay
import Switchyard.Proofs.Results
import Switchyard.Proofs.Route.Selection
import Switchyard.Proofs.Rpc.Dispatch

/-!
  Bypassing the stages of a path.

  1. **Where a bypass leads.**  A request or a call that bypasses the stages goes to the entry that it would go to
     anyway, with the same match, and there the callback is run alone; one that goes nowhere is not found either way.

  2. **What it leaves out.**  What this comes to is compared with what the callback comes to behind all stages
     (`Bypasses`).  Filters that pass through surround what is behind them (`Surrounds`), and so do the stages that
     map failures; so a reply of the callback is the reply of both, and what the callback does is done in both.

  The main statement is `bypass_runs_the_callback_alone`, for both kinds of routers.
-/

namespace Switchyard

section

variable {σ Req Rep : Type}

/-- What a request comes to in front of a callback: `bare` bypasses the stages, `full` goes through them. -/
structure Bypasses (resolver : Resolver Rep) (global own : Chain σ Req Rep) (callback : Handler σ Req Rep)
    (req : Req) (bare full : Flow σ Empty Empty (Except DispatchError Rep)) : Prop where
  /-- Without the stages, the callback is run once, with the request. -/
  alone : bare = dispatched callback req
  /-- What is done is what the callback does, and it comes to the reply of the callback, or to its failure. -/
  runs : ∀ {acts res}, Prog.Run bare acts res ↔
    ∃ o?, Prog.Run (callback req) acts o? ∧ res = o?.map (·.mapError .unhandled)
  /-- With the stages, they are entered with the same request. -/
  behind : full = dispatched ((stages resolver global own).compose callback) req
  /-- If the filters pass through, what is done with the stages is what is done without them, and more around
      it; a reply without the stages is the reply with them. -/
  inside : (∀ f ∈ global ++ own, f.PassesThrough) → ∀ {acts out}, Prog.Run full acts (some out) →
    ∃ before during after out', acts = before ++ during ++ after ∧ Prog.Run bare during (some out') ∧
      ∀ rep, out' = .ok rep → out = .ok rep
  /-- And whatever comes to a reply without the stages comes to it with them. -/
  around : (∀ f ∈ global ++ own, f.PassesThrough) → Nonempty σ → ∀ {during rep},
    Prog.Run bare during (some (.ok rep)) →
      ∃ before after, Prog.Run full (before ++ during ++ after) (some (.ok rep))

theorem bypasses (resolver : Resolver Rep) (global own : Chain σ Req Rep) (callback : Handler σ Req Rep)
    (req : Req) :
    Bypasses resolver global own callback req (dispatched callback req)
      (dispatched ((stages resolver global own).compose callback) req) where
  alone := rfl
  runs := Prog.runs_map_iff
  behind := rfl
  inside hfilters := by
    intro acts out hrun
    obtain ⟨o, hstages, rfl⟩ := run_dispatched_some_iff.mp hrun
    obtain ⟨before, during, after, o', hacts, hcallback, hok⟩ :=
      (Surrounds.stages resolver hfilters callback).inward hstages
    refine ⟨before, during, after, _, hacts, run_dispatched_some_iff.mpr ⟨o', hcallback, rfl⟩, ?_⟩
    intro rep hrep
    rw [hok rep (Except.ok_of_mapError hrep)]
    rfl
  around hfilters hσ := by
    intro during rep hrun
    obtain ⟨o, hcallback, ho⟩ := run_dispatched_some_iff.mp hrun
    rw [Except.ok_of_mapError ho.symm] at hcallback
    obtain ⟨before, after, hfull⟩ := (Surrounds.stages resolver hfilters callback).outward hσ hcallback
    exact ⟨before, after, run_dispatched_some_iff.mpr ⟨_, hfull, rfl⟩⟩

end

/-- **Bypassing the stages runs the callback alone.**  A router that was frozen after any calls selects the same
    entry for a request whether or not the stages are bypassed, and a request that nothing answers comes to the
    same refusal.  The callback of a selected route is run with the request and the match; that of a method
    with the call. -/
theorem bypass_runs_the_callback_alone {σ τ : Type}
    {calls : List (Route.BuildCall σ)} {router : Route.Router σ}
    (hfreeze : (Route.built calls).freeze.result = .ok router)
    {rpcCalls : List (Rpc.BuildCall τ)} {rpcRouter : Rpc.Router τ}
    (hfreeze' : (Rpc.built rpcCalls).freeze.result = .ok rpcRouter) :
    (∃ resolver, (Route.mappersOf (Route.accepted calls)).build = .ok resolver ∧
      ∀ (i : Interface) (req : Http.Request),
        let bare := router.dispatch { interface := i, bypass := true } req
        let full := router.dispatch { interface := i, bypass := false } req
        (∃ earlier r later params global, Route.acceptedRoutes calls = earlier ++ r :: later ∧
          Route.AnswersFirst earlier r i req.method req.target.path params ∧
          ⟨r, global⟩ ∈ Route.registered [] (Route.accepted calls) ∧
          Route.Carries r params (req.enter r params) ∧
          Bypasses resolver global r.filters r.callback (req.enter r params) bare full) ∨
        (Route.Unanswered (Route.acceptedRoutes calls) i req.method req.target.path ∧
          bare = Route.notFound i req ∧ full = Route.notFound i req)) ∧
    (∃ resolver, (Rpc.mappersOf (Rpc.accepted rpcCalls)).build = .ok resolver ∧
      ∀ call : Rpc.Call,
        let bare := rpcRouter.dispatch true call
        let full := rpcRouter.dispatch false call
        (∃ m ∈ Rpc.acceptedMethods rpcCalls, m.name = call.method ∧
          Bypasses resolver (Rpc.acceptedFilters rpcCalls) m.filters m.callback call bare full) ∨
        ((∀ m ∈ Rpc.acceptedMethods rpcCalls, m.name ≠ call.method) ∧
          bare = Rpc.notFound call ∧ full = Rpc.notFound call)) := by
  constructor
  · obtain ⟨resolver, hresolver, htable⟩ := Route.router_of_freeze hfreeze
    refine ⟨resolver, hresolver, fun i req => ?_⟩
    rcases Route.answersFirst_or_unanswered (Route.acceptedRoutes calls) i req.method req.target.path with
      ⟨earlier, r, later, params, hroutes, hfirst⟩ | hnone
    · obtain ⟨earlier', global, later', hregs, rfl⟩ := Route.registered_of_acceptedRoutes hroutes
      have hregistered : ⟨r, global⟩ ∈ Route.registered [] (Route.accepted calls) :=
        hregs ▸ List.mem_append_right _ List.mem_cons_self
      refine Or.inl ⟨_, r, later, params, global, hroutes, hfirst, hregistered,
        Route.carries_enter req r params, ?_⟩
      rw [Route.dispatch_of_answersFirst htable hregs hfirst, Route.dispatch_of_answersFirst htable hregs hfirst]
      exact bypasses resolver global r.filters r.callback (req.enter r params)
    · exact Or.inr ⟨hnone, Route.dispatch_of_unanswered htable hnone, Route.dispatch_of_unanswered htable hnone⟩
  · obtain ⟨resolver, hresolver, htable, hnodup⟩ := Rpc.router_of_freeze hfreeze'
    refine ⟨resolver, hresolver, fun call => ?_⟩
    rcases Rpc.named_or_unnamed (Rpc.acceptedMethods rpcCalls) call.method with ⟨m, hm, hname⟩ | hne
    · refine Or.inl ⟨m, hm, hname, ?_⟩
      rw [Rpc.dispatch_of_mem htable hnodup hm hname, Rpc.dispatch_of_mem htable hnodup hm hname]
      exact bypasses resolver (Rpc.acceptedFilters rpcCalls) m.filters m.callback call
    · exact Or.inr ⟨hne, Rpc.dispatch_of_forall_ne htable hne, Rpc.dispatch_of_forall_ne htable hne⟩

/-- A route behind a filter that leaves entries: its callback alone makes the reply, and the same reply is made
    behind the filter.  So it is with a method. -/
theorem bypass_runs_the_callback_alone_logged :
    let ping : Route Unit :=
      { name := "ping", method := "GET", pattern := .constant "/ping"
        callback := fun _ => .done (.ok (.empty 204)) }
    let req : Http.Request := { target := { path := "/ping" } }
    let echo : Rpc.Method Unit :=
      { name := "echo", callback := fun call => .done (.ok (.reply call.payload)) }
    let mapper : Mapper Rpc.Reply := { reply := fun f => .exception "Failure" f.text }
    let call : Rpc.Call := { method := "echo" }
    ∃ router rpcRouter, (Route.built [.addFilter Route.logging, .add ping]).freeze.result = .ok router ∧
      (Rpc.built [.setDefaultMapper mapper, .addController ⟨"Echo", [echo]⟩]).freeze.result
        = .ok rpcRouter ∧
      router.dispatch { bypass := true } req = dispatched ping.callback (req.enter ping {}) ∧
      (∃ before after, Prog.Run (router.dispatch {} req) (before ++ [] ++ after) (some (.ok (.empty 204)))) ∧
      rpcRouter.dispatch true call = dispatched echo.callback call ∧
      ∃ before after, Prog.Run (rpcRouter.dispatch false call) (before ++ [] ++ after)
        (some (.ok (.reply call.payload))) := by
  intro ping req echo mapper call
  have hfreeze : (Route.built [.addFilter Route.logging, .add ping]).freeze.result = .ok _ := rfl
  have hfreeze' : (Rpc.built [.setDefaultMapper mapper, .addController ⟨"Echo", [echo]⟩]).freeze.result
      = .ok _ := rfl
  obtain ⟨⟨resolver, -, hroutes⟩, resolver', -, hmethods⟩ := bypass_runs_the_callback_alone hfreeze hfreeze'
  have hping : Route.AnswersFirst [] ping .external req.method req.target.path {} :=
    ⟨⟨by decide, rfl, by decide⟩, fun r hr => nomatch hr⟩
  refine ⟨_, _, hfreeze, hfreeze', ?_⟩
  rcases hroutes .external req with ⟨earlier, r, later, params, global, hsplit, hfirst, hregistered, -, hbypass⟩ |
    ⟨hnone, -⟩
  · rcases hmethods call with ⟨m, hm, -, hbypass'⟩ | ⟨hne, -⟩
    · obtain rfl : m = echo := List.mem_singleton.mp hm
      obtain ⟨rfl, rfl, -⟩ : earlier = [] ∧ r = ping ∧ later = [] :=
        (List.append_eq_singleton_iff.mp hsplit.symm).elim
          (fun ⟨hearlier, hrest⟩ => ⟨hearlier, List.cons.inj hrest⟩) fun ⟨_, hrest⟩ => nomatch hrest
      obtain rfl : {} = params := Option.some.inj (hping.answers.path.symm.trans hfirst.answers.path)
      obtain rfl : global = [Route.logging] := (Route.Registered.mk.inj (List.mem_singleton.mp hregistered)).2
      have hlogging : ∀ f ∈ [Route.logging] ++ ping.filters, f.PassesThrough :=
        List.forall_mem_singleton.mpr Route.passesThrough_logging
      refine ⟨hbypass.alone, hbypass.around hlogging ⟨()⟩ ?_, hbypass'.alone, hbypass'.around nofun ⟨()⟩ ?_⟩
      · exact hbypass.runs.mpr ⟨_, .done _, rfl⟩
      · exact hbypass'.runs.mpr ⟨_, .done _, rfl⟩
    · exact absurd rfl (hne echo List.mem_cons_self)
  · exact absurd hping.answers (hnone ping List.mem_cons_self {})

end Switchyard
