import Switchyard.Proofs.Filter.Hiding
import Switchyard.Proofs.Route.Dispatch
import Switchyard.Route.Filters

/-!
  Failures that name no status do not leak.

  1. **One reply.**  A router for which no mappers were registered has two: one for exceptions with a status, and the
     default mapper.  A failure that names no status is answered by the default mapper, whatever it is
     (`mapperFor_of_unregistered`), and that one looks at nothing (`hides_of_unregistered`).

  2. **Where it is made.**  The inner stage that maps failures stands between a callback and all global filters, so
     that reply is all that these get to see; the theory of such stages is that of `Resolver.Hides`.

  3. **Two callbacks.**  So requests to callbacks that fail in different ways are told of alike, and whatever was told
     with the one can be told with the other.

  The main statement is `failures_without_status_do_not_leak`.
-/

namespace Switchyard

/-- Nothing in the lineage of the failure is an exception that says with which status to answer. -/
def Failure.NamesNoStatus (f : Failure) : Prop := HttpException.kind ∉ f.lineage

/-- An error value without lineage names no status, not even if it is an exception that has one. -/
theorem Failure.namesNoStatus_ofFault (fault : Fault) : (ofFault fault).NamesNoStatus := List.not_mem_nil

namespace Route

variable {σ : Type}

/-- The mappers that a router starts with have none for the kinds of a lineage that names no status. -/
theorem lastFor?_initialRegistrations {k : Kind} (hk : k ≠ HttpException.kind) :
    Registration.lastFor? initialRegistrations k = none := by
  have hhttp : Registration.for? k (.kind HttpException.kind httpExceptionMapper) = none :=
    if_neg hk.symm
  rw [Registration.lastFor?, initialRegistrations, List.filterMap_cons_none hhttp]
  rfl

/-- **Without registered mappers there are two**: the one for exceptions with a status answers the failures
    that name one, and the default mapper answers the others. -/
theorem mapperFor_of_unregistered {ks : List (BuildCall σ)} (hmappers : ∀ k ∈ ks, k.registrations = [])
    {resolver : Resolver Http.Response} (h : (mappersOf ks).build = .ok resolver) (f : Failure) :
    (HttpException.kind ∈ f.lineage → resolver.mapperFor f = httpExceptionMapper) ∧
      (f.NamesNoStatus → resolver.mapperFor f = defaultMapper) := by
  rw [mappersOf_eq_table, List.flatMap_eq_nil_iff.mpr hmappers, List.append_nil] at h
  have hnearest := nearest_mapperFor h f
  refine ⟨fun hnamed => ?_, fun hf => ?_⟩
  · obtain ⟨nearer, farther, hlineage, hnotin⟩ := List.eq_append_cons_of_mem hnamed
    have hlast : Registration.lastFor? initialRegistrations HttpException.kind = some httpExceptionMapper := by
      have hhttp : Registration.for? HttpException.kind (.kind HttpException.kind httpExceptionMapper)
          = some httpExceptionMapper := by rw [Registration.for?, if_pos rfl]
      rw [Registration.lastFor?, initialRegistrations, List.filterMap_cons_some hhttp]
      rfl
    refine hnearest.unique (.kind hlineage hlast fun k hk => ?_)
    exact lastFor?_initialRegistrations fun heq => hnotin (heq ▸ hk)
  · have hnone : ∀ k ∈ f.lineage, Registration.lastFor? initialRegistrations k = none :=
      fun k hk => lastFor?_initialRegistrations fun heq => hf (heq ▸ hk)
    exact hnearest.unique (.default hnone rfl)

/-- **Without registered mappers, failures that name no status are answered alike.** -/
theorem hides_of_unregistered {ks : List (BuildCall σ)} (hmappers : ∀ k ∈ ks, k.registrations = [])
    {resolver : Resolver Http.Response} (h : (mappersOf ks).build = .ok resolver) :
    resolver.Hides Failure.NamesNoStatus (.error 500 genericMessage) := by
  intro f hf
  rw [Resolver.reply, (mapperFor_of_unregistered hmappers h f).2 hf]
  rfl

/-- **Failures that name no status do not leak.**  Take a router for which no mappers were registered, and a
    request to a route without filters of its own.  Suppose that its callback only ever comes to failures
    that name no status.

    * What the innermost global filter gets is the one reply that hides them.
    * Two requests, of which the callbacks come to whatever failures, end with the same response, and
      every global filter is entered with the same request and gets the same outcome, provided that the
      filters find the same, as far as they heed it.  For filters that go by requests and outcomes alone
      (`see` is constant) that is no condition, and for filters in general (`id`) it is the only one.
    * If a request ends, it may as well end with any other failure of the callback, whatever the filters are
      and do. -/
theorem failures_without_status_do_not_leak {calls : List (BuildCall σ)} {router : Router σ}
    (hfreeze : (built calls).freeze.result = .ok router)
    (hmappers : ∀ k ∈ accepted calls, k.registrations = [])
    {earlier later : List (Route σ)} {r : Route σ} (hroutes : acceptedRoutes calls = earlier ++ r :: later)
    (hown : r.filters = []) {o : Options} (hbypass : o.bypass = false) {req : Http.Request} {params : Params}
    (hfirst : AnswersFirst earlier r o.interface req.method req.target.path params) :
    ∃ resolver global, (mappersOf (accepted calls)).build = .ok resolver ∧
      ⟨r, global⟩ ∈ registered [] (accepted calls) ∧
      let path := stages resolver global []
      let n := global.length + 2
      let Told (callback : Http.Handler σ) (es : List (Entry σ Http.Request Http.Response)) rep? :=
        Chain.Account callback path 0 (req.enter r params) es (Option.map .ok rep?)
      (∀ acts res, Prog.Run (router.dispatch o req) acts res ↔
        ∃ es rep?, Told r.callback es rep? ∧ acts = es.filterMap Entry.act? ∧ res = rep?.map .ok) ∧
      (∀ es rep?, Told r.callback es rep? → FailsAt Failure.NamesNoStatus n es →
        ∀ outcome, .leave (global.length + 1) outcome ∈ es → outcome = .ok (.error 500 genericMessage)) ∧
      (∀ {ω : Type} (see : Finding σ → ω), (∀ f ∈ global, ∀ q, (f q).HeedsOnly see) →
        ∀ callback' es es' rep rep', Told r.callback es (some rep) → Told callback' es' (some rep') →
          FailsAt Failure.NamesNoStatus n es → FailsAt Failure.NamesNoStatus n es' →
          Alike see (findings n es) (findings n es') → rep = rep' ∧ SeenAlike see n es es') ∧
      (∀ callback' f' es rep, f'.NamesNoStatus → Told r.callback es (some rep) →
        FailsAt Failure.NamesNoStatus n es →
        (∀ q, .enter n q ∈ es → ∃ acts, Prog.Run (callback' q) acts (some (.error f'))) →
        ∃ es', Told callback' es' (some rep) ∧ FailsAt (· = f') n es' ∧ SeenAlike id n es es') := by
  obtain ⟨resolver, hresolver, htable⟩ := router_of_freeze hfreeze
  obtain ⟨global, hmem, hdispatch⟩ := dispatch_of_accepted htable hroutes hfirst
  refine ⟨resolver, global, hresolver, hmem, ?_⟩
  intro path n Told
  have hhides := hides_of_unregistered hmappers hresolver
  -- the path is these stages, the outer mapping and the global filters, and then the inner mapping
  let outside : Http.Chain σ := Filter.mapFailures resolver :: global
  have hn : n = 0 + outside.length + 1 := by
    show global.length + 2 = 0 + (global.length + 1) + 1
    omega
  refine ⟨?_, ?_, ?_, ?_⟩
  · intro acts res
    rw [hdispatch, hbypass, hown]
    exact run_stages_iff
  · intro es rep? htold hfails outcome houtcome
    refine Chain.left_with_hidden (c := outside) (i := 0) hhides htold (hn ▸ hfails) ?_
    rw [Nat.zero_add]
    exact houtcome
  · intro ω see hglobal callback' es es' rep rep' htold htold' hfails hfails' hfound
    have houtside : ∀ f ∈ outside, ∀ q, (f q).HeedsOnly see :=
      List.forall_mem_cons.mpr ⟨heedsOnly_mapFailures resolver see, hglobal⟩
    obtain ⟨hout, halike⟩ := Chain.same_passages hhides houtside hn htold htold' hfails hfails' hfound
    exact ⟨Except.ok.inj hout, halike⟩
  · intro callback' f' es rep hf' htold hfails hfailing
    have hhides' : resolver.Hides (· = f') (.error 500 genericMessage) := fun f hf => hhides f (hf ▸ hf')
    refine Chain.other_account hhides hhides' hn htold hfails fun q hq => ?_
    obtain ⟨acts, hrun⟩ := hfailing q hq
    exact ⟨acts, f', hrun, rfl⟩

/-- A callback that fails with a message, and one that fails with an exception that has a status but
    is boxed as a bare error value. -/
theorem failures_without_status_do_not_leak_boxed :
    let plain : Failure := .ofMessage "no pong"
    let boxed : Failure := .ofFault (.http (.notFound "no pong"))
    let ping : Route Failure :=
      { name := "ping", method := "GET", pattern := .constant "/ping"
        callback := fun _ => .step id fun f => .done (.error f) }
    let calls := [.addFilter logging, .add ping]
    let req : Http.Request := { target := { path := "/ping" } }
    ∃ resolver es es' rep, (mappersOf (accepted calls)).build = .ok resolver ∧
      let Told es :=
        Chain.Account ping.callback (stages resolver [logging] []) 0 (req.enter ping {}) es (some (.ok rep))
      Told es ∧ .leave 3 (.error plain) ∈ es ∧ Told es' ∧ FailsAt (· = boxed) 3 es' ∧
        passages 3 es = passages 3 es' := by
  intro plain boxed ping calls req
  have hfreeze : (built calls).freeze.result = .ok _ := rfl
  have hmappers : ∀ k ∈ accepted calls, k.registrations = [] := by
    intro k hk
    rcases List.mem_cons.mp hk with rfl | hk
    · rfl
    · obtain rfl := List.mem_singleton.mp hk
      rfl
  have hroutes : acceptedRoutes calls = [] ++ ping :: [] := rfl
  have hfirst : AnswersFirst [] ping ({} : Options).interface req.method req.target.path {} :=
    ⟨⟨by decide, rfl, by decide⟩, fun r hr => nomatch hr⟩
  obtain ⟨resolver, global, hresolver, hmem, -, -, -, hother⟩ :=
    failures_without_status_do_not_leak hfreeze hmappers hroutes rfl rfl hfirst
  obtain rfl : global = [logging] := by
    have hglobal : (⟨ping, global⟩ : Registered Failure) = ⟨ping, [logging]⟩ := List.mem_singleton.mp hmem
    injection hglobal
  -- the account in which the callback finds the plain failure
  let rep : Http.Response := .error 500 genericMessage
  let q := req.enter ping {}
  let inner : List (Entry Failure Http.Request Http.Response) := [.act 3 (.changed plain plain)]
  have hreply : resolver.reply plain = rep :=
    hides_of_unregistered hmappers hresolver plain (Failure.namesNoStatus_ofFault _)
  obtain ⟨notes, hnotes⟩ : ∃ notes, Prog.Runs (Chain.Account ping.callback [] 3) (.act 2)
      (Filter.settle resolver (.error plain)) notes (some (.ok rep)) := by
    rw [← hreply]
    exact exists_settle resolver plain
  have hmapped : Chain.Account ping.callback [Filter.mapFailures resolver] 2 q _ (some (.ok rep)) :=
    account_mapped_iff.mpr ⟨_, inner, notes, .step plain (.done _), hnotes, rfl⟩
  have hnotes_acts : OnlyActs 2 notes := onlyActs_of_runs hnotes fun q => Filter.not_asks_settle resolver _
  obtain ⟨es, htold, hleft⟩ : ∃ es,
      Chain.Account ping.callback (stages resolver [logging] []) 0 q es (some (.ok rep)) ∧
        ∀ outcome, .leave 3 outcome ∈ es ↔ outcome = .error plain := by
    refine ⟨_, ⟨_, .answered _ ⟨_, .answered _ hmapped (.note (.done _)), rfl⟩ (.done _), rfl⟩, ?_⟩
    intro outcome
    have hnotes_left : .leave 3 outcome ∉ notes := by
      intro h
      obtain ⟨a, ha⟩ := hnotes_acts _ h
      cases ha
    simp [Entry.leaving, inner, hnotes_left]
  have hfails : FailsAt Failure.NamesNoStatus 3 es :=
    fun outcome h => ⟨plain, (hleft outcome).mp h, Failure.namesNoStatus_ofFault _⟩
  have hboxed : ∀ q, .enter 3 q ∈ es → ∃ acts, Prog.Run (ping.callback q) acts (some (.error boxed)) :=
    fun q _ => ⟨_, .step boxed (.done _)⟩
  obtain ⟨es', htold', hfails', halike⟩ :=
    hother ping.callback boxed es rep (Failure.namesNoStatus_ofFault _) htold hfails hboxed
  exact ⟨resolver, es, es', rep, hresolver, htold, (hleft _).mpr rfl, htold', hfails', halike.passed⟩

end Route
end Switchyard
