import Switchyard.Proofs.App.Assembly
import Switchyard.Proofs.App.Trace

/-!
  What a request to one of the application's services comes to.

  A request whose body cannot be gathered is rejected, one that no route answers is answered as such, and any
  other goes to the callback of a route, behind the filters in front and, if the route is one of the groups,
  the dark traffic filter (`Handled`).  The statement is about single runs, with anything going on beside
  them.

  * `handled_of_run` — every run of a service that is over is one of these;
  * `tame_handle`    — and whatever a service is asked, it comes to an end.
-/

namespace Switchyard.App

open Route

/-! ## Behind the filters -/

/-- What a route adds around a run of its callback: a dark call if it is one of the groups, there is a dark
    traffic filter, and its sampler accepts the request. -/
inductive Mirrored (dark : Dark.Setup State) (r : Route State) (q : Http.Request) :
    List (Prog.Action State Job) → List (Prog.Action State Job) → Prop where
  | page (hr : r ∈ pages (darkId? dark)) : Mirrored dark r q [] []
  | off (hr : r ∈ groupRoutes) (h : dark.settings? = none) : Mirrored dark r q [] []
  | on (hr : r ∈ groupRoutes) {settings : Dark.Settings State Http.Request}
      (h : dark.settings? = some settings) {sampled : Bool} {decision : List (Prog.Action State Job)}
      (hsampled : Prog.Run (settings.sampler.accepts q) decision (some sampled)) :
      Mirrored dark r q (Prog.essence decision ++ (settings.around sampled q.darkCopy).1)
        (settings.around sampled q.darkCopy).2

/-- The actions that matter are those of a run of a route's callback with a request, behind the filters; the
    response is the reply that the outcome is mapped to, with the id of the request. -/
def Served (ids : Nat → String) (dark : Dark.Setup State) (r : Route State) (req : Http.Request)
    (essence : List (Prog.Action State Job)) (rep : Http.Response) : Prop :=
  ∃ first id q before inner after outcome,
    Identified (State.freshId ids) req first id q ∧ Mirrored dark r q before after ∧
      Prog.Run (r.callback q) inner (some outcome) ∧
      rep = withRequestId id (Filter.replyTo mapping outcome) ∧
      essence = first ++ (before ++ Prog.essence inner ++ after)

variable {ids : Nat → String}

/-- Through the filters in front, with a stage behind them that maps failures. -/
theorem run_front {next : Http.Handler State} {req : Http.Request} {acts : List (Prog.Action State Job)}
    {out : Except DispatchError Http.Response}
    (h : Prog.Run (dispatched ((Filter.mapFailures mapping).wrap (Chain.compose (frontFilters ids) next)) req) acts
      (some out)) :
    ∃ first id q inner acts', Identified (State.freshId ids) req first id q ∧
      Prog.Run (next q) acts' (some inner) ∧ out = .ok (Filter.replyTo mapping (repeatId id inner)) ∧
      Prog.essence acts = first ++ Prog.essence acts' := by
  obtain ⟨outcome, hmapped, rfl⟩ := Prog.runs_map_some_iff.mp h
  obtain ⟨identified, acts₁, hfront, rfl, hessence₁⟩ := run_mapFailures hmapped
  obtain ⟨first, id, q, inner, acts₂, hid, hlogged, rfl, hessence₂⟩ := run_requestIds hfront
  obtain ⟨acts₃, hcounted, hessence₃⟩ := run_logging hlogged
  obtain ⟨acts₄, hnext, hessence₄⟩ := run_stats hcounted
  refine ⟨first, id, q, inner, acts₄, hid, hnext, rfl, ?_⟩
  rw [hessence₁, hessence₂, hessence₃, hessence₄]

/-- **A page is served** with what stands in front of every route around it, and no copy is sent of its
    request. -/
theorem served_page {dark : Dark.Setup State} {r : Route State} (hr : r ∈ pages (darkId? dark))
    {req : Http.Request} {acts : List (Prog.Action State Job)} {out : Except DispatchError Http.Response}
    (h : Prog.Run (dispatched ((stages mapping (frontFilters ids) []).compose r.callback) req) acts (some out)) :
    ∃ rep, out = .ok rep ∧ Served ids dark r req (Prog.essence acts) rep := by
  rw [Chain.compose_stages] at h
  obtain ⟨first, id, q, mapped, acts₁, hid, hnext, rfl, hessence₁⟩ := run_front h
  obtain ⟨outcome, inner, hcallback, rfl, hessence₂⟩ := run_mapFailures hnext
  refine ⟨_, rfl, first, id, q, [], inner, [], outcome, hid, .page hr, hcallback, rfl, ?_⟩
  rw [hessence₁, hessence₂, List.nil_append, List.append_nil]

/-- **A request to the groups is served** with all of that around it, and with dark traffic innermost. -/
theorem served_group {dark : Dark.Setup State} {r : Route State} (hr : r ∈ groupRoutes)
    {req : Http.Request} {acts : List (Prog.Action State Job)} {out : Except DispatchError Http.Response}
    (h : Prog.Run (dispatched ((stages mapping (frontFilters ids ++ dark.chain) []).compose r.callback) req) acts
      (some out)) :
    ∃ rep, out = .ok rep ∧ Served ids dark r req (Prog.essence acts) rep := by
  rw [Chain.compose_stages, Chain.compose_append] at h
  obtain ⟨first, id, q, mapped, acts₁, hid, hnext, rfl, hessence₁⟩ := run_front h
  cases hsettings : dark.settings? with
  | none =>
    rw [Dark.Setup.chain, hsettings] at hnext
    obtain ⟨outcome, inner, hcallback, rfl, hessence₂⟩ := run_mapFailures hnext
    refine ⟨_, rfl, first, id, q, [], inner, [], outcome, hid, .off hr hsettings, hcallback, rfl, ?_⟩
    rw [hessence₁, hessence₂, List.nil_append, List.append_nil]
  | some settings =>
    rw [Dark.Setup.chain, hsettings] at hnext
    obtain ⟨sampled, decision, acts₂, hdecision, hmapped, hessence₂⟩ := settings.run_dark hnext
    obtain ⟨outcome, inner, hcallback, rfl, hessence₃⟩ := run_mapFailures hmapped
    refine ⟨_, rfl, first, id, q, _, inner, _, outcome, hid, .on hr hsettings hdecision, hcallback, rfl, ?_⟩
    rw [hessence₁, hessence₂, hessence₃]
    simp only [List.append_assoc]

/-! ## Services -/

/-- A request that no route answers comes to that, and nothing is done but to tell of it. -/
theorem run_notFound {i : Interface} {req : Http.Request} {acts : List (Prog.Action State Job)}
    {out : Except DispatchError Http.Response} (h : Prog.Run (notFound i req) acts (some out)) :
    out = .error (.routeNotFound req.method req.target.path) ∧ Prog.essence acts = [] := by
  obtain ⟨acts₁, h, hessence₁⟩ := Prog.run_note rfl h
  obtain ⟨acts₂, h, hessence₂⟩ := Prog.run_note rfl h
  obtain ⟨hout, hnothing⟩ := Prog.run_done h
  exact ⟨hout, hessence₁.trans (hessence₂.trans hnothing)⟩

/-- What handling a request on an interface comes to. -/
inductive Handled (ids : Nat → String) (dark : Dark.Setup State) (s : Http.Service State) (head : Http.Request)
    (chunks : List Http.Chunk) (acts : List (Prog.Action State Job)) (rep : Http.Response) : Prop where
  /-- The body cannot be gathered. -/
  | rejected {e : String} (hbody : Http.gather s.bodyLimit chunks = .error e)
      (hrep : rep = .error 413 "request body too large or unreadable") (hacts : Prog.essence acts = [])
  /-- No route answers. -/
  | unmatched {body : Bytes} (hbody : Http.gather s.bodyLimit chunks = .ok body)
      (hroutes : Unanswered (pages (darkId? dark) ++ groupRoutes) s.interface head.method head.target.path)
      (hrep : rep = .error 404 (DispatchError.routeNotFound head.method head.target.path).message)
      (hacts : Prog.essence acts = [])
  /-- A route answers, and its callback is run behind the filters. -/
  | served {body : Bytes} {r : Route State} {params : Params}
      (hbody : Http.gather s.bodyLimit chunks = .ok body)
      (hroute : r.Answers s.interface head.method head.target.path params)
      (hserved : Served ids dark r ({ head with body := body }.enter r params) (Prog.essence acts) rep) :
      Handled ids dark s head chunks acts rep

section Services

variable {c : Config} {n : Dark.Network} {app : Built}

/-- **Every run of a service is a rejection, an answer that there is no route, or a run of a callback behind
    the filters.** -/
theorem handled_of_run {dark : Dark.Setup State}
    (htable : app.router.table.routes = compiled mapping (registered [] (accepted (history ids dark))))
    {i : Interface} {head : Http.Request} {chunks : List Http.Chunk} {acts : List (Prog.Action State Job)}
    {rep : Http.Response} (hrun : Prog.Run ((app.service c i).handle head chunks) acts (some rep)) :
    Handled ids dark (app.service c i) head chunks acts rep := by
  rw [Http.Service.handle] at hrun
  cases hbody : Http.gather (app.service c i).bodyLimit chunks with
  | error e =>
    rw [hbody] at hrun
    obtain ⟨acts', hdone, hessence⟩ := Prog.run_note rfl hrun
    obtain ⟨rfl, hnothing⟩ := Prog.run_done hdone
    exact .rejected hbody rfl (hessence.trans hnothing)
  | ok body =>
    rw [hbody] at hrun
    obtain ⟨out, first, second, hdispatch, hrespond, hessence⟩ := Prog.run_bind hrun
    -- a reply is handed on as it is
    have hreply : ∀ {rep' : Http.Response}, out = .ok rep' →
        rep = rep' ∧ Prog.essence acts = Prog.essence first := by
      rintro rep' rfl
      obtain ⟨hrep, hnothing⟩ := Prog.run_done hrespond
      rw [hessence, hnothing, List.append_nil]
      exact ⟨hrep, rfl⟩
    have htakes := takes_dispatch htable (o := { interface := i }) rfl { head with body := body }
    generalize hprogram : app.router.dispatch { interface := i } { head with body := body } = p at htakes
    rw [show (app.service c i).router.dispatch { interface := (app.service c i).interface }
      { head with body := body } = p from hprogram] at hdispatch
    cases htakes with
    | unmatched hnone =>
      obtain ⟨rfl, hquiet⟩ := run_notFound hdispatch
      obtain ⟨hrep, hnothing⟩ := Prog.run_done hrespond
      refine .unmatched hbody hnone hrep ?_
      rw [hessence, hquiet, hnothing, List.append_nil]
    | page hr hanswers =>
      obtain ⟨rep', hout, hserved⟩ := served_page hr hdispatch
      obtain ⟨rfl, hsame⟩ := hreply hout
      exact .served hbody hanswers (hsame ▸ hserved)
    | group hr hanswers =>
      obtain ⟨rep', hout, hserved⟩ := served_group hr hdispatch
      obtain ⟨rfl, hsame⟩ := hreply hout
      exact .served hbody hanswers (hsame ▸ hserved)

end Services

/-! ## Coming to an end -/

section

open Groups

variable {a : Access State} {q : Http.Request}

/-- Creating a group only changes the state. -/
theorem plain_createGroup : (createGroup a q).Plain := by
  rw [createGroup]
  cases readName q.body with
  | error e => exact trivial
  | ok name => exact fun s => trivial

/-- A callback for one group is plain if what it does with the group is. -/
theorem plain_onGroup {act : GroupId → Flow State Empty Empty (Outcome Http.Response)}
    (hact : ∀ id, (act id).Plain) : (onGroup act q).Plain := by
  simp only [onGroup]
  cases readId ((q.param? "id").getD "") with
  | none => exact trivial
  | some id => exact hact id

theorem plain_showGroup : (showGroup a q).Plain := by
  refine plain_onGroup fun id s => ?_
  simp only [Prog.done_bind]
  split
  · exact trivial
  · exact trivial

theorem plain_removeGroup : (removeGroup a q).Plain := plain_onGroup fun _ _ => trivial

/-- **A callback does nothing but change the state and read the record**, and comes to an end. -/
theorem plain_callback {dark? : Option DarkId} {r : Route State} (hr : r ∈ pages dark? ++ groupRoutes) :
    (r.callback q).Plain := by
  have hgroups : ∀ r ∈ groupRoutes, (r.callback q).Plain := by
    simp only [groupRoutes, List.forall_mem_cons]
    exact ⟨plain_createGroup, fun s => trivial, plain_showGroup, plain_removeGroup, List.forall_mem_nil _⟩
  have hpages : ∀ r ∈ pages dark?, (r.callback q).Plain := by
    cases dark? with
    | none =>
      simp only [pages, List.forall_mem_append, List.forall_mem_cons]
      exact ⟨⟨fun s => trivial, fun s => trivial, List.forall_mem_nil _⟩, List.forall_mem_nil _⟩
    | some id =>
      simp only [pages, List.forall_mem_append, List.forall_mem_cons]
      exact ⟨⟨fun s => trivial, fun s => trivial, List.forall_mem_nil _⟩,
        List.forall_mem_singleton.mpr fun past => trivial⟩
  rcases List.mem_append.mp hr with hr | hr
  · exact hpages r hr
  · exact hgroups r hr

end

section

variable {c : Config} {app : Built} {dark : Dark.Setup State} {ofJob : Job → Prop}

/-- Dispatching to a tame handler is tame. -/
theorem tame_dispatched {h : Http.Handler State} (hh : ∀ req, (h req).Tame ofJob) (req : Http.Request) :
    (dispatched h req).Tame ofJob :=
  (hh req).bind fun _ => Prog.tame_done _

/-- **Whatever a service is asked, it comes to an end**; the jobs that it starts are dark calls. -/
theorem tame_handle
    (htable : app.router.table.routes = compiled mapping (registered [] (accepted (history ids dark))))
    (hjob : ∀ settings, dark.settings? = some settings →
      ∀ copy, ofJob ⟨settings.id, settings.dark copy⟩)
    (i : Interface) (head : Http.Request) (chunks : List Http.Chunk) :
    ((app.service c i).handle head chunks).Tame ofJob := by
  have hfront : ∀ f ∈ Filter.mapFailures mapping :: frontFilters ids, ∀ req, (f req).Tame ofJob := by
    simp only [frontFilters, List.forall_mem_cons]
    exact ⟨Filter.tame_mapFailures _, tame_requestIds _, tame_logging, tame_stats, List.forall_mem_nil _⟩
  have hdark : ∀ f ∈ dark.chain, ∀ req, (f req).Tame ofJob := by
    rw [Dark.Setup.chain]
    cases hsettings : dark.settings? with
    | none => exact List.forall_mem_nil _
    | some settings =>
      exact List.forall_mem_singleton.mpr (settings.tame_filter fun req => hjob settings hsettings _)
  -- behind the stages of any path
  have hroute : ∀ {global : Http.Chain State} {r : Route State},
      (∀ f ∈ global, ∀ req, (f req).Tame ofJob) → r ∈ pages (darkId? dark) ++ groupRoutes →
      ∀ req, (dispatched ((stages mapping global []).compose r.callback) req).Tame ofJob := by
    intro global r hglobal hr req
    refine tame_dispatched (Chain.tame_compose ?_ fun q => (plain_callback hr).tame) req
    rw [stages]
    refine List.forall_mem_cons.mpr ⟨Filter.tame_mapFailures _, List.forall_mem_append.mpr ⟨hglobal, ?_⟩⟩
    exact List.forall_mem_singleton.mpr (Filter.tame_mapFailures _)
  have hrespond : ∀ out, (Http.Service.respond out : Flow State _ _ _).Tame ofJob := by
    intro out
    cases out with
    | ok rep => exact Prog.tame_done _
    | error e =>
      cases e with
      | unhandled f => exact Prog.tame_note (Prog.tame_done _)
      | _ => exact Prog.tame_done _
  rw [Http.Service.handle]
  cases Http.gather (app.service c i).bodyLimit chunks with
  | error e => exact Prog.tame_note (Prog.tame_done _)
  | ok body =>
    have htakes := takes_dispatch htable (o := { interface := i }) rfl { head with body := body }
    refine Prog.Tame.bind ?_ hrespond
    show (app.router.dispatch { interface := i } { head with body := body }).Tame ofJob
    generalize app.router.dispatch { interface := i } { head with body := body } = p at htakes
    cases htakes with
    | unmatched hnone => exact (Prog.tame_observeAll _).bind fun _ => Prog.tame_done _
    | page hr hanswers =>
      exact hroute (List.forall_mem_cons.mp hfront).2 (List.mem_append_left _ hr) _
    | group hr hanswers =>
      exact hroute (List.forall_mem_append.mpr ⟨(List.forall_mem_cons.mp hfront).2, hdark⟩)
        (List.mem_append_right _ hr) _

end

/-! ## Visits -/

/-- A request to a service of the application, and the milliseconds that pass before the next. -/
structure Visit where
  interface : Interface := .external
  head : Http.Request
  chunks : List Http.Chunk := []
  pause : Nat := 0

/-- What the application does for a visit. -/
def Built.visit (app : Built) (c : Config) (v : Visit) : Flow State Empty Empty Http.Response × Nat :=
  ((app.service c v.interface).handle v.head v.chunks, v.pause)

end Switchyard.App
