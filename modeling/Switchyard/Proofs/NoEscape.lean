import Switchyard.Http.Service
import Switchyard.Proofs.Filter.Ending
import Switchyard.Proofs.Route.Dispatch
import Switchyard.Proofs.Rpc.Dispatch

/-!
  No failure leaves a router.

  The outermost stage of every path maps failures, whatever calls built the router; so a dispatched request or
  call ends with a reply or with the refusal that there is nothing to dispatch it to, unless it is to bypass
  the stages.  This would be true of a router that ends with nothing at all, so it is said in three parts:

  * what dispatching is, as a program: the callback of the first route that answers, behind its stages or
    alone, or the refusal (`Route.Dispatches`, `Rpc.Dispatches`);
  * that it comes to an end if what it runs does: the stages of the router itself add nothing that could go on
    (`Route.ends_dispatch`, `Rpc.ends_dispatch`);
  * and that what it comes to is no failure, but for the one of a callback whose stages are bypassed
    (`reply_or_notFound`, `run_dispatch_unhandled_iff`).

  A service therefore responds to every request, and never comes to the answers that it keeps for failures: it
  does the same whatever these are (`Service.handle_eq_handleOr`).

  The main statement is `no_failure_escapes`, for both kinds of routers and the service.
-/

namespace Switchyard

/-! ## HTTP routers -/

namespace Route

variable {σ : Type} {acts : List (Prog.Action σ Job)}

/-- What dispatching a request is, in a router that was frozen after these calls. -/
inductive Dispatches (calls : List (BuildCall σ)) (o : Options) (req : Http.Request) :
    Flow σ Empty Empty (Except DispatchError Http.Response) → Prop where
  /-- The callback of the first route that answers is run, behind the stages that are not bypassed. -/
  | routed {resolver : Resolver Http.Response} {earlier later : List (Route σ)} {r : Route σ}
      {global : Http.Chain σ} {params : Params} (hresolver : (mappersOf (accepted calls)).build = .ok resolver)
      (hroutes : acceptedRoutes calls = earlier ++ r :: later)
      (hfirst : AnswersFirst earlier r o.interface req.method req.target.path params)
      (hglobal : ⟨r, global⟩ ∈ registered [] (accepted calls)) :
      Dispatches calls o req
        (dispatched ((stagesFor o.bypass resolver global r.filters).compose r.callback) (req.enter r params))
  /-- No route answers. -/
  | refused (hnone : Unanswered (acceptedRoutes calls) o.interface req.method req.target.path) :
      Dispatches calls o req (notFound o.interface req)

/-- All that a request goes through on its way to a registered route comes to an end: the callback, and in front
    of it the filters, unless they are bypassed. -/
structure Registered.Ends (p : Registered σ) (bypass : Bool) : Prop where
  callback : ∀ req, (p.route.callback req).Ends
  filters : bypass = false → Chain.Ends p.global ∧ Chain.Ends p.route.filters

/-- So it is for every route that answers the request. -/
def PathEnds (calls : List (BuildCall σ)) (o : Options) (req : Http.Request) : Prop :=
  ∀ p ∈ registered [] (accepted calls), ∀ params,
    p.route.Answers o.interface req.method req.target.path params → p.Ends o.bypass

section Frozen

variable {calls : List (BuildCall σ)} {router : Router σ} {o : Options} {req : Http.Request}

theorem dispatches_of_freeze (hfreeze : (built calls).freeze.result = .ok router) (o : Options)
    (req : Http.Request) : Dispatches calls o req (router.dispatch o req) := by
  obtain ⟨resolver, hresolver, htable⟩ := router_of_freeze hfreeze
  rcases answersFirst_or_unanswered (acceptedRoutes calls) o.interface req.method req.target.path with
    ⟨earlier, r, later, params, hroutes, hfirst⟩ | hnone
  · obtain ⟨global, hglobal, hdispatch⟩ := dispatch_of_accepted htable hroutes hfirst
    rw [hdispatch]
    exact .routed hresolver hroutes hfirst hglobal
  · rw [dispatch_of_unanswered htable hnone]
    exact .refused hnone

/-- **Dispatching comes to an end if what it runs does.** -/
theorem ends_dispatch (hfreeze : (built calls).freeze.result = .ok router) (hends : PathEnds calls o req) :
    (router.dispatch o req).Ends := by
  have hdispatches := dispatches_of_freeze hfreeze o req
  generalize router.dispatch o req = p at hdispatches
  cases hdispatches with
  | @routed resolver earlier later r global params hresolver hroutes hfirst hglobal =>
    obtain ⟨hcallback, hfilters⟩ := hends _ hglobal params hfirst.answers
    exact ends_dispatched (Chain.ends_compose (ends_stagesFor hfilters resolver) hcallback _)
  | refused hnone => exact ends_refused _ _

/-- A request that no route answers comes to the refusal, on any machine. -/
theorem run_dispatch_of_unanswered (hfreeze : (built calls).freeze.result = .ok router)
    (hnone : Unanswered (acceptedRoutes calls) o.interface req.method req.target.path) (m : Machine σ) :
    ∃ m', Machine.run (router.dispatch o req) m = (some (.error (.routeNotFound req.method req.target.path)), m') := by
  obtain ⟨resolver, -, htable⟩ := router_of_freeze hfreeze
  rw [dispatch_of_unanswered htable hnone]
  exact ⟨_, rfl⟩

/-- Through the stages a request comes to a reply if a route answers it, and to the refusal if not. -/
theorem reply_or_notFound (hfreeze : (built calls).freeze.result = .ok router)
    (hbypass : o.bypass = false) {out : Except DispatchError Http.Response}
    (hrun : Prog.Run (router.dispatch o req) acts (some out)) :
    (Unanswered (acceptedRoutes calls) o.interface req.method req.target.path ∧
      out = .error (.routeNotFound req.method req.target.path)) ∨
    (¬ Unanswered (acceptedRoutes calls) o.interface req.method req.target.path ∧
      ∃ rep, out = .ok rep) := by
  obtain ⟨resolver, -, htable⟩ := router_of_freeze hfreeze
  rcases answersFirst_or_unanswered (acceptedRoutes calls) o.interface req.method req.target.path with
    ⟨earlier, r, later, params, hroutes, hfirst⟩ | hnone
  · obtain ⟨global, -, hdispatch⟩ := dispatch_of_accepted htable hroutes hfirst
    rw [hdispatch, hbypass] at hrun
    refine Or.inr ⟨?_, reply_of_run_stages hrun⟩
    intro hnone
    have hr : r ∈ acceptedRoutes calls := hroutes ▸ List.mem_append_right _ List.mem_cons_self
    exact hnone r hr params hfirst.answers
  · rw [dispatch_of_unanswered htable hnone] at hrun
    exact Or.inl ⟨hnone, out_of_run_refused hrun⟩

/-- A failure is handed out exactly if the stages are bypassed and the callback comes to it. -/
theorem run_dispatch_unhandled_iff (hfreeze : (built calls).freeze.result = .ok router) {f : Failure} :
    Prog.Run (router.dispatch o req) acts (some (.error (.unhandled f))) ↔
      o.bypass = true ∧ ∃ earlier r later params, acceptedRoutes calls = earlier ++ r :: later ∧
        AnswersFirst earlier r o.interface req.method req.target.path params ∧
        Prog.Run (r.callback (req.enter r params)) acts (some (.error f)) := by
  obtain ⟨resolver, -, htable⟩ := router_of_freeze hfreeze
  constructor
  · intro hrun
    rcases answersFirst_or_unanswered (acceptedRoutes calls) o.interface req.method req.target.path with
      ⟨earlier, r, later, params, hroutes, hfirst⟩ | hnone
    · obtain ⟨global, -, hdispatch⟩ := dispatch_of_accepted htable hroutes hfirst
      rw [hdispatch] at hrun
      obtain ⟨hbypass, hrun⟩ := run_stagesFor_unhandled_iff.mp hrun
      exact ⟨hbypass, earlier, r, later, params, hroutes, hfirst, hrun⟩
    · rw [dispatch_of_unanswered htable hnone] at hrun
      nomatch out_of_run_refused hrun
  · rintro ⟨hbypass, earlier, r, later, params, hroutes, hfirst, hrun⟩
    obtain ⟨global, -, hdispatch⟩ := dispatch_of_accepted htable hroutes hfirst
    rw [hdispatch]
    exact run_stagesFor_unhandled_iff.mpr ⟨hbypass, hrun⟩

end Frozen
end Route

/-! ## Service routers -/

namespace Rpc

variable {σ : Type} {acts : List (Prog.Action σ Job)}

/-- What dispatching a call is, in a router that was frozen after these calls. -/
inductive Dispatches (calls : List (BuildCall σ)) (bypass : Bool) (call : Call) :
    Flow σ Empty Empty (Except DispatchError Reply) → Prop where
  /-- The callback of the method of that name is run, behind the stages that are not bypassed. -/
  | routed {resolver : Resolver Reply} {m : Method σ}
      (hresolver : (mappersOf (accepted calls)).build = .ok resolver) (hm : m ∈ acceptedMethods calls)
      (hname : m.name = call.method) :
      Dispatches calls bypass call
        (dispatched ((stagesFor bypass resolver (acceptedFilters calls) m.filters).compose m.callback) call)
  /-- No method has that name. -/
  | refused (hne : ∀ m ∈ acceptedMethods calls, m.name ≠ call.method) :
      Dispatches calls bypass call (notFound call)

/-- All that the call goes through on its way to a method of its name comes to an end: the callback, and in front
    of it the filters, unless they are bypassed. -/
structure PathEnds (calls : List (BuildCall σ)) (bypass : Bool) (call : Call) : Prop where
  callback : ∀ m ∈ acceptedMethods calls, m.name = call.method → ∀ call', (m.callback call').Ends
  filters : bypass = false → Chain.Ends (acceptedFilters calls) ∧
    ∀ m ∈ acceptedMethods calls, m.name = call.method → Chain.Ends m.filters

section Frozen

variable {calls : List (BuildCall σ)} {router : Router σ} {bypass : Bool} {call : Call}

theorem dispatches_of_freeze (hfreeze : (built calls).freeze.result = .ok router) (bypass : Bool)
    (call : Call) : Dispatches calls bypass call (router.dispatch bypass call) := by
  obtain ⟨resolver, hresolver, htable, hnodup⟩ := router_of_freeze hfreeze
  rcases named_or_unnamed (acceptedMethods calls) call.method with ⟨m, hm, hname⟩ | hne
  · rw [dispatch_of_mem htable hnodup hm hname]
    exact .routed hresolver hm hname
  · rw [dispatch_of_forall_ne htable hne]
    exact .refused hne

/-- **Dispatching comes to an end if what it runs does.** -/
theorem ends_dispatch (hfreeze : (built calls).freeze.result = .ok router) (hends : PathEnds calls bypass call) :
    (router.dispatch bypass call).Ends := by
  have hdispatches := dispatches_of_freeze hfreeze bypass call
  generalize router.dispatch bypass call = p at hdispatches
  cases hdispatches with
  | @routed resolver m hresolver hm hname =>
    have hfilters : bypass = false → Chain.Ends (acceptedFilters calls) ∧ Chain.Ends m.filters :=
      fun hbypass => (hends.filters hbypass).imp_right fun hown => hown m hm hname
    exact ends_dispatched (Chain.ends_compose (ends_stagesFor hfilters resolver) (hends.callback m hm hname) _)
  | refused hne => exact ends_refused _ _

/-- A call whose name no method has comes to the refusal, on any machine. -/
theorem run_dispatch_of_unnamed (hfreeze : (built calls).freeze.result = .ok router)
    (hne : ∀ m ∈ acceptedMethods calls, m.name ≠ call.method) (m : Machine σ) :
    ∃ m', Machine.run (router.dispatch bypass call) m = (some (.error (.methodNotFound call.method)), m') := by
  obtain ⟨resolver, -, htable, -⟩ := router_of_freeze hfreeze
  rw [dispatch_of_forall_ne htable hne]
  exact ⟨_, rfl⟩

/-- Through the stages a call comes to a reply if a method has its name, and to the refusal if not. -/
theorem reply_or_notFound (hfreeze : (built calls).freeze.result = .ok router)
    (hbypass : bypass = false) {out : Except DispatchError Reply}
    (hrun : Prog.Run (router.dispatch bypass call) acts (some out)) :
    ((∃ m ∈ acceptedMethods calls, m.name = call.method) ∧ ∃ rep, out = .ok rep) ∨
    ((∀ m ∈ acceptedMethods calls, m.name ≠ call.method) ∧ out = .error (.methodNotFound call.method)) := by
  obtain ⟨resolver, -, htable, hnodup⟩ := router_of_freeze hfreeze
  rcases named_or_unnamed (acceptedMethods calls) call.method with ⟨m, hm, hname⟩ | hne
  · rw [dispatch_of_mem htable hnodup hm hname, hbypass] at hrun
    exact Or.inl ⟨⟨m, hm, hname⟩, reply_of_run_stages hrun⟩
  · rw [dispatch_of_forall_ne htable hne] at hrun
    exact Or.inr ⟨hne, out_of_run_refused hrun⟩

/-- A failure is handed out exactly if the stages are bypassed and the callback comes to it. -/
theorem run_dispatch_unhandled_iff (hfreeze : (built calls).freeze.result = .ok router) {f : Failure} :
    Prog.Run (router.dispatch bypass call) acts (some (.error (.unhandled f))) ↔
      bypass = true ∧ ∃ m ∈ acceptedMethods calls, m.name = call.method ∧
        Prog.Run (m.callback call) acts (some (.error f)) := by
  obtain ⟨resolver, -, htable, hnodup⟩ := router_of_freeze hfreeze
  constructor
  · intro hrun
    rcases named_or_unnamed (acceptedMethods calls) call.method with ⟨m, hm, hname⟩ | hne
    · rw [dispatch_of_mem htable hnodup hm hname] at hrun
      obtain ⟨hbypass, hrun⟩ := run_stagesFor_unhandled_iff.mp hrun
      exact ⟨hbypass, m, hm, hname, hrun⟩
    · rw [dispatch_of_forall_ne htable hne] at hrun
      nomatch out_of_run_refused hrun
  · rintro ⟨hbypass, m, hm, hname, hrun⟩
    rw [dispatch_of_mem htable hnodup hm hname]
    exact run_stagesFor_unhandled_iff.mpr ⟨hbypass, hrun⟩

end Frozen
end Rpc

/-! ## The service -/

namespace Http.Service

variable {σ : Type}

/-- The response to a body that cannot be gathered. -/
def tooLarge : Response := .error 413 "request body too large or unreadable"

/-- The response to what dispatching came to, with `fail` in place of the answers of a server error. -/
def respondOr (fail : DispatchError → Flow σ Empty Empty Response) :
    Except DispatchError Response → Flow σ Empty Empty Response
  | .ok rep => .done rep
  | .error e => if e.isNotFound then .done (.error 404 e.message) else fail e

/-- What a service does with a request, with `fail` in place of the answers of a server error. -/
def handleOr (fail : DispatchError → Flow σ Empty Empty Response) (s : Service σ) (head : Request)
    (chunks : List Chunk) : Flow σ Empty Empty Response :=
  match gather s.bodyLimit chunks with
  | .error e =>
    .note (.event ⟨.warn, "Failed to buffer request body",
      [("error", .text e), ("limit", .count s.bodyLimit)]⟩) (.done tooLarge)
  | .ok body =>
    (s.router.dispatch { interface := s.interface } { head with body := body }).bind (respondOr fail)

/-- What a service does is told by the branches of `respond`, the answers of a server error included. -/
theorem handle_eq (s : Service σ) (head : Request) (chunks : List Chunk) :
    s.handle head chunks = s.handleOr (fun e => respond (.error e)) head chunks := by
  rw [handle, handleOr]
  cases gather s.bodyLimit chunks with
  | error e => rfl
  | ok body =>
    refine congrArg (Prog.bind _) (funext fun out => ?_)
    cases out with
    | ok rep => rfl
    | error e => cases e <;> rfl

/-- Responding leaves an entry at most. -/
theorem ends_respond (out : Except DispatchError Response) : (respond out : Flow σ Empty Empty Response).Ends := by
  cases out with
  | ok rep => exact trivial
  | error e =>
    cases e with
    | unhandled f => exact trivial
    | _ => exact trivial

section Frozen

variable {calls : List (Route.BuildCall σ)} {s : Service σ}

/-- **A service comes to a response if what it dispatches to comes to an end.** -/
theorem ends_handle (hfreeze : (Route.built calls).freeze.result = .ok s.router) {head : Request}
    {chunks : List Chunk}
    (hends : ∀ body, gather s.bodyLimit chunks = .ok body →
      Route.PathEnds calls { interface := s.interface } head) : (s.handle head chunks).Ends := by
  rw [handle]
  cases hgather : gather s.bodyLimit chunks with
  | error e => exact trivial
  | ok body =>
    -- the body is no matter of the choice of a route
    have hpath : Route.PathEnds calls { interface := s.interface } { head with body := body } :=
      hends body hgather
    exact Prog.ends_bind (Route.ends_dispatch hfreeze hpath) ends_respond

/-- **The answers of a server error are out of reach**: a service does the same whatever they are. -/
theorem handle_eq_handleOr (hfreeze : (Route.built calls).freeze.result = .ok s.router)
    (fail : DispatchError → Flow σ Empty Empty Response) (head : Request) (chunks : List Chunk) :
    s.handle head chunks = s.handleOr fail head chunks := by
  rw [handle_eq, handleOr, handleOr]
  cases gather s.bodyLimit chunks with
  | error e => rfl
  | ok body =>
    -- the answers need only agree on what dispatching can come to
    refine Prog.bind_congr_of_run fun acts out hrun => ?_
    rcases Route.reply_or_notFound hfreeze rfl hrun with ⟨-, rfl⟩ | ⟨-, rep, rfl⟩
    · rfl
    · rfl

/-- A response is that to a body that cannot be gathered, that to a request that no route answers, or
    the one that dispatching came to. -/
theorem response_cases (hfreeze : (Route.built calls).freeze.result = .ok s.router) {head : Request}
    {chunks : List Chunk} {acts : List (Prog.Action σ Job)} {rep : Response}
    (hrun : Prog.Run (s.handle head chunks) acts (some rep)) :
    (∃ e, gather s.bodyLimit chunks = .error e ∧ rep = tooLarge) ∨
    (∃ body, gather s.bodyLimit chunks = .ok body ∧
      Route.Unanswered (Route.acceptedRoutes calls) s.interface head.method head.target.path ∧
      rep = .error 404 (DispatchError.routeNotFound head.method head.target.path).message) ∨
    (∃ body, gather s.bodyLimit chunks = .ok body ∧
      ¬ Route.Unanswered (Route.acceptedRoutes calls) s.interface head.method head.target.path ∧
      Prog.Run (s.router.dispatch { interface := s.interface } { head with body := body }) acts
        (some (.ok rep))) := by
  rw [handle_eq, handleOr] at hrun
  cases hgather : gather s.bodyLimit chunks with
  | error e =>
    rw [hgather] at hrun
    rcases Prog.runs_note_iff.mp hrun with ⟨-, hstop⟩ | ⟨es, hrun, -⟩
    · nomatch hstop
    obtain ⟨-, hstop | hrep⟩ := Prog.runs_done_iff.mp hrun
    · nomatch hstop
    · exact Or.inl ⟨e, rfl, Option.some.inj hrep⟩
  | ok body =>
    rw [hgather] at hrun
    rcases Prog.runs_bind_iff.mp hrun with ⟨hstop, -⟩ | ⟨out, es₁, es₂, hdispatch, hrespond, rfl⟩
    · nomatch hstop
    rcases Route.reply_or_notFound hfreeze rfl hdispatch with ⟨hnone, rfl⟩ | ⟨hsome, rep', rfl⟩
    · obtain ⟨-, hstop | hrep⟩ := Prog.runs_done_iff.mp hrespond
      · nomatch hstop
      · exact Or.inr (Or.inl ⟨body, rfl, hnone, Option.some.inj hrep⟩)
    · obtain ⟨rfl, hstop | hrep⟩ := Prog.runs_done_iff.mp hrespond
      · nomatch hstop
      · obtain rfl : rep = rep' := Option.some.inj hrep
        rw [List.append_nil]
        exact Or.inr (Or.inr ⟨body, rfl, hsome, hdispatch⟩)

end Frozen
end Http.Service

/-! ## Both routers and the service -/

/-- No failure leaves an HTTP router that was frozen after these calls. -/
structure Route.Contains {σ : Type} (calls : List (BuildCall σ)) (router : Router σ) : Prop where
  /-- What dispatching is. -/
  dispatches : ∀ o req, Dispatches calls o req (router.dispatch o req)
  /-- On any machine a request comes to something, if what it goes through ends. -/
  ends : ∀ o req, PathEnds calls o req → ∀ m : Machine σ, ∃ out m' acts,
    Machine.run (router.dispatch o req) m = (some out, m') ∧ Prog.Run (router.dispatch o req) acts (some out)
  /-- And to the refusal, if no route answers it. -/
  refuses : ∀ o req, Unanswered (acceptedRoutes calls) o.interface req.method req.target.path →
    ∀ m : Machine σ, ∃ m', Machine.run (router.dispatch o req) m
      = (some (.error (.routeNotFound req.method req.target.path)), m')
  /-- Through the stages, it comes to nothing but the refusal or, if a route answers it, a reply. -/
  reply_or_notFound : ∀ o req acts out, o.bypass = false → Prog.Run (router.dispatch o req) acts (some out) →
    (Unanswered (acceptedRoutes calls) o.interface req.method req.target.path ∧
      out = .error (.routeNotFound req.method req.target.path)) ∨
    (¬ Unanswered (acceptedRoutes calls) o.interface req.method req.target.path ∧ ∃ rep, out = .ok rep)
  /-- A failure is handed out exactly if the stages are bypassed and the selected callback comes to it. -/
  unhandled_iff : ∀ o req acts f, Prog.Run (router.dispatch o req) acts (some (.error (.unhandled f))) ↔
    o.bypass = true ∧ ∃ earlier r later params,
      acceptedRoutes calls = earlier ++ r :: later ∧
      AnswersFirst earlier r o.interface req.method req.target.path params ∧
      Prog.Run (r.callback (req.enter r params)) acts (some (.error f))

/-- No failure leaves a service router that was frozen after these calls. -/
structure Rpc.Contains {σ : Type} (calls : List (BuildCall σ)) (router : Router σ) : Prop where
  /-- What dispatching is. -/
  dispatches : ∀ bypass call, Dispatches calls bypass call (router.dispatch bypass call)
  /-- On any machine a call comes to something, if what it goes through ends. -/
  ends : ∀ bypass call, PathEnds calls bypass call → ∀ m : Machine σ, ∃ out m' acts,
    Machine.run (router.dispatch bypass call) m = (some out, m') ∧
      Prog.Run (router.dispatch bypass call) acts (some out)
  /-- And to the refusal, if no method has its name. -/
  refuses : ∀ bypass call, (∀ m ∈ acceptedMethods calls, m.name ≠ call.method) →
    ∀ m : Machine σ, ∃ m', Machine.run (router.dispatch bypass call) m
      = (some (.error (.methodNotFound call.method)), m')
  /-- Through the stages, it comes to nothing but a reply, if a method has its name, or the refusal. -/
  reply_or_notFound : ∀ call acts out, Prog.Run (router.dispatch false call) acts (some out) →
    ((∃ m ∈ acceptedMethods calls, m.name = call.method) ∧ ∃ rep, out = .ok rep) ∨
    ((∀ m ∈ acceptedMethods calls, m.name ≠ call.method) ∧ out = .error (.methodNotFound call.method))
  /-- A failure is handed out exactly if the stages are bypassed and the selected callback comes to it. -/
  unhandled_iff : ∀ bypass call acts f,
    Prog.Run (router.dispatch bypass call) acts (some (.error (.unhandled f))) ↔
      bypass = true ∧ ∃ m ∈ acceptedMethods calls, m.name = call.method ∧
        Prog.Run (m.callback call) acts (some (.error f))

/-- A service in front of an HTTP router that was frozen after these calls responds, and to no failure. -/
structure Http.Service.Responds {σ : Type} (calls : List (Route.BuildCall σ)) (s : Service σ) : Prop where
  /-- What handling a request is, and that the answers to a failure are of no matter. -/
  handle_eq : ∀ head chunks fail, s.handle head chunks = s.handleOr fail head chunks
  /-- On any machine there is a response, if what the request goes through ends, or its body cannot be
      gathered. -/
  ends : ∀ head chunks, (∀ body, gather s.bodyLimit chunks = .ok body →
      Route.PathEnds calls { interface := s.interface } head) →
    ∀ m : Machine σ, ∃ rep m' acts, Machine.run (s.handle head chunks) m = (some rep, m') ∧
      Prog.Run (s.handle head chunks) acts (some rep)
  /-- It is one of three, told apart by the body and the accepted routes. -/
  response : ∀ head chunks acts rep, Prog.Run (s.handle head chunks) acts (some rep) →
    (∃ e, gather s.bodyLimit chunks = .error e ∧ rep = tooLarge) ∨
    (∃ body, gather s.bodyLimit chunks = .ok body ∧
      Route.Unanswered (Route.acceptedRoutes calls) s.interface head.method head.target.path ∧
      rep = .error 404 (DispatchError.routeNotFound head.method head.target.path).message) ∨
    (∃ body, gather s.bodyLimit chunks = .ok body ∧
      ¬ Route.Unanswered (Route.acceptedRoutes calls) s.interface head.method head.target.path ∧
      Prog.Run (s.router.dispatch { interface := s.interface } { head with body := body }) acts
        (some (.ok rep)))

/-- **No failure escapes.**  A router that was frozen after any calls comes to a reply or to its refusal,
    if the stages are not bypassed, and it comes to one of them whenever the filters and the callback of the
    path come to an end; a failure is handed out exactly if the stages are bypassed and the selected callback
    comes to it, and it is that same failure.  A service in front of the router responds in one of three ways,
    told apart by the body and the accepted routes, and does the same whatever it would answer to a failure. -/
theorem no_failure_escapes {σ τ : Type}
    {calls : List (Route.BuildCall σ)} {router : Route.Router σ}
    (hfreeze : (Route.built calls).freeze.result = .ok router)
    {rpcCalls : List (Rpc.BuildCall τ)} {rpcRouter : Rpc.Router τ}
    (hfreeze' : (Rpc.built rpcCalls).freeze.result = .ok rpcRouter) :
    Route.Contains calls router ∧ Rpc.Contains rpcCalls rpcRouter ∧
      ∀ s : Http.Service σ, s.router = router → s.Responds calls := by
  refine ⟨⟨?_, ?_, ?_, ?_, ?_⟩, ⟨?_, ?_, ?_, ?_, ?_⟩, ?_⟩
  · exact Route.dispatches_of_freeze hfreeze
  · intro o req hends m
    exact Machine.exists_run_of_ends (Route.ends_dispatch hfreeze hends) m
  · intro o req hnone m
    exact Route.run_dispatch_of_unanswered hfreeze hnone m
  · intro o req acts out hbypass hrun
    exact Route.reply_or_notFound hfreeze hbypass hrun
  · intro o req acts f
    exact Route.run_dispatch_unhandled_iff hfreeze
  · exact Rpc.dispatches_of_freeze hfreeze'
  · intro bypass call hends m
    exact Machine.exists_run_of_ends (Rpc.ends_dispatch hfreeze' hends) m
  · intro bypass call hne m
    exact Rpc.run_dispatch_of_unnamed hfreeze' hne m
  · intro call acts out hrun
    exact Rpc.reply_or_notFound hfreeze' rfl hrun
  · intro bypass call acts f
    exact Rpc.run_dispatch_unhandled_iff hfreeze'
  · rintro s rfl
    refine ⟨?_, ?_, ?_⟩
    · exact fun head chunks fail => Http.Service.handle_eq_handleOr hfreeze fail head chunks
    · intro head chunks hends m
      exact Machine.exists_run_of_ends (Http.Service.ends_handle hfreeze hends) m
    · intro head chunks acts rep hrun
      exact Http.Service.response_cases hfreeze hrun

/-- A callback that only fails, behind a filter that leaves an entry: through the stages the request comes to a
    reply, without them to the failure, and another request to the refusal.  A call to the service beside it
    comes to a reply. -/
theorem no_failure_escapes_ping :
    let ping : Route Unit :=
      { name := "ping", method := "GET", pattern := .constant "/ping"
        callback := fun _ => .done (.error (.ofMessage "no pong")) }
    let noting : Http.Filter Unit := fun req => .note (.mark "seen") (Prog.call req)
    let req : Http.Request := { target := { path := "/ping" } }
    let other : Http.Request := { target := { path := "/pong" } }
    let echo : Rpc.Method Unit :=
      { name := "echo", callback := fun call => .done (.ok (.reply call.payload)) }
    let call : Rpc.Call := { method := "echo" }
    let mapper : Mapper Rpc.Reply := { reply := fun f => .exception "Failure" f.text }
    let m : Machine Unit := ⟨(), [], []⟩
    ∃ router rpcRouter, (Route.built [.addFilter noting, .add ping]).freeze.result = .ok router ∧
      (Rpc.built [.setDefaultMapper mapper, .addController ⟨"Echo", [echo]⟩]).freeze.result
        = .ok rpcRouter ∧
      (∃ rep m', Machine.run (router.dispatch {} req) m = (some (.ok rep), m')) ∧
      (∃ m', Machine.run (router.dispatch {} other) m = (some (.error (.routeNotFound "GET" "/pong")), m')) ∧
      Prog.Run (router.dispatch { bypass := true } req) []
        (some (.error (.unhandled (.ofMessage "no pong")))) ∧
      (∃ rep m', Machine.run (rpcRouter.dispatch false call) m = (some (.ok rep), m')) ∧
      ∃ rep m', Machine.run (Http.Service.handle ⟨router, .external, 16⟩ req []) m = (some rep, m') := by
  intro ping noting req other echo call mapper m
  have hfreeze : (Route.built [.addFilter noting, .add ping]).freeze.result = .ok _ := rfl
  have hfreeze' : (Rpc.built [.setDefaultMapper mapper, .addController ⟨"Echo", [echo]⟩]).freeze.result
      = .ok _ := rfl
  obtain ⟨hroute, hrpc, hservice⟩ := no_failure_escapes hfreeze hfreeze'
  have hfirst : Route.AnswersFirst [] ping .external req.method req.target.path {} :=
    ⟨⟨by decide, rfl, by decide⟩, fun r hr => nomatch hr⟩
  have hanswered : ¬ Route.Unanswered [ping] .external req.method req.target.path :=
    fun hnone => hnone ping List.mem_cons_self {} hfirst.answers
  have hunanswered : Route.Unanswered [ping] .external other.method other.target.path := by
    refine List.forall_mem_singleton.mpr fun params hparams => ?_
    cases (show ping.pattern.matchPath? other.target.path = none by decide).symm.trans hparams.path
  have hpath : Route.PathEnds [.addFilter noting, .add ping] {} req := by
    intro p hp params _
    obtain rfl := List.mem_singleton.mp hp
    exact ⟨fun _ => trivial, fun _ => ⟨List.forall_mem_singleton.mpr fun _ _ => trivial, List.forall_mem_nil _⟩⟩
  have hrpcPath : Rpc.PathEnds [.setDefaultMapper mapper, .addController ⟨"Echo", [echo]⟩] false call := by
    have hmethods : ∀ m ∈ [echo], m.name = call.method → ∀ call', (m.callback call').Ends :=
      List.forall_mem_singleton.mpr fun _ _ => trivial
    exact ⟨hmethods, fun _ => ⟨List.forall_mem_nil _, List.forall_mem_singleton.mpr fun _ => List.forall_mem_nil _⟩⟩
  refine ⟨_, _, hfreeze, hfreeze', ?_, ?_, ?_, ?_, ?_⟩
  · obtain ⟨out, m', acts, hmachine, hrun⟩ := hroute.ends {} req hpath m
    rcases hroute.reply_or_notFound {} req acts out rfl hrun with ⟨hnone, -⟩ | ⟨-, rep, rfl⟩
    · exact absurd hnone hanswered
    · exact ⟨rep, m', hmachine⟩
  · exact hroute.refuses {} other hunanswered m
  · exact (hroute.unhandled_iff _ req [] _).mpr ⟨rfl, [], ping, [], {}, rfl, hfirst, .done _⟩
  · obtain ⟨out, m', acts, hmachine, hrun⟩ := hrpc.ends false call hrpcPath m
    rcases hrpc.reply_or_notFound call acts out hrun with ⟨-, rep, rfl⟩ | ⟨hnone, -⟩
    · exact ⟨rep, m', hmachine⟩
    · exact absurd rfl (hnone echo List.mem_cons_self)
  · obtain ⟨rep, m', acts, hmachine, -⟩ := (hservice ⟨_, .external, 16⟩ rfl).ends req [] (fun _ _ => hpath) m
    exact ⟨rep, m', hmachine⟩

end Switchyard
