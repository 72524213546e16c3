import Switchyard.Proofs.Http.Headers
import Switchyard.Proofs.Route.Recording

/-!
  Request ids.

  The filter that gives out request ids passes a request on with its own id, if it has a readable one, or
  with a fresh one (`Identified`), and repeats the id on the reply that it gets (`repeatId`).

  If it stands outermost among the global filters, it gets a reply, and not a failure, whatever the callback
  and the route's own filters do: the stage behind the global filters maps their failures.  A failure that
  another global filter raises goes by, and is mapped outside of it.

  * `run_requestIds_iff`     — the runs of a request that is identified;
  * `request_id_is_echoed`   — the response carries the id, or a global filter raised a failure;
  * `request_id_is_dropped`  — and in the second case it may carry none.
-/

namespace Switchyard.Route

variable {σ : Type}

/-! ## The filter that gives out ids -/

/-- The request with an id. -/
def withId (req : Http.Request) (id : String) : Http.Request :=
  { req with headers := insertId id req.headers }

section Readable

variable {id : String} (hid : ∀ c ∈ id.toList, Http.Readable c) (h : Http.Headers)
include hid

/-- A readable id can be a header value, so it is put in place of the ids that were there. -/
theorem insertId_of_readable : insertId id h = h.insert Http.requestIdHeader (Bytes.ofString id) := by
  rw [insertId, Http.headerValue?_of_readable hid]

theorem getAll_insertId : (insertId id h).getAll Http.requestIdHeader = [Bytes.ofString id] := by
  rw [insertId_of_readable hid, Http.Headers.getAll_insert]

end Readable

/-- Whether or not an id is put in, the values of every other header stay. -/
theorem getAll_insertId_of_ne (id : String) (h : Http.Headers) {other : String}
    (hne : other ≠ Http.requestIdHeader) : (insertId id h).getAll other = h.getAll other := by
  rw [insertId]
  cases Http.headerValue? id with
  | none => rfl
  | some value => exact Http.Headers.getAll_insert_of_ne _ _ _ hne

/-- The id of a request is what the first value of its header is read as. -/
theorem requestId?_eq (req : Http.Request) :
    req.requestId? = (req.headers.getAll Http.requestIdHeader).head?.bind Http.headerText? := by
  rw [Http.Request.requestId?, Http.Headers.get?_eq_head?]

/-- A readable id that a request is given is its id. -/
theorem requestId?_withId (req : Http.Request) {id : String} (h : ∀ c ∈ id.toList, Http.Readable c) :
    (withId req id).requestId? = some id := by
  rw [requestId?_eq, withId, getAll_insertId h]
  exact Http.headerText?_eq_some_iff.mpr ⟨rfl, h⟩

/-- A request is identified: by its own id, or by a fresh one that it is given. -/
inductive Identified (fresh : σ → String × σ) (req : Http.Request) :
    List (Prog.Action σ Job) → String → Http.Request → Prop where
  | own {id : String} (h : req.requestId? = some id) : Identified fresh req [] id req
  | fresh (s : σ) (h : req.requestId? = none) :
      Identified fresh req [.changed s (fresh s).2] (fresh s).1 (withId req (fresh s).1)

/-- The outcome with an id on its reply. -/
def repeatId (id : String) : Outcome Http.Response → Outcome Http.Response
  | .ok rep => .ok (withRequestId id rep)
  | .error f => .error f

theorem wrap_requestIds (fresh : σ → String × σ) (next : Http.Handler σ) (req : Http.Request) :
    (requestIds fresh).wrap next req = match req.requestId? with
      | some id => (next req).bind fun o => .done (repeatId id o)
      | none => .step (fun s => (fresh s).2) fun s =>
          (next (withId req (fresh s).1)).bind fun o => .done (repeatId (fresh s).1 o) := by
  have hrepeat : ∀ (id : String) (o : Outcome Http.Response),
      Prog.answer next (match o with
        | .ok rep => pure (.ok (withRequestId id rep))
        | .error f => pure (.error f) : Flow σ Http.Request (Outcome Http.Response) (Outcome Http.Response))
      = .done (repeatId id o) := by
    intro id o
    cases o with
    | ok rep => rfl
    | error f => rfl
  show Prog.answer next ((identify fresh req).bind _) = _
  rw [identify]
  cases req.requestId? with
  | some id => exact congrArg (Prog.bind _) (funext (hrepeat id))
  | none =>
    refine congrArg (Prog.step _) (funext fun s => ?_)
    exact congrArg (Prog.bind _) (funext (hrepeat _))

/-- **The runs of a request that is identified**: giving it an id, if it has none, then what the rest of the
    path does with it, with the id repeated on what that comes to. -/
theorem run_requestIds_iff {fresh : σ → String × σ} {next : Http.Handler σ} {req : Http.Request}
    {acts : List (Prog.Action σ Job)} {outcome : Outcome Http.Response} :
    Prog.Run ((requestIds fresh).wrap next req) acts (some outcome) ↔
      ∃ first id passed inner acts', Identified fresh req first id passed ∧
        Prog.Run (next passed) acts' (some inner) ∧ outcome = repeatId id inner ∧ acts = first ++ acts' := by
  rw [wrap_requestIds]
  constructor
  · intro h
    cases hid : req.requestId? with
    | some id =>
      rw [hid] at h
      obtain ⟨inner, hnext, rfl⟩ := Prog.runs_map_some_iff.mp h
      exact ⟨[], id, req, inner, acts, .own hid, hnext, rfl, rfl⟩
    | none =>
      rw [hid] at h
      cases h with
      | step s h =>
        obtain ⟨inner, hnext, rfl⟩ := Prog.runs_map_some_iff.mp h
        exact ⟨_, _, _, inner, _, .fresh s hid, hnext, rfl, rfl⟩
  · rintro ⟨first, id, passed, inner, acts', hidentified, hnext, rfl, rfl⟩
    cases hidentified with
    | own hid =>
      rw [hid]
      exact Prog.runs_map_some_iff.mpr ⟨inner, hnext, rfl⟩
    | fresh s hid =>
      rw [hid]
      exact .step s (Prog.runs_map_some_iff.mpr ⟨inner, hnext, rfl⟩)

section Identified

variable {fresh : σ → String × σ} (hfresh : ∀ s, ∀ c ∈ (fresh s).1.toList, Http.Readable c)
  {req passed : Http.Request} {first : List (Prog.Action σ Job)} {id : String}
include hfresh

/-- Every id in use can be read if the fresh ones can: an own one was read off its request. -/
theorem Identified.readable (h : Identified fresh req first id passed) : ∀ c ∈ id.toList, Http.Readable c := by
  cases h with
  | own hid =>
    obtain ⟨bytes, -, hread⟩ := Option.bind_eq_some_iff.mp hid
    exact (Http.headerText?_eq_some_iff.mp hread).2
  | fresh s hid => exact hfresh s

/-- A request is passed on with its id. -/
theorem Identified.requestId? (h : Identified fresh req first id passed) : passed.requestId? = some id := by
  have hreadable := h.readable hfresh
  cases h with
  | own hid => exact hid
  | fresh s hid => exact requestId?_withId req hreadable

/-- The id that a request is passed on with is the first of its ids. -/
theorem Identified.get? (h : Identified fresh req first id passed) :
    passed.headers.get? Http.requestIdHeader = some (Bytes.ofString id) := by
  obtain ⟨bytes, hbytes, hread⟩ := Option.bind_eq_some_iff.mp (h.requestId? hfresh)
  rw [hbytes, (Http.headerText?_eq_some_iff.mp hread).1]

end Identified

/-- A reply on which a readable id is repeated has this id only. -/
theorem getAll_withRequestId {id : String} (hid : ∀ c ∈ id.toList, Http.Readable c) (rep : Http.Response) :
    (withRequestId id rep).headers.getAll Http.requestIdHeader = [Bytes.ofString id] :=
  getAll_insertId hid rep.headers

/-! ## The id of a response -/

/-- **The response carries the id of the request, unless a global filter raised a failure.**

    Fresh ids can be read, as the texts of UUIDs can.  A request that selects a route goes through the filter
    that gives out ids, which passes it on with an id.  If what the stages behind it come to is a reply, then
    this is the response, with this id as its only one: so it is if the callback, or one of the route's own
    filters, raised a failure.  Or else they come to a failure, which one of the other global filters raised;
    the response is what that is mapped to. -/
theorem request_id_is_echoed {fresh : σ → String × σ}
    (hfresh : ∀ s, ∀ c ∈ (fresh s).1.toList, Http.Readable c) {calls : List (BuildCall σ)}
    {router : Router σ} (hfreeze : (built calls).freeze.result = .ok router)
    (hfirst : Outermost (requestIds fresh) calls) {earlier later : List (Route σ)} {r : Route σ}
    (hroutes : acceptedRoutes calls = earlier ++ r :: later)
    {o : Options} {req : Http.Request} {params : Params} (hbypass : o.bypass = false)
    (hselected : AnswersFirst earlier r o.interface req.method req.target.path params)
    {acts : List (Prog.Action σ Job)} {out : Except DispatchError Http.Response}
    (hrun : Prog.Run (router.dispatch o req) acts (some out)) :
    ∃ resolver further first id passed es outcome rep,
      (mappersOf (accepted calls)).build = .ok resolver ∧
      ⟨r, requestIds fresh :: further⟩ ∈ registered [] (accepted calls) ∧
      Identified fresh (req.enter r params) first id passed ∧
      passed.headers.get? Http.requestIdHeader = some (Bytes.ofString id) ∧
      Chain.Account r.callback (further ++ Filter.mapFailures resolver :: r.filters) 2 passed es
        (some outcome) ∧
      out = .ok rep ∧
      (∃ later, acts = first ++ es.filterMap Entry.act? ++ later) ∧
      ((∃ reply, outcome = .ok reply ∧ rep = withRequestId id reply ∧
          rep.headers.getAll Http.requestIdHeader = [Bytes.ofString id]) ∨
        ∃ f, outcome = .error f ∧ rep = resolver.reply f ∧ Raised further.length 2 es) := by
  obtain ⟨resolver, further, hresolver, hmem, hdispatch⟩ :=
    dispatch_outermost hfreeze hfirst hroutes hbypass hselected
  rw [hdispatch, dispatched_outermost] at hrun
  obtain ⟨identified, outer, houter, rfl, hout⟩ := Prog.run_noted_iff.mp hrun
  obtain ⟨first, id, passed, outcome, inner, hid, hinner, rfl, rfl⟩ := run_requestIds_iff.mp houter
  obtain ⟨es, haccount, rfl⟩ := (Chain.run_compose_iff r.callback _ 2 _ _ _).mp hinner
  refine ⟨resolver, further, first, id, passed, es, outcome, _, hresolver, hmem, hid, hid.get? hfresh,
    haccount, hout, ⟨_, rfl⟩, ?_⟩
  cases outcome with
  | ok reply => exact Or.inl ⟨reply, rfl, rfl, getAll_withRequestId (hid.readable hfresh) reply⟩
  | error f => exact Or.inr ⟨f, rfl, rfl, raised_of_failed haccount⟩

/-- A callback whose failure is mapped to a conflict, which carries the id that the request came with. -/
theorem request_id_is_echoed_conflict :
    let fresh : Unit → String × Unit := fun _ => ("req-1", ())
    let route : Route Unit :=
      { name := "groups", method := "POST", pattern := .constant "/groups/"
        callback := fun _ => .done (.error (.ofHttp (.conflict "group exists"))) }
    let calls := [.addFilter (requestIds fresh), .add route]
    let req : Http.Request :=
      { method := "POST", target := { path := "/groups/" }
        headers := ⟨[(Http.requestIdHeader, Bytes.ofString "req-42")]⟩ }
    ∃ router acts rep, (built calls).freeze.result = .ok router ∧
      Prog.Run (router.dispatch {} req) acts (some (.ok rep)) ∧ rep.status = 409 ∧
      rep.headers.getAll Http.requestIdHeader = [Bytes.ofString "req-42"] := by
  intro fresh route calls req
  have hfreeze : (built calls).freeze.result = .ok _ := rfl
  have hfirst : Outermost (requestIds fresh) calls :=
    ⟨[], .addFilter (requestIds fresh), [.add route], [], rfl, List.forall_mem_nil _, rfl⟩
  have hroutes : acceptedRoutes calls = [] ++ route :: [] := rfl
  have hselected : AnswersFirst [] route ({} : Options).interface req.method req.target.path {} :=
    ⟨⟨by decide, rfl, by decide⟩, List.forall_mem_nil _⟩
  refine ⟨_, _, _, hfreeze, .note (.done _), rfl, ?_⟩
  have hfresh : ∀ s, ∀ c ∈ (fresh s).1.toList, Http.Readable c := by
    simp [fresh, Http.Readable]
  obtain ⟨resolver, further, first, id, passed, es, outcome, rep, -, hmem, hid, -, -, hout, -, hecho⟩ :=
    request_id_is_echoed hfresh hfreeze hfirst hroutes rfl hselected (.note (.done _))
  obtain rfl := Except.ok.inj hout
  rcases hecho with ⟨reply, -, -, honly⟩ | ⟨f, -, -, k, hk, -⟩
  · have hown : (req.enter route {}).requestId? = some "req-42" := by decide
    cases hid with
    | own hsome => rw [honly, Option.some.inj (hsome.symm.trans hown)]
    | fresh s hnone => cases hnone.symm.trans hown
  · -- there is no other global filter
    obtain rfl : further = [] := (List.cons.inj (Registered.mk.inj (List.mem_singleton.mp hmem)).2).2
    cases hk

/-- **The response need not carry an id.**  A global filter behind the one that gives out ids raises a
    failure: the request was passed on with its id, and what the failure is mapped to has none. -/
theorem request_id_is_dropped :
    let fresh : Unit → String × Unit := fun _ => ("req-1", ())
    let route : Route Unit :=
      { name := "GET /ping", method := "GET", pattern := .constant "/ping"
        callback := fun _ => .done (.ok { status := 200 }) }
    let failing : Http.Filter Unit := fun _ => .done (.error (.ofHttp (.notFound "gone")))
    let calls := [.addFilter (requestIds fresh), .addFilter failing, .add route]
    let req : Http.Request :=
      { target := { path := "/ping" }
        headers := ⟨[(Http.requestIdHeader, Bytes.ofString "req-42")]⟩ }
    ∃ router acts rep, (built calls).freeze.result = .ok router ∧ Outermost (requestIds fresh) calls ∧
      AnswersFirst [] route ({} : Options).interface req.method req.target.path {} ∧
      Identified fresh (req.enter route {}) [] "req-42" (req.enter route {}) ∧
      Prog.Run (router.dispatch {} req) acts (some (.ok rep)) ∧ rep.status = 404 ∧
      rep.headers.getAll Http.requestIdHeader = [] := by
  intro fresh route failing calls req
  have hfirst : Outermost (requestIds fresh) calls :=
    ⟨[], .addFilter (requestIds fresh), [.addFilter failing, .add route], [], rfl, List.forall_mem_nil _, rfl⟩
  have hselected : AnswersFirst [] route ({} : Options).interface req.method req.target.path {} :=
    ⟨⟨by decide, rfl, by decide⟩, List.forall_mem_nil _⟩
  exact ⟨_, _, _, rfl, hfirst, hselected, .own (by decide), .note (.done _), rfl, by decide⟩

end Switchyard.Route
