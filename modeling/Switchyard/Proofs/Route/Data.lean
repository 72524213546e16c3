import Switchyard.Proofs.Route.Opacity
import Switchyard.Proofs.Route.Pipeline
import Switchyard.Proofs.Route.Recording
import Switchyard.Route.Data

/-!
  Routes that exchange data.

  Such a route fails at three places: the body cannot be decoded, the callback fails, or what it gives cannot
  be encoded.  The failures have different lineages, so that different mappers answer them: the first names a
  status, the last names none, and the callback's own may name one or not (`DataReply`).

  * `AnswersData`       — a program that answers a body through a codec and a callback on values;
  * `answersData_mapped` — the handler of such a route is one, once its failures are mapped;
  * `data_route_answers` — and so is dispatching to it.
-/

namespace Switchyard.Route

variable {σ In Out : Type}

/-- The response to what the callback came to.  Its output is encoded; if it cannot be, or if the callback
    failed without a status in the lineage of its failure, the response says nothing about that.  Otherwise
    the response has the status and the message of the exception, or the text of a failure of a kind below
    that of such exceptions. -/
inductive DataReply (c : Codec In Out) : Outcome Out → Http.Response → Prop where
  | encoded {output : Out} {body : Bytes} (h : c.encode output = .ok body) :
      DataReply c (.ok output) ⟨200, ⟨[("content-type", Bytes.ofString "application/json")]⟩, body⟩
  | unencodable {output : Out} {fault : Fault} (h : c.encode output = .error fault) :
      DataReply c (.ok output) (.error 500 "Internal Server Error")
  | withStatus {f : Failure} {e : HttpException} (hnamed : HttpException.kind ∈ f.lineage)
      (h : f.fault = .http e) : DataReply c (.error f) (.error e.status e.message)
  | below {f : Failure} (hnamed : HttpException.kind ∈ f.lineage) (h : ∀ e, f.fault ≠ .http e) :
      DataReply c (.error f) (.error 500 f.text)
  | hidden {f : Failure} (hunnamed : HttpException.kind ∉ f.lineage) :
      DataReply c (.error f) (.error 500 "Internal Server Error")

/-- All that is noted are events. -/
def OnlyEvents (notes : List Observation) : Prop := ∀ o ∈ notes, ∃ e, o = .event e

/-- A program answers a body through a codec and a callback, and gives what is made of the response.

    A body without bytes is read as a null.  If the body cannot be decoded, the program leaves events and
    answers, without having run the callback.  If it can be, the program runs the callback once, with what
    was decoded and with the parameters, leaves events and answers. -/
structure AnswersData {α : Type} (c : Codec In Out) (callback : In → Params → Flow σ Empty Empty (Outcome Out))
    (body : Bytes) (params : Params) (give : Http.Response → α) (p : Flow σ Empty Empty α) : Prop where
  undecodable : ∀ message, c.decode (if body = [] then Bytes.ofString "null" else body) = .error message →
    ∃ notes, OnlyEvents notes ∧ p = (Prog.observeAll notes).bind fun _ =>
      .done (give (.json 400 (.object [("errors", .array [.string ("invalid request body: " ++ message)])])))
  decodable : ∀ input, c.decode (if body = [] then Bytes.ofString "null" else body) = .ok input →
    ∃ (notes : Outcome Out → List Observation) (reply : Outcome Out → Http.Response),
      (∀ outcome, OnlyEvents (notes outcome) ∧ DataReply c outcome (reply outcome)) ∧
      p = (callback input params).bind fun outcome =>
        (Prog.observeAll (notes outcome)).bind fun _ => .done (give (reply outcome))

/-! ## The handler of such a route -/

theorem bodyToDecode_eq (body : Bytes) :
    bodyToDecode body = if body = [] then Bytes.ofString "null" else body := by
  cases body with
  | nil => rfl
  | cons b bs => rfl

/-- What the handler makes of what the callback came to. -/
def encoded (c : Codec In Out) : Outcome Out → Outcome Http.Response
  | .error f => .error f
  | .ok output =>
    match c.encode output with
    | .ok body => .ok (.ofContent 200 "application/json" body)
    | .error fault => .error (.ofFault fault)

section Handler

variable (c : Codec In Out) (callback : In → Params → Flow σ Empty Empty (Outcome Out)) (req : Http.Request)

theorem dataHandler_undecodable {message : String} (h : c.decode (bodyToDecode req.body) = .error message) :
    dataHandler c callback req
      = .done (.error (.ofHttp (.badRequest ("invalid request body: " ++ message)))) := by
  rw [dataHandler, h]
  rfl

theorem dataHandler_decodable {input : In} (h : c.decode (bodyToDecode req.body) = .ok input) :
    dataHandler c callback req
      = (callback input (req.params?.getD {})).bind fun outcome => .done (encoded c outcome) := by
  rw [dataHandler, h]
  refine congrArg (Prog.bind _) (funext fun outcome => ?_)
  cases outcome with
  | error f => rfl
  | ok output =>
    dsimp only [encoded]
    cases c.encode output with
    | ok body => rfl
    | error fault => rfl

end Handler

section Mapped

variable {ks : List (BuildCall σ)} {resolver : Resolver Http.Response}

/-- Without registered mappers, settling what the handler makes of an outcome gives the response to it. -/
theorem dataReply_encoded (hmappers : ∀ k ∈ ks, k.registrations = [])
    (hresolver : (mappersOf ks).build = .ok resolver) (c : Codec In Out) (outcome : Outcome Out) :
    DataReply c outcome (Filter.replyTo resolver (encoded c outcome)) := by
  have hmapper := mapperFor_of_unregistered hmappers hresolver
  cases outcome with
  | ok output =>
    rw [encoded]
    cases hencode : c.encode output with
    | ok body => exact .encoded hencode
    | error fault =>
      show DataReply c _ (resolver.reply (.ofFault fault))
      rw [Resolver.reply, (hmapper _).2 (Failure.namesNoStatus_ofFault fault)]
      exact .unencodable hencode
  | error f =>
    show DataReply c _ (resolver.reply f)
    rw [Resolver.reply]
    by_cases hnamed : HttpException.kind ∈ f.lineage
    · rw [(hmapper f).1 hnamed]
      obtain ⟨fault, lineage⟩ := f
      cases fault with
      | http e => exact .withStatus hnamed rfl
      | plain kind text debug => exact .below hnamed fun e he => by cases he
      | caused kind text debug source => exact .below hnamed fun e he => by cases he
      | wrapped lineage inner => exact .below hnamed fun e he => by cases he
    · rw [(hmapper f).2 hnamed]
      exact .hidden hnamed

/-- **The handler of a route that exchanges data, once its failures are mapped.** -/
theorem answersData_mapped (hmappers : ∀ k ∈ ks, k.registrations = [])
    (hresolver : (mappersOf ks).build = .ok resolver) (c : Codec In Out)
    (callback : In → Params → Flow σ Empty Empty (Outcome Out)) (req : Http.Request) :
    AnswersData c callback req.body (req.params?.getD {}) .ok
      ((Filter.mapFailures resolver).wrap (dataHandler c callback) req) := by
  rw [Filter.wrap_mapFailures]
  refine ⟨fun message hdecode => ?_, fun input hdecode => ?_⟩
  · rw [← bodyToDecode_eq] at hdecode
    rw [dataHandler_undecodable c callback req hdecode]
    let f : Failure := .ofHttp (.badRequest ("invalid request body: " ++ message))
    have hreply : resolver.reply f = .error 400 ("invalid request body: " ++ message) := by
      rw [Resolver.reply, (mapperFor_of_unregistered hmappers hresolver f).1 List.mem_cons_self]
      rfl
    refine ⟨Filter.settlingNotes resolver (.error f), fun o ho => Filter.event_of_mem_settlingNotes ho, ?_⟩
    show Filter.settle resolver (.error f) = _
    rw [Filter.settle_eq, Filter.replyTo, hreply]
    rfl
  · rw [← bodyToDecode_eq] at hdecode
    rw [dataHandler_decodable c callback req hdecode, Prog.bind_assoc]
    refine ⟨fun outcome => Filter.settlingNotes resolver (encoded c outcome),
      fun outcome => Filter.replyTo resolver (encoded c outcome), fun outcome => ⟨?_, ?_⟩, ?_⟩
    · exact fun o ho => Filter.event_of_mem_settlingNotes ho
    · exact dataReply_encoded hmappers hresolver c outcome
    · exact congrArg (Prog.bind _) (funext fun outcome => Filter.settle_eq resolver (encoded c outcome))

end Mapped

/-- Answering, and then giving what is made of the answer. -/
theorem AnswersData.bind {α β : Type} {c : Codec In Out}
    {callback : In → Params → Flow σ Empty Empty (Outcome Out)} {body : Bytes} {params : Params}
    {give : Http.Response → α} {p : Flow σ Empty Empty α} (h : AnswersData c callback body params give p)
    (g : α → β) : AnswersData c callback body params (fun rep => g (give rep)) (p.bind fun a => .done (g a)) where
  undecodable message hdecode := by
    obtain ⟨notes, hnotes, rfl⟩ := h.undecodable message hdecode
    exact ⟨notes, hnotes, Prog.bind_assoc ..⟩
  decodable input hdecode := by
    obtain ⟨notes, reply, hreply, rfl⟩ := h.decodable input hdecode
    refine ⟨notes, reply, hreply, ?_⟩
    rw [Prog.bind_assoc]
    exact congrArg (Prog.bind _) (funext fun outcome => Prog.bind_assoc ..)

/-! ## Dispatching to such a route -/

/-- The callback of a route that exchanges data, whatever is said of the route once it is made. -/
theorem callback_data {c : Codec In Out} {method template : String}
    {callback : In → Params → Flow σ Empty Empty (Outcome Out)} {settings : List (Setting σ)} {r : Route σ}
    (h : (data c method template callback).map (·.setAll settings) = .ok r) :
    r.callback = dataHandler c callback := by
  rw [data, make] at h
  cases hpattern : Pattern.compile template with
  | error e =>
    rw [hpattern] at h
    cases h
  | ok pattern =>
    rw [hpattern] at h
    obtain rfl := Except.ok.inj h
    exact callback_setAll _ settings

/-- **A route that exchanges data answers every body.**

    Take a frozen router for which no mappers were registered, and a request to a route that was made from a
    codec and a callback on values, without filters of its own.  What the global filters of the route stand in
    front of answers the body of every request that they let through.  If there are none, dispatching the
    request answers its body, with the parameters that its path binds. -/
theorem data_route_answers {calls : List (BuildCall σ)} {router : Router σ}
    (hfreeze : (built calls).freeze.result = .ok router)
    (hmappers : ∀ k ∈ accepted calls, k.registrations = [])
    {c : Codec In Out} {method template : String}
    {callback : In → Params → Flow σ Empty Empty (Outcome Out)} {settings : List (Setting σ)} {r : Route σ}
    (hmade : (data c method template callback).map (·.setAll settings) = .ok r) (hown : r.filters = [])
    {global : Http.Chain σ} {earlier later : List (Registered σ)}
    (hregs : registered [] (accepted calls) = earlier ++ ⟨r, global⟩ :: later)
    {o : Options} (hbypass : o.bypass = false) {req : Http.Request} {params : Params}
    (hselected : AnswersFirst (earlier.map Registered.route) r o.interface req.method req.target.path
      params) :
    ∃ resolver answer, (mappersOf (accepted calls)).build = .ok resolver ∧
      (∀ q : Http.Request, AnswersData c callback q.body (q.params?.getD {}) .ok (answer q)) ∧
      router.dispatch o req
        = dispatched (Chain.compose (Filter.mapFailures resolver :: global) answer) (req.enter r params) ∧
      (global = [] → AnswersData c callback req.body params .ok (router.dispatch o req)) := by
  obtain ⟨resolver, hresolver, htable⟩ := router_of_freeze hfreeze
  let answer : Http.Handler σ := (Filter.mapFailures resolver).wrap (dataHandler c callback)
  have hanswer : ∀ q : Http.Request, AnswersData c callback q.body (q.params?.getD {}) .ok (answer q) :=
    answersData_mapped hmappers hresolver c callback
  have hdispatch : router.dispatch o req
      = dispatched (Chain.compose (Filter.mapFailures resolver :: global) answer) (req.enter r params) := by
    rw [dispatch_of_answersFirst htable hregs hselected, hbypass, hown, callback_data hmade]
    show dispatched ((stages resolver global []).compose _) _ = _
    rw [Chain.compose_stages]
    rfl
  refine ⟨resolver, answer, hresolver, hanswer, hdispatch, ?_⟩
  rintro rfl
  -- the two stages that map failures are one
  have honce : Chain.compose [Filter.mapFailures resolver] answer = answer := Filter.mapped_once resolver _
  rw [hdispatch, honce]
  exact (hanswer (req.enter r params)).bind (Except.mapError DispatchError.unhandled)

/-- A route that takes a null is sent a number. -/
theorem data_route_answers_number :
    let c : Codec Unit String :=
      { inType := "()", outType := "alloc::string::String"
        decode := fun body => if body = Bytes.ofString "null" then .ok () else .error "expected null"
        encode := fun s => .ok (Bytes.ofString s) }
    let callback : Unit → Params → Flow Unit Empty Empty (Outcome String) := fun _ _ => .done (.ok "pong")
    let r : Route Unit :=
      { name := "POST /ping", method := "POST", pattern := .constant "/ping"
        requestType := c.inType, responseType := c.outType, callback := dataHandler c callback }
    let req : Http.Request := { method := "POST", target := { path := "/ping" }, body := Bytes.ofString "7" }
    ∃ router notes, (built [.add r]).freeze.result = .ok router ∧
      router.dispatch {} req = (Prog.observeAll notes).bind fun _ => .done (.ok (.json 400
        (.object [("errors", .array [.string "invalid request body: expected null"])]))) := by
  intro c callback r req
  have hfreeze : (built [.add r]).freeze.result = .ok _ := rfl
  have hmappers : ∀ k ∈ accepted [.add r], k.registrations = [] := by
    intro k hk
    obtain rfl := List.mem_singleton.mp hk
    rfl
  have hmade : (data c "POST" "/ping" callback).map (·.setAll []) = .ok r := rfl
  have hregs : registered [] (accepted [.add r]) = [] ++ ⟨r, []⟩ :: [] := rfl
  have hselected : AnswersFirst [] r ({} : Options).interface req.method req.target.path {} :=
    ⟨⟨by decide, rfl, by decide⟩, List.forall_mem_nil _⟩
  have hdecode : c.decode (if req.body = [] then Bytes.ofString "null" else req.body)
      = .error "expected null" := rfl
  obtain ⟨_, _, -, -, -, hdirect⟩ := data_route_answers hfreeze hmappers hmade rfl hregs rfl hselected
  obtain ⟨notes, -, hdispatch⟩ := (hdirect rfl).undecodable "expected null" hdecode
  exact ⟨_, notes, hfreeze, hdispatch⟩

end Switchyard.Route
