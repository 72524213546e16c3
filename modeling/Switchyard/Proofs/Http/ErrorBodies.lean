import Switchyard.Proofs.Failure.Interleaving
import Switchyard.Proofs.Http.Gathering
import Switchyard.Proofs.Json.Values
import Switchyard.Proofs.Route.Recording

/-!
  The response to an error tells its message, and nothing else.

  Its body is a JSON text that is read back as an object with one member, which lists one message
  (`CarriesError`), whatever characters this message is made of.  So a body tells which message it was made
  from, and no text that a client sent can add a second one or hide the first.

  The answers to errors are such responses (`ErrorAnswer`): those of a service to a body that it cannot gather,
  to a request that nothing is there for and to a failure that was not mapped, and those of the mappers that
  every router starts with.

  * `carriesError_error`         — the response to an error carries its message, by reading its body back;
  * `ErrorAnswer.eq_error`       — every answer to an error is such a response;
  * `ErrorAnswer.or_reply`       — what else a service responds with is the reply of its router;
  * `ErrorAnswer.of_mapFailures` — and what else comes out of a stage that maps failures came into it.

  The main statement is `error_bodies_tell_their_message`.
-/

namespace Switchyard.Http

/-! ## Bodies -/

/-- A response carries one error: its content is JSON, and this is an object that lists this message alone. -/
structure CarriesError (rep : Response) (message : String) : Prop where
  typed : rep.headers.getAll "content-type" = [Bytes.ofString "application/json"]
  told : Json.parse rep.body = .ok (.object [("errors", .array [.string message])])

theorem CarriesError.unique {rep : Response} {message message' : String} (h : CarriesError rep message)
    (h' : CarriesError rep message') : message = message' := by
  have hobject := Json.object.inj (Except.ok.inj (h.told.symm.trans h'.told))
  have hlist := Json.array.inj (Prod.mk.inj (List.cons.inj hobject).1).2
  exact Json.string.inj (List.cons.inj hlist).1

/-- **The response to an error carries it**, with any status and whatever its message is. -/
theorem carriesError_error (status : Status) (message : String) :
    CarriesError (.error status message) message where
  typed := rfl
  told := by
    have hmessage : ∀ item ∈ [Json.string message], Json.ReadsBack 1 1 item :=
      List.forall_mem_singleton.mpr (Json.readsBack_string message)
    have hlist : ∀ m ∈ [("errors", Json.array [.string message])], Json.ReadsBack 2 4 m.2 :=
      List.forall_mem_singleton.mpr (Json.readsBack_array hmessage)
    have hobject := Json.readsBack_object (List.pairwise_singleton _ _) hlist
    exact hobject.parse (by decide) (by rw [List.length_singleton]; omega)

/-- A message with a quote, a backslash and a control character. -/
example : (Response.error 404 "\"\\\x01").body = Bytes.ofString "\x7b\"errors\":[\"\\\"\\\\\\u0001\"]\x7d" := rfl

/-- Two bodies are the same if the messages are, and only then. -/
theorem body_error_eq_iff {status status' : Status} {message message' : String} :
    (Response.error status message).body = (Response.error status' message').body ↔ message = message' := by
  constructor
  · intro h
    have hother := carriesError_error status' message'
    exact (carriesError_error status message).unique ⟨rfl, h ▸ hother.told⟩
  · rintro rfl
    rfl

/-! ## Answers -/

/-- The answers to errors, each with its status and its message. -/
inductive ErrorAnswer : Response → Status → String → Prop where
  /-- A body cannot be gathered. -/
  | unreadable {σ : Type} {s : Service σ} {head : Request} {chunks : List Chunk} {e : String}
      {acts : List (Prog.Action σ Job)} {rep : Response} (hgather : gather s.bodyLimit chunks = .error e)
      (hrun : Prog.Run (s.handle head chunks) acts (some rep)) :
      ErrorAnswer rep 413 "request body too large or unreadable"
  /-- There is nothing to dispatch to. -/
  | notFound {σ : Type} {e : DispatchError} {acts : List (Prog.Action σ Job)} {rep : Response}
      (hnone : e.isNotFound = true) (hrun : Prog.Run (Service.respond (.error e)) acts (some rep)) :
      ErrorAnswer rep 404 e.message
  /-- A failure was not mapped. -/
  | unhandled {σ : Type} {f : Failure} {acts : List (Prog.Action σ Job)} {rep : Response}
      (hrun : Prog.Run (Service.respond (.error (.unhandled f))) acts (some rep)) :
      ErrorAnswer rep 500 Route.genericMessage
  /-- An exception names its status. -/
  | exception {f : Failure} {e : HttpException} (hf : f.http? = some e) :
      ErrorAnswer (Route.httpExceptionMapper.reply f) e.status e.message
  /-- An exception is of a kind below and names none. -/
  | below {f : Failure} (hf : f.http? = none) : ErrorAnswer (Route.httpExceptionMapper.reply f) 500 f.text
  /-- Any other failure. -/
  | other (f : Failure) : ErrorAnswer (Route.defaultMapper.reply f) 500 Route.genericMessage

/-! ### Each of them is the response to its error -/

section Runs

variable {σ : Type} {acts : List (Prog.Action σ Job)} {rep out : Response}

theorem out_of_run_done (hrun : Prog.Run (.done rep : Flow σ Empty Empty Response) acts (some out)) : out = rep := by
  obtain ⟨-, hstop | hout⟩ := Prog.runs_done_iff.mp hrun
  · nomatch hstop
  · exact Option.some.inj hout

theorem out_of_run_note {o : Observation}
    (hrun : Prog.Run (.note o (.done rep) : Flow σ Empty Empty Response) acts (some out)) : out = rep := by
  rcases Prog.runs_note_iff.mp hrun with ⟨-, hstop⟩ | ⟨es, hdone, -⟩
  · nomatch hstop
  · exact out_of_run_done hdone

end Runs

theorem reply_of_http? {f : Failure} {e : HttpException} (h : f.http? = some e) :
    Route.httpExceptionMapper.reply f = .error e.status e.message := by
  simp only [Route.httpExceptionMapper, h]

theorem reply_of_http?_eq_none {f : Failure} (h : f.http? = none) :
    Route.httpExceptionMapper.reply f = .error 500 f.text := by
  simp only [Route.httpExceptionMapper, h]

namespace ErrorAnswer

variable {rep rep' : Response} {status status' : Status} {message message' : String}

/-- **Every answer to an error is the response to this error.** -/
theorem eq_error (h : ErrorAnswer rep status message) : rep = .error status message := by
  cases h with
  | unreadable hgather hrun =>
    rw [Service.handle_of_breaks (gather_eq_error_iff.mp hgather)] at hrun
    exact out_of_run_note hrun
  | notFound hnone hrun =>
    rw [Service.respond_of_isNotFound hnone] at hrun
    exact out_of_run_done hrun
  | unhandled hrun => exact out_of_run_note hrun
  | exception hf => exact reply_of_http? hf
  | below hf => exact reply_of_http?_eq_none hf
  | other f => rfl

theorem carriesError (h : ErrorAnswer rep status message) : CarriesError rep message := by
  rw [h.eq_error]
  exact carriesError_error status message

theorem body_eq_iff (h : ErrorAnswer rep status message) (h' : ErrorAnswer rep' status' message') :
    rep.body = rep'.body ↔ message = message' := by
  rw [h.eq_error, h'.eq_error]
  exact body_error_eq_iff

/-! ### Where they are given -/

section Service

variable {σ : Type} {acts : List (Prog.Action σ Job)}

/-- What dispatching fails with is answered as an error. -/
theorem of_respond {e : DispatchError} (hrun : Prog.Run (Service.respond (.error e)) acts (some rep)) :
    ∃ status message, ErrorAnswer rep status message := by
  cases e with
  | routeNotFound method path => exact ⟨_, _, .notFound rfl hrun⟩
  | methodNotFound method => exact ⟨_, _, .notFound rfl hrun⟩
  | unhandled f => exact ⟨_, _, .unhandled hrun⟩

/-- **A service answers an error, or gives the reply of its router.** -/
theorem or_reply {s : Service σ} {head : Request} {chunks : List Chunk}
    (hrun : Prog.Run (s.handle head chunks) acts (some rep)) :
    (∃ status message, ErrorAnswer rep status message) ∨
    ∃ body, gather s.bodyLimit chunks = .ok body ∧
      Prog.Run (s.router.dispatch { interface := s.interface } { head with body := body }) acts (some (.ok rep)) := by
  cases hgather : gather s.bodyLimit chunks with
  | error e => exact Or.inl ⟨_, _, .unreadable hgather hrun⟩
  | ok body =>
    obtain ⟨hfits, rfl⟩ := gather_eq_ok_iff.mp hgather
    rw [Service.handle_of_not_spoiled hfits] at hrun
    rcases Prog.runs_bind_iff.mp hrun with ⟨hstop, -⟩ | ⟨dispatched, es₁, es₂, hdispatch, hrespond, rfl⟩
    · nomatch hstop
    cases dispatched with
    | error e => exact Or.inl (of_respond hrespond)
    | ok reply =>
      obtain rfl := out_of_run_done hrespond
      obtain ⟨rfl, -⟩ := Prog.runs_done_iff.mp hrespond
      rw [List.append_nil]
      exact Or.inr ⟨_, rfl, hdispatch⟩

end Service

section Mappers

variable {r : Resolver Response}

/-- The mappers that every router starts with are the two for errors. -/
theorem mapperFor_of_build (hbuild : Route.initialMappers.build = .ok r) (f : Failure) :
    r.mapperFor f = Route.httpExceptionMapper ∨ r.mapperFor f = Route.defaultMapper := by
  obtain ⟨hentries, hdefault⟩ := resolver_of_build hbuild
  have hdefault : r.default = Route.defaultMapper := (Option.some.inj hdefault).symm
  rw [Resolver.mapperFor, hentries, hdefault]
  cases hfound : f.lineage.findSome? (Mapper.at? Route.initialMappers.entries) with
  | none => exact Or.inr rfl
  | some m =>
    obtain ⟨k, -, hk⟩ := List.exists_of_findSome?_eq_some hfound
    have hmem : (k, m) ∈ [(HttpException.kind, Route.httpExceptionMapper)] := mem_of_at? hk
    exact Or.inl (Prod.mk.inj (List.mem_singleton.mp hmem)).2

/-- **The mappers that every router starts with answer every failure as an error.** -/
theorem of_reply (hbuild : Route.initialMappers.build = .ok r) (f : Failure) :
    ∃ status message, ErrorAnswer (r.reply f) status message := by
  rw [Resolver.reply]
  rcases mapperFor_of_build hbuild f with hmapper | hmapper
  · rw [hmapper]
    cases hf : f.http? with
    | some e => exact ⟨_, _, .exception hf⟩
    | none => exact ⟨_, _, .below hf⟩
  · rw [hmapper]
    exact ⟨_, _, .other f⟩

/-- **A stage that maps failures answers an error, or lets a reply pass.** -/
theorem of_mapFailures {σ : Type} (hbuild : Route.initialMappers.build = .ok r)
    {next : Handler σ} {req : Request} {acts : List (Prog.Action σ Job)} {out : Outcome Response}
    (hrun : Prog.Run ((Filter.mapFailures r).wrap next req) acts (some out)) :
    ∃ rep, out = .ok rep ∧
      ((∃ status message, ErrorAnswer rep status message) ∨ ∃ inner, Prog.Run (next req) inner (some (.ok rep))) := by
  have hsettle : (Filter.settle r : Outcome Response → Flow σ Empty Empty (Outcome Response)) = _ :=
    funext (Filter.settle_eq r)
  rw [Filter.wrap_mapFailures, hsettle] at hrun
  obtain ⟨outcome, inner, hnext, -, hout⟩ := Prog.run_noted_iff.mp hrun
  cases outcome with
  | ok rep => exact ⟨rep, hout, Or.inr ⟨inner, hnext⟩⟩
  | error f => exact ⟨r.reply f, hout, Or.inl (of_reply hbuild f)⟩

/-- An exception that names its status is answered with this status and its message. -/
theorem of_reply_ofHttp (hbuild : Route.initialMappers.build = .ok r) (e : HttpException) :
    ErrorAnswer (r.reply (.ofHttp e)) e.status e.message := by
  obtain rfl := Except.ok.inj hbuild
  exact .exception rfl

end Mappers
end ErrorAnswer

/-- **Error bodies tell their message.**

    * The response to an error has its status, and carries it: whatever its message is, the body is read back as
      an object that lists this message alone, and the content is said to be JSON.
    * So does every answer to an error, and it carries no other.
    * Two of these answers have the same body exactly if their messages are the same.
    * A service answers an error, or gives the reply of its router.  If nothing else was said of failures while the
      router was built, a stage that maps them answers an error or lets a reply pass, and an exception that names
      its status is answered with this status and its own message. -/
theorem error_bodies_tell_their_message :
    (∀ status message, (Response.error status message).status = status ∧
      CarriesError (.error status message) message) ∧
    (∀ rep status message, ErrorAnswer rep status message →
      rep.status = status ∧ ∀ message', CarriesError rep message' ↔ message' = message) ∧
    (∀ rep rep' status status' message message', ErrorAnswer rep status message →
      ErrorAnswer rep' status' message' → (rep.body = rep'.body ↔ message = message')) ∧
    (∀ (σ : Type) (s : Service σ) head chunks acts rep, Prog.Run (s.handle head chunks) acts (some rep) →
      (∃ status message, ErrorAnswer rep status message) ∨
      ∃ body, gather s.bodyLimit chunks = .ok body ∧
        Prog.Run (s.router.dispatch { interface := s.interface } { head with body := body }) acts
          (some (.ok rep))) ∧
    ∀ r, Route.initialMappers.build = .ok r →
      (∀ (σ : Type) (next : Handler σ) req acts out,
        Prog.Run ((Filter.mapFailures r).wrap next req) acts (some out) →
        ∃ rep, out = .ok rep ∧ ((∃ status message, ErrorAnswer rep status message) ∨
          ∃ inner, Prog.Run (next req) inner (some (.ok rep)))) ∧
      ∀ e, ErrorAnswer (r.reply (.ofHttp e)) e.status e.message := by
  refine ⟨fun status message => ⟨rfl, carriesError_error status message⟩, ?_, ?_, ?_, ?_⟩
  · intro rep status message h
    refine ⟨by rw [h.eq_error]; rfl, fun message' => ⟨fun h' => h'.unique h.carriesError, ?_⟩⟩
    rintro rfl
    exact h.carriesError
  · intro rep rep' status status' message message' h h'
    exact h.body_eq_iff h'
  · intro σ s head chunks acts rep hrun
    exact ErrorAnswer.or_reply hrun
  · intro r hbuild
    refine ⟨fun σ next req acts out hrun => ?_, ErrorAnswer.of_reply_ofHttp hbuild⟩
    exact ErrorAnswer.of_mapFailures hbuild hrun

/-- A message that tries to close its text, behind a stage that maps failures, and a body that is too long for a
    service without routes. -/
theorem error_bodies_tell_their_message_taken :
    let e : HttpException := .conflict "taken\"]\x7d \\\x00\x1f é"
    let r : Resolver Response := ⟨Route.initialMappers.entries, Route.defaultMapper⟩
    let failing : Handler Unit := fun _ => .done (.error (.ofHttp e))
    let s : Service Unit := { router := ⟨⟨[]⟩⟩, bodyLimit := 0 }
    (r.reply (.ofHttp e)).status = 409 ∧ CarriesError (r.reply (.ofHttp e)) e.message ∧
    (∃ acts rep, Prog.Run ((Filter.mapFailures r).wrap failing {}) acts (some (.ok rep)) ∧
      ∃ status message, ErrorAnswer rep status message) ∧
    ∃ acts rep, Prog.Run (s.handle {} [.ok [0]]) acts (some rep) ∧
      (∃ status message, ErrorAnswer rep status message) ∧
      CarriesError rep "request body too large or unreadable" ∧ rep.body ≠ (r.reply (.ofHttp e)).body := by
  intro e r failing s
  obtain ⟨-, hcarries, hbody, hservice, hmappers⟩ := error_bodies_tell_their_message
  obtain ⟨hstage, hnames⟩ := hmappers r rfl
  have htaken := hnames e
  refine ⟨(hcarries _ _ _ htaken).1, ((hcarries _ _ _ htaken).2 _).mpr rfl, ?_, ?_⟩
  · have hrun : Prog.Run ((Filter.mapFailures r).wrap failing {}) _ (some (.ok _)) := .note (.done _)
    refine ⟨_, _, hrun, ?_⟩
    obtain ⟨rep, hrep, hanswer | ⟨inner, hinner⟩⟩ := hstage Unit failing {} _ _ hrun
    · obtain rfl := Except.ok.inj hrep
      exact hanswer
    · obtain ⟨-, hstop | hok⟩ := Prog.runs_done_iff.mp hinner
      · cases hstop
      · cases hok
  · have hrun : Prog.Run (s.handle {} [.ok [0]]) _ (some _) := .note (.done _)
    have hgather : gather s.bodyLimit [.ok [0]] = .error tooLongText := rfl
    have hlong := ErrorAnswer.unreadable hgather hrun
    refine ⟨_, _, hrun, ?_, ((hcarries _ _ _ hlong).2 _).mpr rfl, fun hsame => ?_⟩
    · rcases hservice _ s _ _ _ _ hrun with hanswer | ⟨body, hfits, -⟩
      · exact hanswer
      · cases hgather.symm.trans hfits
    · exact absurd ((hbody _ _ _ _ _ _ hlong htaken).mp hsame) (by decide)

end Switchyard.Http
