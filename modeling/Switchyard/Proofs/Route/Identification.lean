import Switchyard.Proofs.Route.RequestIds

/-!
  The ids of incoming requests.

  The filter that gives out ids looks at the first value of the id header and at nothing else.  If this can
  be read, the request goes on as it came, whatever further values there are; or else it goes on with a fresh
  id in place of every value that it had.  What differs between the request that came and the one that goes
  on, and between the reply that comes back and the one that is given, is the values of this one header
  (`Http.Request.SameBut`, `Http.Response.SameBut`).

  * `Http.Request.HasReadableId` — the first value of the id header can be read;
  * `PassesOn`                   — a program that runs the rest of the path once, with an identified request,
                                   and repeats its id;
  * `every_request_is_identified` — which request it is, for every request and every rest of the path.
-/

namespace Switchyard.Http

/-! ## Frames -/

/-- Two requests that differ at most in the values of one header. -/
structure Request.SameBut (name : String) (a b : Request) : Prop where
  method : a.method = b.method
  target : a.target = b.target
  version : a.version = b.version
  headers : ∀ other, other ≠ name → a.headers.getAll other = b.headers.getAll other
  body : a.body = b.body
  params : a.params? = b.params?
  route : a.route? = b.route?

/-- Two responses that differ at most in the values of one header. -/
structure Response.SameBut (name : String) (a b : Response) : Prop where
  status : a.status = b.status
  headers : ∀ other, other ≠ name → a.headers.getAll other = b.headers.getAll other
  body : a.body = b.body

/-! ## The id of a request -/

/-- A request has an id that can be read: the id header is there, and every byte of its first value is a tab
    or a visible character of the basic set. -/
def Request.HasReadableId (req : Request) : Prop :=
  ∃ value further, req.headers.getAll requestIdHeader = value :: further ∧
    ∀ b ∈ value, b.toNat = 9 ∨ 32 ≤ b.toNat ∧ b.toNat < 127

/-- A request has an id if it has one that can be read. -/
theorem Request.hasReadableId_iff {req : Request} :
    req.HasReadableId ↔ ∃ id, req.requestId? = some id := by
  rw [Route.requestId?_eq, HasReadableId]
  cases req.headers.getAll requestIdHeader with
  | nil => simp
  | cons value further =>
    constructor
    · rintro ⟨_, _, heq, hreadable⟩
      obtain ⟨rfl, -⟩ := List.cons.inj heq
      exact exists_headerText?_iff.mpr hreadable
    · intro h
      exact ⟨value, further, rfl, exists_headerText?_iff.mp h⟩

end Switchyard.Http

namespace Switchyard.Route

variable {σ : Type}

/-! ## The filter as a frame -/

/-- A request that gets an id stays as it was otherwise. -/
theorem withId_sameBut (req : Http.Request) (id : String) :
    (withId req id).SameBut Http.requestIdHeader req where
  method := rfl
  target := rfl
  version := rfl
  headers _ hother := getAll_insertId_of_ne id req.headers hother
  body := rfl
  params := rfl
  route := rfl

/-- What is given back for what the rest of the path came to: a reply with one id and all else as it was, or
    the same failure. -/
inductive Echoed (id : String) : Outcome Http.Response → Outcome Http.Response → Prop where
  | reply {rep echo : Http.Response}
      (only : echo.headers.getAll Http.requestIdHeader = [Bytes.ofString id])
      (same : echo.SameBut Http.requestIdHeader rep) : Echoed id (.ok rep) (.ok echo)
  | failure (f : Failure) : Echoed id (.error f) (.error f)

/-- A reply gets the id, and a failure stays as it is. -/
theorem echoed_repeatId {id : String} (hid : ∀ c ∈ id.toList, Http.Readable c) (o : Outcome Http.Response) :
    Echoed id o (repeatId id o) := by
  cases o with
  | error f => exact .failure f
  | ok rep =>
    refine .reply (getAll_withRequestId hid rep) ⟨rfl, fun other hother => ?_, rfl⟩
    exact getAll_insertId_of_ne id rep.headers hother

/-- A program passes a request on: the id of the request is the given one, the program runs the rest of the
    path once and with this request, and gives back what that comes to, with the id repeated. -/
structure PassesOn (next : Http.Handler σ) (id : String) (passed : Http.Request)
    (p : Flow σ Empty Empty (Outcome Http.Response)) : Prop where
  identified : passed.requestId? = some id
  echoed : ∃ echo : Outcome Http.Response → Outcome Http.Response,
    p = (next passed).bind (fun outcome => .done (echo outcome)) ∧
    ∀ outcome, Echoed id outcome (echo outcome)

/-- What is behind the filter runs once, with the request that has the id. -/
theorem passesOn_repeatId (next : Http.Handler σ) {id : String} {passed : Http.Request}
    (hid : passed.requestId? = some id) :
    PassesOn next id passed ((next passed).bind fun o => .done (repeatId id o)) := by
  -- what was read off a header can be read
  obtain ⟨value, -, hread⟩ := Option.bind_eq_some_iff.mp hid
  exact ⟨hid, repeatId id, rfl, echoed_repeatId (Http.headerText?_eq_some_iff.mp hread).2⟩

/-- **Every request goes on with an id, and its reply comes back with it.**

    Fresh ids are the texts of UUIDs.  If the first id of a request can be read, then it is the text of the
    id in use, and the request goes on as it came.  Otherwise one fresh id is drawn, before the rest of the
    path is run: the request goes on with this as its only id, and with all else as it came.  In both cases
    the rest of the path is run once, the id in use is the one that it reads off its request, a reply comes
    back with this as its only id and with all else as it was, and a failure comes back as it was. -/
theorem every_request_is_identified {fresh : σ → String × σ}
    (hfresh : ∀ s, ∀ c ∈ (fresh s).1.toList, Http.IsUuidChar c) (next : Http.Handler σ)
    (req : Http.Request) :
    (req.HasReadableId → ∃ id, (req.headers.getAll Http.requestIdHeader).head? = some (Bytes.ofString id) ∧
      PassesOn next id req ((requestIds fresh).wrap next req)) ∧
    (¬ req.HasReadableId → ∃ passed : σ → Http.Request, ∃ rest,
      (requestIds fresh).wrap next req = .step (fun s => (fresh s).2) rest ∧
      ∀ s, (passed s).headers.getAll Http.requestIdHeader = [Bytes.ofString (fresh s).1] ∧
        (passed s).SameBut Http.requestIdHeader req ∧ PassesOn next (fresh s).1 (passed s) (rest s)) := by
  rw [wrap_requestIds, Http.Request.hasReadableId_iff]
  refine ⟨?_, fun hnone => ?_⟩
  · rintro ⟨id, hid⟩
    rw [hid]
    obtain ⟨value, hhead, hread⟩ := Option.bind_eq_some_iff.mp ((requestId?_eq req).symm.trans hid)
    refine ⟨id, ?_, passesOn_repeatId next hid⟩
    rw [hhead, (Http.headerText?_eq_some_iff.mp hread).1]
  · rw [Option.eq_none_iff_forall_ne_some.mpr fun id hid => hnone ⟨id, hid⟩]
    refine ⟨fun s => withId req (fresh s).1, _, rfl, fun s => ⟨?_, withId_sameBut _ _, ?_⟩⟩
    · exact getAll_insertId (fun c hc => (hfresh s c hc).readable) _
    · exact passesOn_repeatId next (requestId?_withId req fun c hc => (hfresh s c hc).readable)

/-- A request with two ids, the first of which cannot be read, is passed on with a fresh one; one with two
    readable ids keeps both. -/
theorem every_request_is_identified_twice :
    let fresh : Nat → String × Nat := fun n => (Http.nthRequestId n, n + 1)
    let next : Http.Handler Nat := fun _ => .done (.ok { status := 200 })
    let unreadable : Http.Request :=
      { headers := ⟨[(Http.requestIdHeader, [0xFF]), (Http.requestIdHeader, Bytes.ofString "req-2")]⟩ }
    let readable : Http.Request :=
      { headers := ⟨[(Http.requestIdHeader, Bytes.ofString "req-1"),
          (Http.requestIdHeader, Bytes.ofString "req-2")]⟩ }
    PassesOn next "req-1" readable ((requestIds fresh).wrap next readable) ∧
    ∃ (passed : Nat → Http.Request) (rest : Nat → Flow Nat Empty Empty (Outcome Http.Response)),
      (requestIds fresh).wrap next unreadable = .step (fun n => n + 1) rest ∧
      (passed 7).headers.getAll Http.requestIdHeader = [Bytes.ofString (Http.nthRequestId 7)] ∧
      PassesOn next (Http.nthRequestId 7) (passed 7) (rest 7) := by
  intro fresh next unreadable readable
  have hfresh : ∀ n, ∀ c ∈ (fresh n).1.toList, Http.IsUuidChar c := Http.isUuidChar_nthRequestId
  refine ⟨?_, ?_⟩
  · have hreadable : readable.HasReadableId := Http.Request.hasReadableId_iff.mpr ⟨"req-1", by decide⟩
    obtain ⟨id, -, hpasses⟩ := (every_request_is_identified hfresh next readable).1 hreadable
    obtain rfl : id = "req-1" := Option.some.inj (hpasses.identified.symm.trans (by decide))
    exact hpasses
  · have hunreadable : ¬ unreadable.HasReadableId := by
      rw [Http.Request.hasReadableId_iff]
      rintro ⟨id, hid⟩
      cases (show unreadable.requestId? = none by decide).symm.trans hid
    obtain ⟨passed, rest, hwrap, hpassed⟩ := (every_request_is_identified hfresh next unreadable).2 hunreadable
    obtain ⟨hid, -, hpasses⟩ := hpassed 7
    exact ⟨passed, rest, hwrap, hid, hpasses⟩

end Switchyard.Route
