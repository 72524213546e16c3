import Switchyard.Route.Basic

/-!
  Filters for HTTP routers: access logging, request counting, and request ids.
-/

namespace Switchyard.Route

variable {σ : Type}

/-- Leaves one event per request once its outcome is there. -/
def logging : Http.Filter σ := fun req => do
  let about : List (String × FieldValue) :=
    [("request_id", .text (req.requestId?.getD "unknown")), ("method", .text req.method),
     ("path", .text req.target.path)]
  let outcome ← Prog.call req
  match outcome with
  | .ok rep => Prog.emit ⟨.info, "Request completed", about ++ [("status", .count rep.status)]⟩
  | .error f => Prog.emit ⟨.warn, "Request failed", about ++ [("error", .text f.text)]⟩
  pure outcome

/-- The status that an outcome is counted under: a failure counts as a server error. -/
def countedStatus : Outcome Http.Response → Http.Status
  | .ok rep => rep.status
  | .error _ => 500

/-- Counts requests by route, method and status, and records how long each took. -/
def stats : Http.Filter σ := fun req => do
  let route := (req.route?.map Matched.name).getD "unknown"
  let outcome ← Prog.call req
  Prog.observe (.metric (.request route req.method (countedStatus outcome)))
  Prog.observe (.metric (.duration route))
  pure outcome

/-- Header fields with an id in place of any that were there; they stay as they are if the id cannot be a
    header value. -/
def insertId (id : String) (h : Http.Headers) : Http.Headers :=
  match Http.headerValue? id with
  | some value => h.insert Http.requestIdHeader value
  | none => h

/-- A response that carries an id, in place of any that it had. -/
def withRequestId (id : String) (rep : Http.Response) : Http.Response :=
  { rep with headers := insertId id rep.headers }

/-- The id that a request goes on with, and the request: its own if it has a readable one, else a
    fresh one. -/
def identify (fresh : σ → String × σ) (req : Http.Request) :
    Flow σ Http.Request (Outcome Http.Response) (String × Http.Request) :=
  match req.requestId? with
  | some id => pure (id, req)
  | none => do
    let id ← Prog.update fresh
    pure (id, { req with headers := insertId id req.headers })

/-- Sees to it that every request has an id, and repeats it on the response. -/
def requestIds (fresh : σ → String × σ) : Http.Filter σ := fun req => do
  let (id, req) ← identify fresh req
  match ← Prog.call req with
  | .ok rep => pure (.ok (withRequestId id rep))
  | .error f => pure (.error f)

end Switchyard.Route
