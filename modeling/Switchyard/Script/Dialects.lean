import Switchyard.Route.Data
import Switchyard.Json.Reader
import Switchyard.Rpc.Router
import Switchyard.Script.Stage

/-!
  Scripted stages for HTTP requests and for service calls.
-/

namespace Switchyard.Script

/-! ## HTTP -/

/-- What a request was matched to and what was bound. -/
def httpContext (req : Http.Request) : String :=
  (match req.route? with
    | some r => r.name ++ "|" ++ r.template
    | none => "-") ++ "?" ++
  (match req.params? with
    | some p => String.intercalate "&" (p.entries.map fun (k, v) => k ++ "=" ++ v)
    | none => "-")

/-- A truth value in a mark. -/
def boolText (b : Bool) : String := if b then "true" else "false"

/-- A copied request in a mark. -/
def httpCopy (req : Http.Request) : String :=
  req.method ++ " " ++ req.target.text ++ " params=" ++ boolText req.params?.isSome ++
    " route=" ++ boolText req.route?.isSome ++ " headers=" ++ (shownHeaders req.headers).compact ++
    " body=" ++ (shownBytes req.body).compact

/-- Change headers under a name, if the name and the value can be used. -/
def changeHeader (change : Http.Headers → String → Bytes → Http.Headers) (name : String)
    (value : Bytes) (h : Http.Headers) : Http.Headers :=
  match Http.headerName? name with
  | some name => if Http.isHeaderValue value then change h name value else h
  | none => h

/-- HTTP requests and responses. -/
def httpDialect : Dialect Http.Request Http.Response where
  shownReply rep := Number.natText rep.status
  context := httpContext
  hasHeader name req := (req.headers.get? (Http.lowercase name)).isSome
  setHeader name value req :=
    { req with headers := changeHeader Http.Headers.insert name value req.headers }
  setTarget target req :=
    match Http.Target.parse target with
    | .ok t => { req with target := t }
    | .error _ => req
  tag name value rep :=
    { rep with headers := changeHeader Http.Headers.append name value rep.headers }
  shownCopy := httpCopy
  darkCopy := Http.Request.darkCopy
  logging := Route.logging
  requestIds := Route.requestIds World.freshId
  stats := Route.stats

/-- A request as the handler that describes it sees it. -/
def describeRequest (req : Http.Request) : Json := .object [
  ("body", shownBytes req.body), ("headers", shownHeaders req.headers),
  ("id", .ofString? (req.param? "id")), ("method", .string req.method),
  ("params", (req.params?.map shownParams).getD .null), ("path", .string req.target.path),
  ("query", .ofString? req.target.query?), ("request_id", .ofString? req.requestId?),
  ("route", .ofString? (req.route?.map Route.Matched.name)),
  ("template", .ofString? (req.route?.map Route.Matched.template)),
  ("wildcard", .ofString? (req.params?.bind Route.Params.wildcard?))]

/-- Replies with the body of the request. -/
def echoBody : Act Http.Request Http.Response :=
  .answer fun req => some (.ofContent 200 "text/plain" req.body)

/-- Replies with a description of the request. -/
def describe : Act Http.Request Http.Response :=
  .answer fun req => some (.json 200 (describeRequest req))

/-! ## Data routes -/

/-- The error of writing a map whose keys are no texts. -/
def keyNotStringFault : Fault :=
  .plain none "key must be a string" "Error(\"key must be a string\", line: 0, column: 0)"

/-- A codec that reads JSON into a shape and writes JSON. -/
def jsonCodec (inType outType : String) (shape : Json.Shape) : Route.Codec Json (Option Json) where
  inType := inType
  outType := outType
  decode body := match shape.read body with
    | .ok v => .ok v
    | .error f => .error (f.message body)
  encode
    | some v => .ok v.toBytes
    | none => .error keyNotStringFault

/-- A route that exchanges JSON: a codec, and what it makes of a value; nothing is what cannot be
    written. -/
structure DataScript where
  codec : Route.Codec Json (Option Json)
  /-- The output, or a failure. -/
  act : Json → Route.Params → Except Raise (Option Json)

/-- The route of a script. -/
def DataScript.route (s : DataScript) (method template : String) :
    Except BuildError (Route World) :=
  Route.data s.codec method template fun input params =>
    match s.act input params with
    | .ok out => pure (.ok out)
    | .error r => r.raise

/-! ## Service calls -/

/-- Service calls and their answers. -/
def callDialect : Dialect Rpc.Call Rpc.Reply where
  shownReply rep := (shownReply rep).compact
  context call := call.method
  hasHeader name call := (call.header? name).isSome
  setHeader name value call := call.withHeader name ((Bytes.string? value).getD "")
  setTarget target call := { call with method := target }
  tag name value
    | .reply payload =>
      .reply (payload ++ Bytes.ofString ("[" ++ name ++ ":") ++ value ++ Bytes.ofString "]")
    | e => e
  shownCopy call :=
    call.method ++ " " ++ (shownCallHeaders call).compact ++ " " ++ (shownBytes call.payload).compact
  darkCopy := Rpc.Call.darkCopy
  logging := Rpc.logging

/-- Answers with the payload of the call. -/
def echoPayload : Act Rpc.Call Rpc.Reply := .answer fun call => some (.reply call.payload)

/-- Answers with the payload of the call, unless there is none. -/
def echoPayloadIfAny : Act Rpc.Call Rpc.Reply :=
  .answer fun call => if call.payload.isEmpty then none else some (.reply call.payload)

/-- Answers with a description of the call. -/
def describeCall : Act Rpc.Call Rpc.Reply :=
  .answer fun call => some (.reply (Json.toBytes (.object [
    ("headers", shownCallHeaders call), ("method", .string call.method),
    ("payload", shownBytes call.payload)])))

end Switchyard.Script
