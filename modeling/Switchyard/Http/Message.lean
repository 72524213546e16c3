import Switchyard.Http.Headers
import Switchyard.Http.Status
import Switchyard.Http.Target
import Switchyard.Json.Writer
import Switchyard.Route.Params

/-!
  Requests and responses with their whole bodies.
-/

namespace Switchyard.Http

/-- The version of the protocol. -/
inductive Version where
  | http10
  | http11
  | http2
deriving DecidableEq, Repr

/-- The name of a version. -/
def Version.text : Version → String
  | .http10 => "HTTP/1.0"
  | .http11 => "HTTP/1.1"
  | .http2 => "HTTP/2.0"

/-- The header that carries the id of a request. -/
def requestIdHeader : String := "x-request-id"

/-- A request, with what its match left with it. -/
structure Request where
  method : String := "GET"
  target : Target := { path := "/" }
  version : Version := .http11
  headers : Headers := {}
  body : Bytes := []
  /-- The values bound by the template of the matched route. -/
  params? : Option Route.Params := none
  /-- The matched route. -/
  route? : Option Route.Matched := none
deriving DecidableEq

namespace Request

/-- The value bound to a name by the template of the matched route. -/
def param? (r : Request) (name : String) : Option String := r.params?.bind (·.get? name)

/-- The id of a request: the first value of its header, if that is readable. -/
def requestId? (r : Request) : Option String :=
  (r.headers.get? requestIdHeader).bind headerText?

/-- A copy for a second destination: all that goes over the wire and nothing else. -/
def darkCopy (r : Request) : Request := { r with params? := none, route? := none }

end Request

/-- A response. -/
structure Response where
  status : Status
  headers : Headers := {}
  body : Bytes := []
deriving DecidableEq

namespace Response

/-- A response with a type of content. -/
def ofContent (status : Status) (contentType : String) (body : Bytes) : Response :=
  ⟨status, ⟨[("content-type", Bytes.ofString contentType)]⟩, body⟩

/-- A response without a body. -/
def empty (status : Status) : Response := ⟨status, {}, []⟩

/-- A response of plain text. -/
def text (status : Status) (body : Bytes) : Response :=
  ofContent status "text/plain; charset=utf-8" body

/-- A response that is the text of a JSON value. -/
def json (status : Status) (value : Json) : Response :=
  ofContent status "application/json" value.toBytes

/-- The response to an error: an object whose only member lists the one message. -/
def error (status : Status) (message : String) : Response :=
  json status (.object [("errors", .array [.string message])])

end Response
end Switchyard.Http
