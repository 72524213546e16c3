import Switchyard.Dark.Destination
import Switchyard.Http.Message

/-!
  Dark traffic over HTTP: a client that turns every copy into a request to its destination, sends
  it, and looks at nothing but the status of the answer.
-/

namespace Switchyard.Dark

/-- What can be reached from here.  An exchange ends with the status of the answer, or with the
    reason why there is none. -/
structure Network where
  exchange : Http.Request → Background (Except String Http.Status)

/-- A network in which nothing can be reached. -/
def Network.isolated : Network := ⟨fun _ => pure (.error "client error (Connect)")⟩

/-- The header that names who sent a copy. -/
def clientIdHeader : String := "x-client-id"

/-- The header that names the host a request was meant for. -/
def hostHeader : String := "host"

/-- A client for one destination. -/
structure HttpClient where
  destination : Destination
  /-- The value of the client id header, if there is to be one. -/
  clientId? : Option Bytes
  /-- Are requests sent over one shared connection of the second protocol version? -/
  muxEnabled : Bool
deriving DecidableEq

namespace HttpClient

/-- The value that a client id stands for; the empty one stands for none. -/
def readClientId (s : String) : Except String (Option Bytes) :=
  let value := Bytes.ofString s
  if s.isEmpty then .ok none
  else if Http.isHeaderValue value then .ok (some value)
  else .error "invalid client id: failed to parse header value"

/-- A client for a destination. -/
def make (destination clientId : String) (muxEnabled : Bool) : Except Error HttpClient := do
  let parsed ← Destination.parse destination
  match readClientId clientId with
  | .ok clientId? => .ok ⟨parsed, clientId?, muxEnabled⟩
  | .error reason => .error (.invalidDestination destination reason)

/-- The event of making a client. -/
def madeEvent (c : HttpClient) : Event :=
  ⟨.info, "Dark traffic client created",
    [("destination", .text c.destination.authority), ("mux_enabled", .flag c.muxEnabled),
     ("client_id", .flag c.clientId?.isSome)]⟩

/-- A client as a developer sees it. -/
def debug (c : HttpClient) : String :=
  Text.recordText "HttpMirrorClient"
    [("authority", c.destination.authority),
     ("mux_enabled", if c.muxEnabled then "true" else "false")]

/-- The header fields of a copy: without the host it was meant for, and with the client's id. -/
def retargetHeaders (c : HttpClient) (h : Http.Headers) : Http.Headers :=
  let h := h.remove hostHeader
  match c.clientId? with
  | some id => h.insert clientIdHeader id
  | none => h

/-- A request as it goes to the destination. -/
def retarget (c : HttpClient) (req : Http.Request) : Except Error Http.Request :=
  let parts := { req.target.parts with
    scheme? := some "http"
    authority? := some c.destination.authority
    path? := some (req.target.parts.path?.getD ("/", none)) }
  match Http.Target.assemble parts with
  | .error e => .error (.request e.message)
  | .ok target =>
    .ok { req with
      target := target
      headers := c.retargetHeaders req.headers
      version := if c.muxEnabled then .http2 else .http11 }

/-- What an answer comes to. -/
def judge : Except String Http.Status → Except Error Unit
  | .error reason => .error (.unreachable reason)
  | .ok status => if status.isServerError then .error (.status status) else .ok ()

/-- Send a copy. -/
def send (n : Network) (c : HttpClient) (req : Http.Request) : Background (Except Error Unit) :=
  match c.retarget req with
  | .error e => pure (.error e)
  | .ok req => (n.exchange req).bind fun answer => pure (judge answer)

/-- The client of a dark traffic filter. -/
def client (n : Network) (c : HttpClient) : Client Http.Request := ⟨c.send n⟩

end HttpClient
end Switchyard.Dark
