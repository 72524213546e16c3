import Switchyard.Config.Schema
import Switchyard.Dark.Destination
import Switchyard.Net.SocketAddress

/-!
  What a configuration must meet beyond its form.  All problems are found, not only the first.
-/

namespace Switchyard.Config

/-- The fields that are checked. -/
inductive Field where
  | serverBindAddress
  | serverMaxBodyBytes
  | adminBindAddress
  | metricsAddress
  | sampleRate
  | timeoutMs
  | destination
deriving DecidableEq, Repr

/-- The name of a field with its section. -/
def Field.name : Field → String
  | .serverBindAddress => "server.bind_address"
  | .serverMaxBodyBytes => "server.max_body_bytes"
  | .adminBindAddress => "admin.bind_address"
  | .metricsAddress => "observability.metrics_address"
  | .sampleRate => "dark_traffic.sample_rate"
  | .timeoutMs => "dark_traffic.timeout_ms"
  | .destination => "dark_traffic.destination"

/-- Why a field is refused. -/
inductive Objection where
  | notAddress (value : String)
  | zero
  | outsideUnit (rate : Float)
  | unusable (error : Dark.Error)

/-- The wording of an objection. -/
def Objection.message : Objection → String
  | .notAddress value => Text.quote value ++ " is not a socket address"
  | .zero => "must be greater than 0"
  | .outsideUnit rate => Number.plainText rate ++ " is outside [0, 1]"
  | .unusable error => error.message

/-- A field with an objection against its value. -/
structure Problem where
  field : Field
  objection : Objection

namespace Problem

/-- The wording of a problem. -/
def message (p : Problem) : String := p.field.name ++ ": " ++ p.objection.message

/-- A problem as a developer sees it. -/
def debug (p : Problem) : String :=
  Text.recordText "ValidationError"
    [("field", Text.quote p.field.name), ("message", Text.quote p.objection.message)]

end Problem

/-- An address must be the address of a socket. -/
def checkAddress (field : Field) (value : String) : List Problem :=
  if (Net.SocketAddress.parse? value).isSome then [] else [⟨field, .notAddress value⟩]

/-- A number must not be zero. -/
def checkPositive (field : Field) (n : Nat) : List Problem := if n = 0 then [⟨field, .zero⟩] else []

/-- A rate must be a number from zero to one. -/
def checkRate (rate : Float) : List Problem :=
  if 0.0 ≤ rate && rate ≤ 1.0 then [] else [⟨.sampleRate, .outsideUnit rate⟩]

/-- A destination must be one that copies can go to. -/
def checkDestination : Option String → List Problem
  | none => []
  | some s =>
    match Dark.Destination.parse s with
    | .ok _ => []
    | .error e => [⟨.destination, .unusable e⟩]

/-- What is wrong with a configuration.  The address of a listener that is off is not looked at. -/
def problems (c : Config) : List Problem :=
  checkAddress .serverBindAddress c.server.bindAddress ++
  checkPositive .serverMaxBodyBytes c.server.maxBodyBytes ++
  (if c.admin.enabled then checkAddress .adminBindAddress c.admin.bindAddress else []) ++
  (if c.observability.metricsEnabled then
    checkAddress .metricsAddress c.observability.metricsAddress else []) ++
  checkRate c.darkTraffic.sampleRate ++
  checkPositive .timeoutMs c.darkTraffic.timeoutMs ++
  checkDestination c.darkTraffic.destination?

/-- Is there nothing wrong with a configuration? -/
def isValid (c : Config) : Bool := c.problems.isEmpty

end Switchyard.Config
