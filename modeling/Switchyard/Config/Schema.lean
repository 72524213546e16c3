import Switchyard.Json.Value
import Switchyard.Number.Double

/-!
  The configuration of the program: four sections of fields that all have values of their own, so
  that an empty document is a complete configuration.
-/

namespace Switchyard

namespace Config

/-- The external listener. -/
structure Server where
  bindAddress : String := "0.0.0.0:8080"
  /-- The greatest length of a request's body in bytes. -/
  maxBodyBytes : Nat := 1024 * 1024

/-- The admin listener. -/
structure Admin where
  /-- Are admin routes served at all? -/
  enabled : Bool := true
  bindAddress : String := "127.0.0.1:9990"

/-- Copies of external requests. -/
structure DarkTraffic where
  /-- Where copies go; without it there are none. -/
  destination? : Option String := none
  /-- What copies name as their sender, unless it is empty. -/
  clientId : String := ""
  /-- Send copies over one shared connection. -/
  muxEnabled : Bool := true
  /-- Send a copy once the answer is there instead of before. -/
  forwardAfterService : Bool := true
  /-- The fraction of requests that are copied. -/
  sampleRate : Float := 0.0
  timeoutMs : Nat := 1000

/-- Logs and measurements. -/
structure Observability where
  /-- Which events are written. -/
  logLevel : String := "info"
  compactLogs : Bool := false
  metricsEnabled : Bool := false
  metricsAddress : String := "0.0.0.0:9090"

end Config

/-- A configuration. -/
structure Config where
  server : Config.Server := {}
  admin : Config.Admin := {}
  darkTraffic : Config.DarkTraffic := {}
  observability : Config.Observability := {}

/-- A configuration in a listing; the rate is written out without an exponent. -/
def Config.toJson (c : Config) : Json := .object [
  ("server", .object [
    ("bind_address", .string c.server.bindAddress),
    ("max_body_bytes", .nat c.server.maxBodyBytes)]),
  ("admin", .object [
    ("enabled", .bool c.admin.enabled),
    ("bind_address", .string c.admin.bindAddress)]),
  ("dark_traffic", .object [
    ("destination", .ofString? c.darkTraffic.destination?),
    ("client_id", .string c.darkTraffic.clientId),
    ("mux_enabled", .bool c.darkTraffic.muxEnabled),
    ("forward_after_service", .bool c.darkTraffic.forwardAfterService),
    ("sample_rate", .string (Number.plainText c.darkTraffic.sampleRate)),
    ("timeout_ms", .nat c.darkTraffic.timeoutMs)]),
  ("observability", .object [
    ("log_level", .string c.observability.logLevel),
    ("compact_logs", .bool c.observability.compactLogs),
    ("metrics_enabled", .bool c.observability.metricsEnabled),
    ("metrics_address", .string c.observability.metricsAddress)])]

end Switchyard
