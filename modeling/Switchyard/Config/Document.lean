import Switchyard.Config.Schema
import Switchyard.Toml.Document

/-!
  The configuration that a TOML document describes.

  A section is a table of its fields or an array of their values in order.  Fields that are missing
  keep their own value, and names that no field has do not count; a field with a value of the wrong
  kind makes the whole document wrong.
-/

namespace Switchyard.Config

open Toml

/-! ## Values of fields -/

/-- A text. -/
def asText : Value → Option String
  | .string s => some s
  | _ => none

/-- A truth value. -/
def asFlag : Value → Option Bool
  | .boolean b => some b
  | _ => none

/-- A whole number that is not negative. -/
def asCount : Value → Option Nat
  | .integer i => if 0 ≤ i then some i.toNat else none
  | _ => none

/-- A double; a whole number counts as one. -/
def asNumber : Value → Option Float
  | .float x => some x
  | .integer i => some (Number.ofDecimal (i < 0) i.natAbs 0)
  | _ => none

/-- The values given for the fields of a section, by name or in order. -/
def fieldValues (names : List String) : Value → Option (List (Option Value))
  | .table entries => some (names.map fun n => (entries.find? (·.1 = n)).map (·.2))
  | .array items => some ((List.range names.length).map fun i => items[i]?)
  | .dateTime _ => some (names.map fun _ => none)
  | _ => none

/-- A field: its own value where none is given. -/
def field {α : Type} (read : Value → Option α) (own : α) : Option Value → Option α
  | none => some own
  | some v => read v

/-! ## Sections -/

/-- The section of the external listener. -/
def Server.ofValue (v : Value) : Option Server := do
  let own : Server := {}
  match ← fieldValues ["bind_address", "max_body_bytes"] v with
  | [address, bytes] =>
    some { bindAddress := ← field asText own.bindAddress address
           maxBodyBytes := ← field asCount own.maxBodyBytes bytes }
  | _ => none

/-- The section of the admin listener. -/
def Admin.ofValue (v : Value) : Option Admin := do
  let own : Admin := {}
  match ← fieldValues ["enabled", "bind_address"] v with
  | [enabled, address] =>
    some { enabled := ← field asFlag own.enabled enabled
           bindAddress := ← field asText own.bindAddress address }
  | _ => none

/-- The section of dark traffic. -/
def DarkTraffic.ofValue (v : Value) : Option DarkTraffic := do
  let own : DarkTraffic := {}
  let names := ["destination", "client_id", "mux_enabled", "forward_after_service", "sample_rate",
    "timeout_ms"]
  match ← fieldValues names v with
  | [destination, client, mux, after, rate, timeout] =>
    some { destination? := ← field (fun v => (asText v).map some) own.destination? destination
           clientId := ← field asText own.clientId client
           muxEnabled := ← field asFlag own.muxEnabled mux
           forwardAfterService := ← field asFlag own.forwardAfterService after
           sampleRate := ← field asNumber own.sampleRate rate
           timeoutMs := ← field asCount own.timeoutMs timeout }
  | _ => none

/-- The section of logs and measurements. -/
def Observability.ofValue (v : Value) : Option Observability := do
  let own : Observability := {}
  match ← fieldValues ["log_level", "compact_logs", "metrics_enabled", "metrics_address"] v with
  | [level, compact, enabled, address] =>
    some { logLevel := ← field asText own.logLevel level
           compactLogs := ← field asFlag own.compactLogs compact
           metricsEnabled := ← field asFlag own.metricsEnabled enabled
           metricsAddress := ← field asText own.metricsAddress address }
  | _ => none

/-- The whole configuration. -/
def ofValue (v : Value) : Option Config := do
  match ← fieldValues ["server", "admin", "dark_traffic", "observability"] v with
  | [server, admin, dark, observability] =>
    some { server := ← field Server.ofValue {} server
           admin := ← field Admin.ofValue {} admin
           darkTraffic := ← field DarkTraffic.ofValue {} dark
           observability := ← field Observability.ofValue {} observability }
  | _ => none

end Switchyard.Config
