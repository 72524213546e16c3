import Switchyard.Observe.Observation
import Switchyard.Json.Value

/-!
  The counters of a dark traffic filter, read off the record.
-/

namespace Switchyard.Dark

/-- How many dark calls a filter issued and how they ended, each modulo the size of a word. -/
structure Counts where
  requests : UInt64 := 0
  successes : UInt64 := 0
  failures : UInt64 := 0
  timeouts : UInt64 := 0
deriving DecidableEq

namespace Counts

/-- One more entry of the record. -/
def push (filter : DarkId) (c : Counts) : Observation → Counts
  | .darkIssued f => if f = filter then { c with requests := c.requests + 1 } else c
  | .darkFinished f outcome =>
    if f = filter then
      match outcome with
      | .success => { c with successes := c.successes + 1 }
      | .failure => { c with failures := c.failures + 1 }
      | .timeout => { c with timeouts := c.timeouts + 1 }
    else c
  | _ => c

/-- The counters of a filter after a record in the order in which it was made. -/
def ofRecord (filter : DarkId) (record : List Observation) : Counts :=
  record.foldl (push filter) {}

/-- The calls that were issued and have not ended; nothing where more ended than were issued. -/
def inFlight (c : Counts) : UInt64 :=
  let ended := c.successes + c.failures + c.timeouts
  if ended ≤ c.requests then c.requests - ended else 0

/-- The counters in a listing. -/
def toJson (c : Counts) : Json := .object [
  ("requests", .nat c.requests.toNat), ("successes", .nat c.successes.toNat),
  ("failures", .nat c.failures.toNat), ("timeouts", .nat c.timeouts.toNat)]

end Counts
end Switchyard.Dark
