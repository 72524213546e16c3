import Switchyard.Observe.Event
import Switchyard.Observe.Metric

/-!
  The record of a run: everything a program lets the outside see while it runs, in order.  All
  totals are read off the record; nothing counts twice.
-/

namespace Switchyard

/-- Names one dark traffic filter among all that were built. -/
abbrev DarkId := Nat

/-- One entry of the record. -/
inductive Observation where
  | event (e : Event)
  | metric (m : Metric)
  /-- A dark call was issued by a filter. -/
  | darkIssued (filter : DarkId)
  /-- A dark call of a filter ended. -/
  | darkFinished (filter : DarkId) (outcome : DarkOutcome)
  /-- A mark left by an application stage. -/
  | mark (text : String)
deriving DecidableEq, Repr

namespace Observation

/-- The events of a record. -/
def events (record : List Observation) : List Event :=
  record.filterMap fun
    | .event e => some e
    | _ => none

/-- The marks of a record. -/
def marks (record : List Observation) : List String :=
  record.filterMap fun
    | .mark s => some s
    | _ => none

/-- The increments and records of a record. -/
def metrics (record : List Observation) : List Metric :=
  record.filterMap fun
    | .metric m => some m
    | _ => none

/-- Add one to the total under a key, keeping the keys sorted. -/
def bump (key : String) : List (String × Nat) → List (String × Nat)
  | [] => [(key, 1)]
  | (k, n) :: rest =>
    if key = k then (k, n + 1) :: rest
    else if key < k then (key, 1) :: (k, n) :: rest
    else (k, n) :: bump key rest

/-- The total of every series, sorted by series. -/
def totals (record : List Observation) : List (String × Nat) :=
  (metrics record).foldl (fun acc m => bump m.series acc) []

end Observation
end Switchyard
