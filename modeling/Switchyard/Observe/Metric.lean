import Switchyard.Number.Whole

/-!
  Counters and histograms.  A series is a name with labels; a counter series is incremented, a
  histogram series takes a record.
-/

namespace Switchyard

/-- The two interfaces that requests arrive on. -/
inductive Interface where
  /-- The public interface, which serves the routes that are not administrative. -/
  | external
  /-- The administrative interface, which serves the others. -/
  | admin
deriving DecidableEq, Repr

namespace Interface

/-- The name of an interface in an event. -/
def text : Interface → String
  | external => "External"
  | admin => "Admin"

/-- Does the interface serve routes with this admin flag? -/
def serves : Interface → Bool → Bool
  | .external, isAdmin => !isAdmin
  | .admin, isAdmin => isAdmin

end Interface

/-- How a dark call ended. -/
inductive DarkOutcome where
  | success
  | failure
  | timeout
deriving DecidableEq, Repr

/-- One increment of a counter or one record of a histogram. -/
inductive Metric where
  /-- A request that was answered, under its route, method and status. -/
  | request (route method : String) (status : Nat)
  /-- The time a request took, under its route. -/
  | duration (route : String)
  | routeNotFound (interface : Interface)
  | methodNotFound
  /-- A dark call that was issued. -/
  | darkIssued
  | darkFinished (outcome : DarkOutcome)
deriving DecidableEq, Repr

namespace Metric

/-- The value of the label that names an interface. -/
def interfaceLabel : Interface → String
  | .external => "external"
  | .admin => "admin"

/-- The name of the series. -/
def name : Metric → String
  | .request .. => "router_requests_total"
  | .duration .. => "router_request_duration_seconds"
  | .routeNotFound .. => "router_route_not_found_total"
  | .methodNotFound => "router_method_not_found_total"
  | .darkIssued => "dark_traffic_requests_total"
  | .darkFinished .success => "dark_traffic_success_total"
  | .darkFinished .failure => "dark_traffic_failure_total"
  | .darkFinished .timeout => "dark_traffic_timeout_total"

/-- The labels of the series, sorted by key. -/
def labels : Metric → List (String × String)
  | .request route method status =>
    [("method", method), ("route", route), ("status", Number.natText status)]
  | .duration route => [("route", route)]
  | .routeNotFound interface => [("interface", interfaceLabel interface)]
  | _ => []

/-- Is it a record of a histogram? -/
def isHistogram : Metric → Bool
  | .duration .. => true
  | _ => false

/-- The name of the series with its labels; a histogram is marked as the count of its records. -/
def series (m : Metric) : String :=
  m.name ++ "\x7b" ++ String.intercalate "," (m.labels.map fun (k, v) => k ++ "=" ++ v) ++ "\x7d" ++
    (if m.isHistogram then "#count" else "")

end Metric
end Switchyard
