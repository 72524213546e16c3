import Switchyard.Filter.Basic
import Switchyard.Http.Message
import Switchyard.Route.Pattern

/-!
  Routes: a method and a template bound to a callback, with filters of their own next to it.
-/

namespace Switchyard

/-- A handler of HTTP requests. -/
abbrev Http.Handler (σ : Type) := Switchyard.Handler σ Http.Request Http.Response

/-- A filter of HTTP requests. -/
abbrev Http.Filter (σ : Type) := Switchyard.Filter σ Http.Request Http.Response

/-- A chain of filters of HTTP requests. -/
abbrev Http.Chain (σ : Type) := Switchyard.Chain σ Http.Request Http.Response

namespace Route

/-- The type of request that a plain callback takes. -/
def plainRequestType : String := "http::request::Request<bytes::bytes::Bytes>"

/-- The type of response that a plain callback gives. -/
def plainResponseType : String := "http::response::Response<bytes::bytes::Bytes>"

/-- What a listing tells of a route. -/
structure Info where
  name : String
  method : String
  path : String
  admin : Bool
  index? : Option String
  requestType : String
  responseType : String
deriving DecidableEq, Repr

/-- A route in a listing. -/
def Info.toJson (i : Info) : Json := .object [
  ("name", .string i.name), ("method", .string i.method), ("path", .string i.path),
  ("admin", .bool i.admin), ("index", .ofString? i.index?),
  ("request_type", .string i.requestType), ("response_type", .string i.responseType)]

/-- An entry of the index that the administrative interface shows. -/
structure IndexEntry where
  name : String
  path : String
deriving DecidableEq, Repr

/-- An entry of the index in a listing. -/
def IndexEntry.toJson (e : IndexEntry) : Json :=
  .object [("name", .string e.name), ("path", .string e.path)]

end Route

/-- A route. -/
structure Route (σ : Type) where
  name : String
  method : String
  pattern : Route.Pattern
  /-- Is it served on the administrative interface instead of the public one? -/
  admin : Bool := false
  /-- The name under which the index lists it. -/
  index? : Option String := none
  requestType : String := Route.plainRequestType
  responseType : String := Route.plainResponseType
  /-- The filters that wrap this route only. -/
  filters : Http.Chain σ := []
  callback : Http.Handler σ

namespace Route

variable {σ : Type}

/-- A route with the name that says its method and template. -/
def make (method template : String) (callback : Http.Handler σ) : Except BuildError (Route σ) :=
  (Pattern.compile template).map fun pattern =>
    { name := method ++ " " ++ template, method := method, pattern := pattern, callback := callback }

/-- What can be said of a route once it is made. -/
inductive Setting (σ : Type) where
  /-- Another name. -/
  | name (s : String)
  /-- Serve it on the administrative interface. -/
  | admin
  /-- List it in the index. -/
  | index (s : String)
  /-- One more filter, inside of those that there are. -/
  | filter (f : Http.Filter σ)
  /-- More filters, in order, inside of those that there are. -/
  | filters (c : Http.Chain σ)

/-- The route with a setting. -/
def set (r : Route σ) : Setting σ → Route σ
  | .name s => { r with name := s }
  | .admin => { r with admin := true }
  | .index s => { r with index? := some s }
  | .filter f => { r with filters := r.filters ++ [f] }
  | .filters c => { r with filters := r.filters ++ c }

/-- The route with settings, one after the other. -/
def setAll (r : Route σ) (settings : List (Setting σ)) : Route σ := settings.foldl set r

/-- The template of a route. -/
def template (r : Route σ) : String := r.pattern.template

/-- What a listing tells of the route. -/
def info (r : Route σ) : Info :=
  { name := r.name, method := r.method, path := r.template, admin := r.admin, index? := r.index?
    requestType := r.requestType, responseType := r.responseType }

/-- What a request learns of the route it was matched to. -/
def matched (r : Route σ) : Matched := ⟨r.name, r.template⟩

/-- A route as a developer sees it. -/
def debug (r : Route σ) : String :=
  Text.recordText "Route"
    [("name", Text.quote r.name), ("method", r.method), ("pattern", r.pattern.debug),
     ("admin", if r.admin then "true" else "false"), ("filters", r.filters.debug)]

/-- The callback behind the given filters and the route's own. -/
def behind (outer : Http.Chain σ) (r : Route σ) : Http.Handler σ :=
  Chain.compose (outer ++ r.filters) r.callback

end Route
end Switchyard
