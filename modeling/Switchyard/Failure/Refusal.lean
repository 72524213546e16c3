import Switchyard.Failure.Basic

/-!
  Why building a router is refused, and why a request is.
-/

namespace Switchyard

/-- What is wrong with a route template. -/
inductive TemplateFault where
  | noLeadingSlash
  | wildcardNotLast
  | emptyName
  | repeatedName
deriving DecidableEq, Repr

/-- The wording of a template fault. -/
def TemplateFault.message : TemplateFault → String
  | .noLeadingSlash => "template must start with '/'"
  | .wildcardNotLast => "wildcard must be the final segment"
  | .emptyName => "parameter name is empty"
  | .repeatedName => "parameter name is repeated"

/-- Why a step of building a router is refused. -/
inductive BuildError where
  /-- The router is frozen. -/
  | frozen
  /-- A service router has its controller. -/
  | multipleControllers (existing rejected : String)
  /-- A service router takes filters only before its controller. -/
  | filterAfterController (controller : String)
  | duplicateRoute (method path : String)
  | duplicateMethod (method : String)
  | invalidTemplate (template : String) (reason : TemplateFault)
  /-- There is no mapper for failures without one of their own. -/
  | missingDefaultMapper
deriving DecidableEq, Repr

/-- The wording of a refusal. -/
def BuildError.message : BuildError → String
  | .frozen => "router is frozen; no further registration is permitted"
  | .multipleControllers existing rejected =>
    "a controller is already registered (existing: " ++ existing ++ ", rejected: " ++ rejected ++ ")"
  | .filterAfterController controller =>
    "filters must be added before the controller (" ++ controller ++ ")"
  | .duplicateRoute method path => "route " ++ method ++ " " ++ path ++ " is already registered"
  | .duplicateMethod method => "method " ++ method ++ " is already registered"
  | .invalidTemplate template reason =>
    "invalid route template " ++ Text.quote template ++ ": " ++ reason.message
  | .missingDefaultMapper => "no default exception mapper registered"

/-- Why a request is not answered with a reply. -/
inductive DispatchError where
  | routeNotFound (method path : String)
  | methodNotFound (method : String)
  /-- A failure that nothing turned into a reply. -/
  | unhandled (failure : Failure)

namespace DispatchError

/-- The wording. -/
def message : DispatchError → String
  | routeNotFound method path => "no route for " ++ method ++ " " ++ path
  | methodNotFound method => "no method named " ++ method
  | unhandled failure => "unhandled failure: " ++ failure.text

/-- Was there nothing to dispatch to? -/
def isNotFound : DispatchError → Bool
  | routeNotFound .. | methodNotFound _ => true
  | unhandled _ => false

/-- The causes behind the error, nearest first. -/
def sources : DispatchError → List Fault
  | unhandled failure => failure.toFault :: failure.sources
  | _ => []

end DispatchError
end Switchyard
