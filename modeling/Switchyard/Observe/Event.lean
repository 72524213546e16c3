/-!
  Structured events: a level, a message and named fields, in the order in which they are given.
-/

namespace Switchyard

/-- How much an event matters. -/
inductive Level where
  | trace
  | debug
  | info
  | warn
  | error
deriving DecidableEq, Repr

/-- The name of a level in a log line. -/
def Level.text : Level → String
  | .trace => "TRACE"
  | .debug => "DEBUG"
  | .info => "INFO"
  | .warn => "WARN"
  | .error => "ERROR"

/-- The position of a level, the most detailed lowest. -/
def Level.rank : Level → Nat
  | .trace => 0
  | .debug => 1
  | .info => 2
  | .warn => 3
  | .error => 4

/-- The value of a field. -/
inductive FieldValue where
  | text (s : String)
  | count (n : Nat)
  | flag (b : Bool)
deriving DecidableEq, Repr

/-- Something worth a log line. -/
structure Event where
  level : Level
  message : String
  fields : List (String × FieldValue) := []
deriving DecidableEq, Repr

end Switchyard
