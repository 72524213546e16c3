import Switchyard.Failure.Kind
import Switchyard.Http.Status
import Switchyard.Text.Quoted

/-!
  Error values: what went wrong, in two wordings, and what caused it.
-/

namespace Switchyard

/-- An exception that says with which status it is to be answered. -/
structure HttpException where
  status : Http.Status
  message : String
deriving DecidableEq, Repr

namespace HttpException

/-- The kind of these exceptions. -/
def kind : Kind := ⟨"request_router::exception::http::HttpException"⟩

def badRequest (message : String) : HttpException := ⟨400, message⟩
def unauthorized (message : String) : HttpException := ⟨401, message⟩
def forbidden (message : String) : HttpException := ⟨403, message⟩
def notFound (message : String) : HttpException := ⟨404, message⟩
def conflict (message : String) : HttpException := ⟨409, message⟩

/-- The wording for people. -/
def text (e : HttpException) : String := e.status.text ++ ": " ++ e.message

/-- The wording for developers. -/
def debug (e : HttpException) : String :=
  Text.recordText "HttpException"
    [("status", Number.natText e.status), ("message", Text.quote e.message)]

end HttpException

/-- An error value. -/
inductive Fault where
  /-- An error with nothing behind it; its kind if it has one of its own, and both wordings. -/
  | plain (kind : Option Kind) (text debug : String)
  /-- An error that was caused by another. -/
  | caused (kind : Option Kind) (text debug : String) (source : Fault)
  | http (e : HttpException)
  /-- An error wrapped together with a lineage, which reads like the error itself. -/
  | wrapped (lineage : List Kind) (inner : Fault)

namespace Fault

/-- A bare message. -/
def message (s : String) : Fault := plain none s (Text.quote s)

/-- The wording for people. -/
def text : Fault → String
  | plain _ t _ | caused _ t _ _ => t
  | http e => e.text
  | wrapped _ inner => inner.text

/-- The names of a lineage as a list. -/
def lineageText (ks : List Kind) : String := Text.bracketed (ks.map Kind.name)

/-- The wording for developers. -/
def debug : Fault → String
  | plain _ _ d | caused _ _ d _ => d
  | http e => e.debug
  | wrapped ks inner =>
    Text.recordText "Failure" [("error", debug inner), ("lineage", lineageText ks)]

/-- The causes behind an error, nearest first. -/
def sources : Fault → List Fault
  | plain .. | http _ => []
  | caused _ _ _ source => source :: source.sources
  | wrapped _ inner => inner.sources

/-- The kind that the error value itself is of; a wrapper hides that of what it wraps. -/
def kind? : Fault → Option Kind
  | plain k _ _ | caused k _ _ _ => k
  | http _ => some HttpException.kind
  | wrapped .. => none

end Fault
end Switchyard
