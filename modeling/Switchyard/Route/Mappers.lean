import Switchyard.Failure.Mapper
import Switchyard.Http.Message

/-!
  The mappers that every HTTP router starts with.
-/

namespace Switchyard.Route

/-- The message of an answer that hides what went wrong. -/
def genericMessage : String := "Internal Server Error"

/-- Answers an exception with its own status and message.  Kinds below it have no status of their
    own and are answered as a server error. -/
def httpExceptionMapper : Mapper Http.Response where
  reply f := match f.http? with
    | some e => .error e.status e.message
    | none => .error 500 f.text

/-- Answers everything in the same way and says in an event what it was. -/
def defaultMapper : Mapper Http.Response where
  reply _ := .error 500 genericMessage
  events f := [⟨.error, "Unhandled failure while dispatching request", [("error", .text f.text)]⟩]

/-- The mappers that a new HTTP router has. -/
def initialMappers : Mappers Http.Response :=
  (Mappers.register {} HttpException.kind httpExceptionMapper).registerDefault defaultMapper

end Switchyard.Route
