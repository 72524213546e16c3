import Switchyard.Route.Basic

/-!
  Routes that exchange data: the body is decoded before the callback sees it, and what the callback
  gives is encoded.
-/

namespace Switchyard.Route

/-- How a body becomes a value, and a value a body. -/
structure Codec (In Out : Type) where
  /-- The name of the type that is decoded. -/
  inType : String
  /-- The name of the type that is encoded. -/
  outType : String
  /-- Read a body; what is wrong with it as a message. -/
  decode : Bytes → Except String In
  /-- Write a value, if it can be written. -/
  encode : Out → Except Fault Bytes

variable {σ In Out : Type}

/-- The body to decode: nothing at all stands for a null. -/
def bodyToDecode (body : Bytes) : Bytes := if body.isEmpty then Bytes.ofString "null" else body

/-- The handler around a callback on values. -/
def dataHandler (c : Codec In Out) (callback : In → Params → Flow σ Empty Empty (Outcome Out)) :
    Http.Handler σ := fun req =>
  match c.decode (bodyToDecode req.body) with
  | .error message =>
    pure (.error (.ofHttp (.badRequest ("invalid request body: " ++ message))))
  | .ok input => do
    match ← callback input (req.params?.getD {}) with
    | .error f => pure (.error f)
    | .ok output =>
      match c.encode output with
      | .ok body => pure (.ok (.ofContent 200 "application/json" body))
      | .error fault => pure (.error (.ofFault fault))

/-- A route around a callback on values. -/
def data (c : Codec In Out) (method template : String)
    (callback : In → Params → Flow σ Empty Empty (Outcome Out)) : Except BuildError (Route σ) :=
  (make method template (dataHandler c callback)).map fun r =>
    { r with requestType := c.inType, responseType := c.outType }

end Switchyard.Route
