import Switchyard.Route.Router

/-!
  The boundary to the transport: bodies arrive in pieces and are gathered up to a limit, and every
  request gets a response.
-/

namespace Switchyard.Http

/-- An item of a body on its way: some bytes, or the error that ends the stream. -/
abbrev Chunk := Except String Bytes

/-- The error of a body that is longer than allowed. -/
def tooLongText : String := "length limit exceeded"

/-- Gather a body of at most `limit` bytes. -/
def gather : Nat → List Chunk → Except String Bytes
  | _, [] => .ok []
  | _, .error e :: _ => .error e
  | limit, .ok bytes :: rest =>
    if limit < bytes.length then .error tooLongText
    else (gather (limit - bytes.length) rest).map (bytes ++ ·)

/-- One interface of a router as the transport sees it. -/
structure Service (σ : Type) where
  router : Route.Router σ
  interface : Interface := .external
  bodyLimit : Nat := 1024 * 1024

namespace Service

variable {σ : Type}

/-- The response to what dispatching came to. -/
def respond : Except DispatchError Response → Flow σ Empty Empty Response
  | .ok rep => pure rep
  | .error e =>
    if e.isNotFound then pure (.error 404 e.message)
    else match e with
      | .unhandled f => do
        Prog.emit ⟨.error, "Failure escaped the filter chain", [("error", .text f.text)]⟩
        pure (.error 500 Route.genericMessage)
      | e => pure (.error 500 e.message)

/-- Gather the body of a request, dispatch the request, and give the response. -/
def handle (s : Service σ) (head : Request) (chunks : List Chunk) : Flow σ Empty Empty Response :=
  match gather s.bodyLimit chunks with
  | .error e => do
    Prog.emit ⟨.warn, "Failed to buffer request body",
      [("error", .text e), ("limit", .count s.bodyLimit)]⟩
    pure (.error 413 "request body too large or unreadable")
  | .ok body => do
    let answer ← s.router.dispatch { interface := s.interface } { head with body := body }
    respond answer

end Service
end Switchyard.Http
