import Switchyard.Filter.Basic
import Switchyard.Bytes

/-!
  Calls of a typed service: a method by name, headers, and arguments that nobody here looks into.
-/

namespace Switchyard.Rpc

/-- A call. -/
structure Call where
  method : String
  /-- Headers sorted by name, each name once. -/
  headers : List (String × String) := []
  payload : Bytes := []
deriving DecidableEq

namespace Call

/-- Put a header into a sorted list, in place of one of the same name. -/
def putHeader (name value : String) : List (String × String) → List (String × String)
  | [] => [(name, value)]
  | (k, v) :: rest =>
    if name = k then (name, value) :: rest
    else if name < k then (name, value) :: (k, v) :: rest
    else (k, v) :: putHeader name value rest

/-- The call with a header. -/
def withHeader (c : Call) (name value : String) : Call :=
  { c with headers := putHeader name value c.headers }

/-- The value of a header. -/
def header? (c : Call) (name : String) : Option String :=
  (c.headers.find? (·.1 = name)).map (·.2)

/-- A copy for a second destination: the whole call. -/
def darkCopy (c : Call) : Call := c

end Call

/-- The answer to a call. -/
inductive Reply where
  | reply (payload : Bytes)
  /-- An exception that the caller sees as an answer. -/
  | exception (name message : String)
deriving DecidableEq

/-- Is the answer an exception? -/
def Reply.isException : Reply → Bool
  | .reply _ => false
  | .exception .. => true

/-- A handler of calls. -/
abbrev Handler (σ : Type) := Switchyard.Handler σ Call Reply

/-- A filter of calls. -/
abbrev Filter (σ : Type) := Switchyard.Filter σ Call Reply

/-- A chain of filters of calls. -/
abbrev Chain (σ : Type) := Switchyard.Chain σ Call Reply

/-- Leaves one event per call once its outcome is there. -/
def logging {σ : Type} : Filter σ := fun call => do
  let outcome ← Prog.call call
  match outcome with
  | .ok rep => Prog.emit ⟨.info, "Thrift call completed",
      [("method", .text call.method), ("exception", .flag rep.isException)]⟩
  | .error f => Prog.emit ⟨.warn, "Thrift call failed",
      [("method", .text call.method), ("error", .text f.text)]⟩
  pure outcome

end Switchyard.Rpc
