import Switchyard.Program.Basic
import Switchyard.Failure.Basic

/-!
  Failures that scripted stages raise.  Raising one computes its lineage, which may leave a warning.
-/

namespace Switchyard.Script

/-- A failure with the events of making it. -/
structure Raise where
  failure : Failure
  events : List Event := []

namespace Raise

/-- An error value with a message, its source if it has one, and a chain of further sources. -/
def chainFault (first : String) : List String → Fault
  | [] => .plain none first (Text.recordText "Plain"
      [("message", Text.quote first), ("source", Text.optionText none)])
  | next :: rest =>
    let source := chainFault next rest
    .caused none first (Text.recordText "Plain"
      [("message", Text.quote first), ("source", Text.optionText (some source.debug))]) source

/-- A chain of errors as one; nothing for an empty chain. -/
def chainFault? : List String → Option Fault
  | [] => none
  | first :: rest => some (chainFault first rest)

/-- A bare message. -/
def ofMessage (message : String) : Raise := ⟨.ofMessage message, []⟩

/-- An exception with a status. -/
def ofHttp (e : HttpException) : Raise := ⟨.ofHttp e, []⟩

/-- Any error value, without lineage. -/
def boxed (fault : Fault) : Raise := ⟨.ofFault fault, []⟩

/-- A failure inside another. -/
def nested (inner : Raise) : Raise := ⟨.ofFault inner.failure.toFault, inner.events⟩

/-- An exception of a kind that is known under a label. -/
def ofKind (h : Hierarchy) (kind : Kind) (label message : String) : Raise :=
  ⟨.ofException h kind (.plain (some kind) (label ++ ": " ++ message)
      (Text.recordText label [("message", Text.quote message)])),
    h.warnings kind⟩

/-- An exception of a kind that is known under a label, with a chain of errors behind it. -/
def withSource (h : Hierarchy) (kind : Kind) (label message : String) (chain : List String) : Raise :=
  let source? := chainFault? chain
  let text := label ++ ": " ++ message
  let debug := Text.recordText label
    [("message", Text.quote message), ("source", Text.optionText (source?.map Fault.debug))]
  ⟨.ofException h kind
      (match source? with
        | none => .plain (some kind) text debug
        | some source => .caused (some kind) text debug source),
    h.warnings kind⟩

/-- Raise the failure. -/
def raise {σ Q A Rep : Type} (r : Raise) : Flow σ Q A (Outcome Rep) := do
  Prog.observeAll (r.events.map .event)
  pure (.error r.failure)

end Raise
end Switchyard.Script
