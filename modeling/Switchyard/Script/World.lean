import Switchyard.Http.RequestId

/-!
  The state that scripted stages share: how many ids were generated, and how often each scripted
  handler was called.
-/

namespace Switchyard.Script

/-- The state of scripted stages. -/
structure World where
  /-- The number of ids generated so far. -/
  issued : Nat := 0
  /-- How often each handler was called. -/
  calls : List (Nat × Nat) := []

namespace World

/-- A fresh id. -/
def freshId (w : World) : String × World :=
  (Http.nthRequestId w.issued, { w with issued := w.issued + 1 })

/-- Add one under a key. -/
def bump (key : Nat) : List (Nat × Nat) → List (Nat × Nat)
  | [] => [(key, 1)]
  | (k, n) :: rest => if k = key then (k, n + 1) :: rest else (k, n) :: bump key rest

/-- How often a handler was called before, counting this call. -/
def countCall (handler : Nat) (w : World) : Nat × World :=
  (((w.calls.find? (·.1 = handler)).map (·.2)).getD 0,
    { w with calls := bump handler w.calls })

end World
end Switchyard.Script
