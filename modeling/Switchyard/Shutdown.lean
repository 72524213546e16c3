/-!
  Coordinated shutdown.

  Handles share one channel with a single slot.  Whoever wants to wait subscribes and gets a future
  that stands at the end of the channel, so that it sees every signal sent afterwards and none sent
  before.  A future that was overtaken by several signals notices that it missed some, and that wakes
  it as well; and so does the end of the last handle.
-/

namespace Switchyard

/-- The channel with its handles and futures, both by number. -/
structure Shutdown where
  /-- The number of signals that were sent to somebody. -/
  sent : Nat := 0
  /-- Is the handle alive? -/
  handles : List Bool := [true]
  /-- The position that a future reads from; nothing once it is gone. -/
  futures : List (Option Nat) := []
deriving DecidableEq, Repr

namespace Shutdown

/-- The number of signals that the channel keeps. -/
def capacity : Nat := 1

/-- What a future finds at its position. -/
inductive Receipt where
  | empty
  | signal
  /-- So many signals were overwritten before they were read. -/
  | lagged (missed : Nat)
  /-- There is nobody left to send. -/
  | closed
deriving DecidableEq, Repr

/-- Is the handle alive? -/
def isAlive (s : Shutdown) (handle : Nat) : Bool := s.handles.getD handle false

/-- The number of futures that still wait. -/
def receiverCount (s : Shutdown) : Nat := s.futures.countP Option.isSome

/-- A future that becomes ready at the next signal. -/
def subscribe (s : Shutdown) : Shutdown := { s with futures := s.futures ++ [some s.sent] }

/-- Send the signal; without anybody waiting nothing is sent. -/
def trigger (s : Shutdown) : Shutdown :=
  if s.receiverCount = 0 then s else { s with sent := s.sent + 1 }

/-- What a future at this position finds. -/
def receive (s : Shutdown) (position : Nat) : Receipt :=
  if s.sent ≤ position then (if s.handles.any id then .empty else .closed)
  else if position + capacity < s.sent then .lagged (s.sent - position - capacity)
  else .signal

/-- The future is gone. -/
def dropFuture (s : Shutdown) (future : Nat) : Shutdown :=
  { s with futures := s.futures.set future none }

/-- Another handle to the same channel. -/
def clone (s : Shutdown) : Shutdown := { s with handles := s.handles ++ [true] }

/-- The handle is gone. -/
def drop (s : Shutdown) (handle : Nat) : Shutdown := { s with handles := s.handles.set handle false }

/-- A call on a handle or a future. -/
inductive Call where
  | signalled (handle : Nat)
  | poll (future : Nat)
  | dropFuture (future : Nat)
  | trigger (handle : Nat)
  | count (handle : Nat)
  | clone (handle : Nat)
  | drop (handle : Nat)
deriving DecidableEq, Repr

/-- What a call answers. -/
inductive Answer where
  | done
  /-- The number of a new handle or future, or how many wait. -/
  | number (n : Nat)
  | ready
  | pending
  /-- The handle or the future does not exist any more. -/
  | gone
deriving DecidableEq, Repr

/-- A call on a handle, if it is alive. -/
def onHandle (s : Shutdown) (handle : Nat) (call : Answer × Shutdown) : Answer × Shutdown :=
  if s.isAlive handle then call else (.gone, s)

/-- Carry out a call; a future that was found ready is gone. -/
def perform (s : Shutdown) : Call → Answer × Shutdown
  | .signalled h => s.onHandle h (.number s.futures.length, s.subscribe)
  | .trigger h => s.onHandle h (.done, s.trigger)
  | .count h => s.onHandle h (.number s.receiverCount, s)
  | .clone h => s.onHandle h (.number s.handles.length, s.clone)
  | .drop h => s.onHandle h (.done, s.drop h)
  | .poll f =>
    match s.futures.getD f none with
    | none => (.gone, s)
    | some position =>
      if s.receive position = .empty then (.pending, s) else (.ready, s.dropFuture f)
  | .dropFuture f =>
    match s.futures.getD f none with
    | none => (.gone, s)
    | some _ => (.done, s.dropFuture f)

end Shutdown
end Switchyard
