import Switchyard.Observe.Event
import Switchyard.Observe.Metric
import Switchyard.Shutdown

/-!
  Servers and their common shutdown.

  A server is ready to stop once the shutdown future it was given is.  The application first opens
  its listeners and then gives every server its future; only opening a listener takes time.
-/

namespace Switchyard.App

/-- Whether requests from outside get through to the listeners. -/
inductive Link where
  | isolated
  | connected
deriving DecidableEq, Repr

/-- Some running servers; the n-th of them has the n-th shutdown future. -/
structure Hosting where
  interfaces : List Interface := []
  shutdown : Shutdown := {}

namespace Hosting

/-- One more server. -/
def start (h : Hosting) (i : Interface) : Hosting :=
  ⟨h.interfaces ++ [i], h.shutdown.subscribe⟩

/-- Servers for some interfaces. -/
def ofInterfaces (is : List Interface) : Hosting := is.foldl start {}

/-- How many servers wait for the shutdown. -/
def waiting (h : Hosting) : Nat := h.shutdown.receiverCount

/-- The shutdown. -/
def stop (h : Hosting) : Hosting := { h with shutdown := h.shutdown.trigger }

/-- Is a future ready? -/
def isReady (h : Hosting) : Option Nat → Bool
  | none => true
  | some position => h.shutdown.receive position ≠ .empty

/-- Which servers have stopped. -/
def stopped (h : Hosting) : List Bool := h.shutdown.futures.map h.isReady

/-- Is a request on an interface accepted? -/
def accepts (h : Hosting) (link : Link) (i : Interface) : Bool :=
  link = .connected && (h.interfaces.zip h.stopped).contains (i, false)

/-- The event of a server that begins. -/
def startingEvent (i : Interface) : Event :=
  ⟨.info, "HTTP server starting", [("interface", .text i.text)]⟩

/-- The event of a server that has stopped. -/
def stoppedEvent (i : Interface) : Event :=
  ⟨.info, "HTTP server stopped", [("interface", .text i.text)]⟩

/-- The events of the servers that have stopped. -/
def stoppedEvents (h : Hosting) : List Event :=
  ((h.interfaces.zip h.stopped).filter (·.2)).map fun p => stoppedEvent p.1

end Hosting

/-! ## Starting -/

/-- A step of starting the application. -/
inductive StartStep where
  /-- Open the listener of an interface. -/
  | openListener (i : Interface)
  /-- Give the server of an interface its shutdown future. -/
  | giveFuture (i : Interface)
deriving DecidableEq, Repr

/-- The interfaces that are served. -/
def servedInterfaces (adminEnabled : Bool) : List Interface :=
  if adminEnabled then [.external, .admin] else [.external]

/-- The steps of starting, in order. -/
def startSteps (adminEnabled : Bool) : List StartStep :=
  let served := servedInterfaces adminEnabled
  served.map .openListener ++ served.map .giveFuture

/-- Carry out a step. -/
def StartStep.perform (h : Hosting) : StartStep → Hosting
  | openListener _ => h
  | giveFuture i => h.start i

/-- Before the first step one handle is with the application and another with the task that waits for
    the interrupt. -/
def beforeStart : Hosting := { shutdown := { handles := [true, true] } }

/-- The interrupt: the task that waited for it sends the shutdown and ends, and its handle with it. -/
def Hosting.interrupt (h : Hosting) : Hosting :=
  { h with shutdown := (h.shutdown.trigger).drop 1 }

/-- Carry out some steps, with an interrupt between them. -/
def interruptedBetween (before after : List StartStep) : Hosting :=
  after.foldl StartStep.perform (before.foldl StartStep.perform beforeStart).interrupt

/-- Start, with an interrupt after some of the steps. -/
def startInterrupted (adminEnabled : Bool) (before : Nat) : Hosting :=
  let steps := startSteps adminEnabled
  interruptedBetween (steps.take before) (steps.drop before)

/-- Start without an interrupt. -/
def started (adminEnabled : Bool) : Hosting :=
  (startSteps adminEnabled).foldl StartStep.perform beforeStart

end Switchyard.App
