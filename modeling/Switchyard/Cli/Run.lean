import Switchyard.App.Hosting
import Switchyard.App.Router
import Switchyard.Cli.Args
import Switchyard.Cli.LogFilter
import Switchyard.Config.Load
import Switchyard.Net.Listening

/-!
  A run of the program, from its arguments to its exit code.
-/

namespace Switchyard.Cli

/-- Servers that are up. -/
structure Serving where
  config : Config
  app : App.Built
  hosting : App.Hosting

/-- A run that got as far as reading its configuration. -/
structure Run where
  code : Nat
  stderr : String
  /-- What is logged until the servers are up. -/
  opening : List Event
  /-- The servers; none if the run ended before. -/
  serving? : Option Serving
  /-- What is logged from the interrupt on. -/
  closing : List Event

/-- How the program ends. -/
inductive Report where
  /-- Its arguments only make it print something. -/
  | printed (code : Nat) (stdout stderr : String)
  | ran (run : Run)

/-- The event of the beginning. -/
def startingEvent : Event :=
  ⟨.info, programName ++ " v" ++ programVersion ++ " starting", []⟩

/-- The event of having a configuration. -/
def loadedEvent (c : Config) : Event :=
  ⟨.info, "Configuration loaded",
    [("bind_address", .text c.server.bindAddress), ("admin_enabled", .flag c.admin.enabled),
     ("admin_address", .text c.admin.bindAddress),
     ("dark_traffic", .flag c.darkTraffic.destination?.isSome)]⟩

/-- The event of the measurements being shown. -/
def exporterEvent (c : Config) : Event :=
  ⟨.info, "Prometheus metrics exporter listening",
    [("address", .text c.observability.metricsAddress)]⟩

/-- The address at which the measurements are shown. -/
def exporterAddress (c : Config) : List Net.SocketAddress :=
  if c.observability.metricsEnabled then
    (Net.SocketAddress.parse? c.observability.metricsAddress).toList
  else []

/-- The addresses of the servers. -/
def serverAddresses (c : Config) : List Net.SocketAddress :=
  (Net.SocketAddress.parse? c.server.bindAddress).toList ++
    if c.admin.enabled then (Net.SocketAddress.parse? c.admin.bindAddress).toList else []

/-- The event of the interrupt. -/
def signalEvent : Event := ⟨.info, "Shutdown signal received", []⟩

/-- The event of the end. -/
def completeEvent : Event := ⟨.info, "Shutdown complete", []⟩

/-- The last words of a run that failed. -/
def lastWords (debug : String) : String := "Error: " ++ debug ++ "\n"

/-- Open the listeners and build the application: what is logged meanwhile, and how it ends. -/
def openAll (c : Config) (n : Dark.Network) : List Event × Except String App.Built :=
  let exporter := exporterAddress c
  match Net.SocketAddress.listenFaults? [] exporter with
  | some fault =>
    ([], .error ("FailedToCreateHTTPListener(" ++ Text.quote fault.message ++ ")"))
  | none =>
    let shown := exporter.map fun _ => exporterEvent c
    match App.build c n with
    | .error e => (shown, .error e.debug)
    | .ok app =>
      match Net.SocketAddress.listenFaults? exporter (serverAddresses c) with
      | some fault => (shown ++ app.events, .error fault.debug)
      | none => (shown ++ app.events, .ok app)

/-- Run with a configuration: serve until an interrupt. -/
def runWith (c : Config) (n : Dark.Network) : Run :=
  let filter := LogFilter.parse c.observability.logLevel
  let logged (events : List Event) := events.filter filter.allows
  let (events, app) := openAll c n
  let before := [startingEvent, loadedEvent c] ++ events
  match app with
  | .error debug =>
    { code := 1, stderr := filter.complaints ++ lastWords debug, opening := logged before
      serving? := none, closing := [] }
  | .ok app =>
    let hosting := App.started c.admin.enabled
    { code := 0
      stderr := filter.complaints
      opening := logged (before ++ hosting.interfaces.map App.Hosting.startingEvent)
      serving? := some ⟨c, app, hosting⟩
      closing := logged ([signalEvent] ++ hosting.stop.stoppedEvents ++ [completeEvent]) }

/-- Run the program; `files` says what stands at a path. -/
def run (args : List String) (files : String → Config.Source) (n : Dark.Network) : Report :=
  match readArgs args with
  | .error e => .printed 2 "" e.text
  | .ok .help => .printed 0 helpText ""
  | .ok .version => .printed 0 versionText ""
  | .ok (.run none) => .ran (runWith {} n)
  | .ok (.run (some path)) =>
    match Config.load (files path) with
    | .error e =>
      .ran { code := 1, stderr := lastWords e.debug, opening := [], serving? := none, closing := [] }
    | .ok c => .ran (runWith c n)

end Switchyard.Cli
