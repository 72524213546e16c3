import Switchyard.Route.Router
import Switchyard.Route.Mappers
import Switchyard.Rpc.Registry
import Switchyard.Rpc.Router
import Switchyard.Failure.Cache
import Switchyard.Dark.Setup
import Switchyard.Http.Service
import Switchyard.Shutdown
import Switchyard.Config.Load
import Switchyard.App.Hosting
import Switchyard.App.Router
import Switchyard.Cli.Run
import Switchyard.Main
import Switchyard.Program.Machine
import Switchyard.Script.Dialects
import Switchyard.Proofs.Program.Runs
import Switchyard.Proofs.Program.Adorned
import Switchyard.Proofs.Program.Bounded
import Switchyard.Proofs.Program.Likeness
import Switchyard.Proofs.Failure.Registration
import Switchyard.Proofs.Failure.Interleaving
import Switchyard.Proofs.Filter.Mapping
import Switchyard.Proofs.Filter.Account
import Switchyard.Proofs.Filter.Stages
import Switchyard.Proofs.Filter.Observers
import Switchyard.Proofs.Filter.Hiding
import Switchyard.Proofs.Dark.Traffic
import Switchyard.Proofs.Dark.Schedule
import Switchyard.Proofs.Dark.Conservation
import Switchyard.Proofs.Observe.Totals
import Switchyard.Proofs.Build.History
import Switchyard.Proofs.Build.Session
import Switchyard.Proofs.Build.Batches
import Switchyard.Proofs.Route.Template
import Switchyard.Proofs.Route.Grammar
import Switchyard.Proofs.Route.Shape
import Switchyard.Proofs.Route.History
import Switchyard.Proofs.Route.Dispatch
import Switchyard.Proofs.Route.Pipeline
import Switchyard.Proofs.Route.Selection
import Switchyard.Proofs.Route.Isolation
import Switchyard.Proofs.Route.Opacity
import Switchyard.Proofs.Rpc.History
import Switchyard.Proofs.Rpc.Dispatch
import Switchyard.Proofs.Rpc.Lifecycle
import Switchyard.Proofs.NoEscape
import Switchyard.Proofs.Registries
import Switchyard.Proofs.Refused
import Switchyard.Proofs.NoInterference
import Switchyard.Proofs.Placement
import Switchyard.Proofs.Program.Sessions
import Switchyard.Proofs.Route.Recording
import Switchyard.Proofs.Route.RequestIds
import Switchyard.Proofs.Program.Plain
import Switchyard.Proofs.Observe.Series
import Switchyard.Proofs.Route.Counting
import Switchyard.Proofs.Http.Headers
import Switchyard.Proofs.Http.Gathering
import Switchyard.Proofs.Number.Words
import Switchyard.Proofs.App.Assembly
import Switchyard.Proofs.App.Startup
import Switchyard.Proofs.App.Trace
import Switchyard.Proofs.App.Visits
import Switchyard.Proofs.App.Mirroring
import Switchyard.Proofs.Groups.Bodies
import Switchyard.Proofs.Groups.Ledger
import Switchyard.Proofs.Groups.Serving
import Switchyard.Proofs.Groups.Refinement
import Switchyard.Proofs.Route.Shadowing
import Switchyard.Proofs.Bypass
import Switchyard.Proofs.Route.Identification
import Switchyard.Proofs.Route.Data
import Switchyard.Proofs.Dark.Copies
import Switchyard.Proofs.Filter.Onion
import Switchyard.Proofs.Results
import Switchyard.Proofs.Failure.Nesting
import Switchyard.Proofs.Http.Targets
import Switchyard.Proofs.Dark.Retargeting
import Switchyard.Proofs.Shutdown.Signals
import Switchyard.Proofs.App.Interrupt
import Switchyard.Proofs.Filter.Algebra
import Switchyard.Proofs.Failure.Lineage
import Switchyard.Proofs.Text.Utf8
import Switchyard.Proofs.Json.Strings
import Switchyard.Proofs.Json.Values
import Switchyard.Proofs.Http.ErrorBodies
