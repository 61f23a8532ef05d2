import ClusterAgent.Agent.Basic
import ClusterAgent.Agent.Fault
import ClusterAgent.Agent.Journal
import ClusterAgent.Agent.Session
import ClusterAgent.Agent.Slot
import ClusterAgent.Client.Access
import ClusterAgent.Client.Connection
import ClusterAgent.Client.Fault
import ClusterAgent.Client.Handle
import ClusterAgent.Client.InCluster
import ClusterAgent.Client.Loader
import ClusterAgent.Client.Requests
import ClusterAgent.Config.BindAddress
import ClusterAgent.Config.CommandLine
import ClusterAgent.Config.Configuration
import ClusterAgent.Config.Flags
import ClusterAgent.Config.Help
import ClusterAgent.Config.Snapshot
import ClusterAgent.Controller.Catalog
import ClusterAgent.Controller.Relist
import ClusterAgent.Controller.Station
import ClusterAgent.Controller.Tasks
import ClusterAgent.Controller.Ticker
import ClusterAgent.Debug.Endpoint
import ClusterAgent.Debug.Message
import ClusterAgent.Debug.Server
import ClusterAgent.Decimal.Binary
import ClusterAgent.Decimal.Layout
import ClusterAgent.Decimal.Numeral
import ClusterAgent.Decimal.Shortest
import ClusterAgent.Discovery.Exchange
import ClusterAgent.Discovery.Listing
import ClusterAgent.Discovery.Plan
import ClusterAgent.Discovery.Run
import ClusterAgent.Discovery.Version
import ClusterAgent.Encoding.Base64
import ClusterAgent.Encoding.Der
import ClusterAgent.Encoding.Pem
import ClusterAgent.Encoding.Unicode
import ClusterAgent.Environment
import ClusterAgent.Json.Reader
import ClusterAgent.Json.Value
import ClusterAgent.Keyed
import ClusterAgent.Kubeconfig.Basic
import ClusterAgent.Kubeconfig.Load
import ClusterAgent.Kubeconfig.Reader
import ClusterAgent.Net.Address
import ClusterAgent.Net.Binding
import ClusterAgent.Net.HostName
import ClusterAgent.Net.Status
import ClusterAgent.Net.Uri
import ClusterAgent.Program
import ClusterAgent.Proofs.Client.Departures
import ClusterAgent.Proofs.Rate.Envelope
import ClusterAgent.Proofs.Rate.Flood
import ClusterAgent.Proofs.Rate.Refill
import ClusterAgent.Proofs.Rate.Waiting
import ClusterAgent.Rate.Bucket
import ClusterAgent.Rate.Correlator
import ClusterAgent.Rate.Limiter
import ClusterAgent.Telemetry.Filter
import ClusterAgent.Telemetry.Log
import ClusterAgent.Telemetry.Measurement
import ClusterAgent.Telemetry.Notice
import ClusterAgent.Telemetry.Registry
import ClusterAgent.Text.Blank
import ClusterAgent.Text.Quoted
import ClusterAgent.Text.Unseen
import ClusterAgent.Time.Clock
import ClusterAgent.Time.Span
import ClusterAgent.Time.Span.Brief
import ClusterAgent.Time.Span.Phrase
import ClusterAgent.Yaml.Node
import ClusterAgent.Yaml.Reader
import ClusterAgent.Main
import ClusterAgent.Proofs.Agent.Course
import ClusterAgent.Client.Dispatcher
import ClusterAgent.Proofs.Telemetry.Counting
import ClusterAgent.Proofs.Config.Resolution
import ClusterAgent.Proofs.Startup
import ClusterAgent.Proofs.Client.Accounts
import ClusterAgent.Proofs.Client.Moves
import ClusterAgent.Proofs.Client.Dispatching
import ClusterAgent.Proofs.Client.Schedule
import ClusterAgent.Controller.Run
import ClusterAgent.Proofs.Controller.Panics
import ClusterAgent.Proofs.Controller.Stations
import ClusterAgent.Proofs.Rate.Objects
import ClusterAgent.Rate.Run
import ClusterAgent.Proofs.Rate.Conservation
import ClusterAgent.Proofs.Rate.Holders
import ClusterAgent.Proofs.Agent.Slots
import ClusterAgent.Proofs.Rate.Window
import ClusterAgent.Controller.Refreshes
import ClusterAgent.Proofs.Controller.Refreshes
import ClusterAgent.Controller.Crew
import ClusterAgent.Proofs.Client.Traces
import ClusterAgent.Proofs.Controller.Generations
import ClusterAgent.Proofs.Controller.Quiescence
import ClusterAgent.Proofs.Controller.Leads
import ClusterAgent.Proofs.Controller.Crewed
import ClusterAgent.Proofs.Controller.Stopping
import ClusterAgent.Proofs.Controller.Courses
import ClusterAgent.Proofs.Decimal.Digits
import ClusterAgent.Proofs.Config.Addresses
import ClusterAgent.Proofs.Config.Arguments
import ClusterAgent.Proofs.Time.Phrases
import ClusterAgent.Proofs.Config.Snapshots
import ClusterAgent.Proofs.Decimal.Grid
import ClusterAgent.Proofs.Decimal.Rounding
import ClusterAgent.Proofs.Decimal.Doubles
import ClusterAgent.Proofs.Decimal.Reading
import ClusterAgent.Proofs.Decimal.Written
import ClusterAgent.Proofs.Rate.Doubles
import ClusterAgent.Proofs.Rate.Waits
import ClusterAgent.Proofs.Config.AddressForms
import ClusterAgent.Proofs.Rate.Range
import ClusterAgent.Proofs.Rate.Drift
import ClusterAgent.Proofs.Rate.Polls
import ClusterAgent.Agent.JournalTable
import ClusterAgent.Proofs.Agent.Journals
