import SteadyLink.Client.Action
import SteadyLink.Client.Basic
import SteadyLink.Client.Dispatch
import SteadyLink.Client.Hub
import SteadyLink.Client.Journal
import SteadyLink.Client.Task
import SteadyLink.Connection.CommandQueue
import SteadyLink.Connection.Config
import SteadyLink.Connection.Control
import SteadyLink.Connection.Endpoint
import SteadyLink.Connection.State
import SteadyLink.Connection.Supervisor.Basic
import SteadyLink.Connection.Supervisor.Step
import SteadyLink.Event.Basic
import SteadyLink.Event.Bus
import SteadyLink.Event.Exchange
import SteadyLink.Fault
import SteadyLink.Json.Error
import SteadyLink.Json.Number
import SteadyLink.Json.Parser
import SteadyLink.Json.Printer
import SteadyLink.Json.Reading
import SteadyLink.Json.Value
import SteadyLink.Message.Codec
import SteadyLink.Message.Envelope
import SteadyLink.Message.Frame
import SteadyLink.Message.Reserved
import SteadyLink.Metrics.Category
import SteadyLink.Metrics.Feed
import SteadyLink.Metrics.ServerError
import SteadyLink.Metrics.Snapshot
import SteadyLink.Number.Binary64
import SteadyLink.Number.Rounding
import SteadyLink.Number.Shortest
import SteadyLink.Number.Single
import SteadyLink.Observer.Log
import SteadyLink.Observer.Set
import SteadyLink.Policy.Backoff
import SteadyLink.Policy.Jitter
import SteadyLink.Policy.Limit
import SteadyLink.Routing.Registry
import SteadyLink.Simulation.Scenario
import SteadyLink.Simulation.Scheduler
import SteadyLink.Simulation.Server
import SteadyLink.Table
import SteadyLink.Text.Blank
import SteadyLink.Text.Printable
import SteadyLink.Text.Quoted
import SteadyLink.Text.Ranges
import SteadyLink.Time.Duration
import SteadyLink.Time.Seconds
import SteadyLink.Time.Ticker
import SteadyLink.Url.Basic
import SteadyLink.Url.Encoding
import SteadyLink.Url.Host
import SteadyLink.Url.Parser
import SteadyLink.Proofs.Runs
import SteadyLink.Proofs.Outbound
import SteadyLink.Proofs.Callbacks
import SteadyLink.Proofs.ClientRuns
import SteadyLink.Proofs.Sessions
import SteadyLink.Proofs.StateViews
import SteadyLink.Proofs.SessionEnds
import SteadyLink.Proofs.SessionOwnership
import SteadyLink.Proofs.Attempts
import SteadyLink.Proofs.RetryPolicy
import SteadyLink.Proofs.Reconnects
import SteadyLink.Proofs.Inbound
import SteadyLink.Proofs.Stopping
import SteadyLink.Proofs.JsonText
import SteadyLink.Proofs.Messages
import SteadyLink.Proofs.FlattenedMessages
import SteadyLink.Proofs.Registrations
import SteadyLink.Proofs.Dispatches
import SteadyLink.Proofs.EventTrace
import SteadyLink.Proofs.Journeys
import SteadyLink.Proofs.Broadcasts
import SteadyLink.Proofs.Listeners
import SteadyLink.Proofs.ListenerRuns
import SteadyLink.Proofs.HookViews
import SteadyLink.Proofs.StateHooks
import SteadyLink.Proofs.HookRemoval
import SteadyLink.Proofs.Failures
import SteadyLink.Proofs.ErrorHooks
import SteadyLink.Proofs.ObserverPipeline
import SteadyLink.Proofs.ObserverReports
import SteadyLink.Proofs.Endpoints
import SteadyLink.Proofs.FeedRequests
import SteadyLink.Proofs.ClockRange
import SteadyLink.Proofs.EventNumbers
import SteadyLink.Proofs.ObserverViews
import SteadyLink.Proofs.ObserverEnds
import SteadyLink.Proofs.BackoffDelays
import SteadyLink.Proofs.FeedReadings
import SteadyLink.Proofs.FeedDeliveries
import SteadyLink.Proofs.Snapshots
import SteadyLink.Proofs.ObserverFanOut
import SteadyLink.Proofs.JitteredDelays
import SteadyLink.Proofs.QueueOrder
import SteadyLink.Proofs.JsonObjects
import SteadyLink.Proofs.FrameReading
import SteadyLink.Proofs.ReceiverAccounts
import SteadyLink.Proofs.ExchangeSteps
import SteadyLink.Proofs.BusAccounts
import SteadyLink.Proofs.Heartbeats
import SteadyLink.Proofs.JitterRanges
