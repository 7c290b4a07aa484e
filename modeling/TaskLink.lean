import TaskLink.Configuration.Basic
import TaskLink.Configuration.Error
import TaskLink.Configuration.File
import TaskLink.Configuration.FileTree
import TaskLink.Configuration.Overrides
import TaskLink.Configuration.Rules
import TaskLink.Configuration.Search
import TaskLink.Duration
import TaskLink.Environment
import TaskLink.ErrorCode
import TaskLink.Json.Draft
import TaskLink.Json.Fault
import TaskLink.Json.Numeral
import TaskLink.Json.Printer
import TaskLink.Json.Quoted
import TaskLink.Json.Reader
import TaskLink.Json.Token
import TaskLink.Json.Tree
import TaskLink.Link.Endpoint
import TaskLink.Link.Error
import TaskLink.Link.Preempt
import TaskLink.Link.Record
import TaskLink.Log.DebugFlags
import TaskLink.Log.Filter
import TaskLink.Log.Journal
import TaskLink.Main
import TaskLink.Messaging.Broadcaster
import TaskLink.Messaging.Fabric
import TaskLink.Messaging.FramedRequester
import TaskLink.Messaging.Lifecycle
import TaskLink.Messaging.Network
import TaskLink.Messaging.Requester
import TaskLink.Messaging.Responder
import TaskLink.Messaging.Subscriber
import TaskLink.Number.Double
import TaskLink.Number.Shortest
import TaskLink.Number.Text
import TaskLink.Scenario.Act
import TaskLink.Scenario.Answer
import TaskLink.Scenario.Helper
import TaskLink.Scenario.Object
import TaskLink.Scenario.Play
import TaskLink.Scenario.Roster
import TaskLink.Scenario.Stage
import TaskLink.Scenario.Step
import TaskLink.Session.Backoff
import TaskLink.Session.Beacon
import TaskLink.Session.Command
import TaskLink.Session.Discovery
import TaskLink.Session.Error
import TaskLink.Session.Heartbeat
import TaskLink.Session.Identity
import TaskLink.Session.Monitor
import TaskLink.Session.Options
import TaskLink.Session.TaskSession
import TaskLink.Text.Blank
import TaskLink.Text.Excerpt
import TaskLink.Text.Utf8
import TaskLink.Toml.Quoted
import TaskLink.Toml.Reader
import TaskLink.Toml.Scalar
import TaskLink.Toml.Tree
import TaskLink.Tool.Arguments
import TaskLink.Tool.Rehearsal
import TaskLink.Tool.Report
import TaskLink.Tool.Run
import TaskLink.Proofs.Text.ByteOrder
import TaskLink.Proofs.Text.Excerpts
import TaskLink.Proofs.Json.Drafts
import TaskLink.Proofs.Json.Members
import TaskLink.Proofs.Json.Reordering
import TaskLink.Proofs.Json.WrittenLeaves
import TaskLink.Proofs.Json.RoundTrip
import TaskLink.Proofs.Messaging.Ownership
import TaskLink.Proofs.Messaging.NetworkSockets
import TaskLink.Proofs.Messaging.Parley
import TaskLink.Proofs.Messaging.ParleyInvariant
import TaskLink.Proofs.Messaging.ParleyScript
import TaskLink.Proofs.Messaging.ParleySteps
import TaskLink.Proofs.Messaging.ParleyRecovery
import TaskLink.Proofs.Messaging.ParleyCalls
import TaskLink.Proofs.Messaging.ParleyRuns
import TaskLink.Proofs.Messaging.FreshReply
import TaskLink.Proofs.Messaging.RecoveryAccount
import TaskLink.Proofs.Messaging.FramedExchange
import TaskLink.Proofs.Messaging.FramedRuns
import TaskLink.Proofs.Messaging.SubscriberReads
import TaskLink.Proofs.Messaging.Airing
import TaskLink.Proofs.Messaging.PublishedStream
import TaskLink.Proofs.Messaging.Inflow
import TaskLink.Proofs.Messaging.ServerRuns
import TaskLink.Proofs.Messaging.WholeMessages
import TaskLink.Proofs.Messaging.OwedReplies
import TaskLink.Proofs.Messaging.FramedRounds
import TaskLink.Proofs.Messaging.FramedDelivery
import TaskLink.Proofs.Session.HeartbeatReaders
import TaskLink.Proofs.Session.DiscoveryTrace
import TaskLink.Proofs.Session.DiscoveryBudget
import TaskLink.Proofs.Session.BackoffWaits
import TaskLink.Proofs.Session.RetryAccount
import TaskLink.Proofs.Session.IdentityResolution
import TaskLink.Proofs.Session.IdentityCoherence
import TaskLink.Proofs.Session.AnnouncedSlave
import TaskLink.Proofs.Session.MonitorRounds
import TaskLink.Proofs.Session.MonitorRequests
import TaskLink.Proofs.Session.Commands
import TaskLink.Proofs.Session.CommandChannel
import TaskLink.Proofs.Session.RequestedRebuilds
import TaskLink.Proofs.Session.RefusedRebuilds
import TaskLink.Proofs.Session.ReplyVerdicts
import TaskLink.Proofs.Session.CommandReplies
import TaskLink.Proofs.Session.CommandEnvelope
import TaskLink.Proofs.Configuration.Rules
import TaskLink.Proofs.Configuration.Tiers
import TaskLink.Proofs.Json.Readings
import TaskLink.Proofs.Json.Framing
import TaskLink.Proofs.Json.Records
import TaskLink.Proofs.Link.SettingsTexts
import TaskLink.Proofs.Link.TimeoutTexts
import TaskLink.Proofs.Link.PreemptHistories
import TaskLink.Proofs.Messaging.SentMessages
import TaskLink.Proofs.Messaging.PreemptedCalls
import TaskLink.Proofs.Session.AcceptedConfigurations
import TaskLink.Proofs.Session.SentCommands
import TaskLink.Proofs.Tool.CommandLines
import TaskLink.Proofs.Tool.CommandSent
import TaskLink.Proofs.Log.EnabledNames
import TaskLink.Proofs.Log.DebugFilters
import TaskLink.Proofs.Log.SwitchOrder
import TaskLink.Proofs.Configuration.ViolatedRules
import TaskLink.Proofs.Configuration.NearestFile
import TaskLink.Proofs.Messaging.PortBooks
import TaskLink.Proofs.Messaging.BoundPorts
import TaskLink.Proofs.Session.Tenants
import TaskLink.Proofs.Session.Tenancy
import TaskLink.Proofs.Session.BeaconPorts
import TaskLink.Proofs.Messaging.FrameLoops
import TaskLink.Proofs.Messaging.Timekeeping
import TaskLink.Proofs.Messaging.PollWaits
