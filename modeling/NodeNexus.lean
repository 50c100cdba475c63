import NodeNexus.Lib.Base64
import NodeNexus.Lib.BoundedQueue
import NodeNexus.Lib.DateTime
import NodeNexus.Lib.FirstFree
import NodeNexus.Lib.Hex
import NodeNexus.Lib.Json
import NodeNexus.Lib.JsonText
import NodeNexus.Lib.Keyset
import NodeNexus.Lib.NamedTable
import NodeNexus.Lib.Transition
import NodeNexus.Lib.Program
import NodeNexus.Lib.Answered
import NodeNexus.Lib.Critical
import NodeNexus.Lib.Table
import NodeNexus.Lib.Traverse
import NodeNexus.Lib.Utf8
import NodeNexus.Lib.Recurrence
import NodeNexus.Lib.UnitOfWork
import NodeNexus.Lib.Alike
import NodeNexus.Content.Formats
import NodeNexus.Content.Schemas
import NodeNexus.Core.Template
import NodeNexus.Content.Store
import NodeNexus.Content.Requests
import NodeNexus.Content.Readers
import NodeNexus.Content.Readable
import NodeNexus.Content.ReadableRows
import NodeNexus.Content.ReadableWrites
import NodeNexus.Content.RoundTrip
import NodeNexus.Remote.Output
import NodeNexus.Script.Run
import NodeNexus.Script.Execution
import NodeNexus.Script.Cancel
import NodeNexus.Script.Resolve
import NodeNexus.Script.RenderComplete
import NodeNexus.Script.Readable
import NodeNexus.Pack.Payload
import NodeNexus.Script.References
import NodeNexus.Script.Settle
import NodeNexus.Pack.Store
import NodeNexus.Pack.Assets
import NodeNexus.Pack.Gateway
import NodeNexus.Pack.Phases
import NodeNexus.Pack.Runs
import NodeNexus.Pack.Invariant
import NodeNexus.Pack.Frames
import NodeNexus.Pack.Install
import NodeNexus.Pack.InstallSteps
import NodeNexus.Pack.LinksMade
import NodeNexus.Pack.LinksRemoved
import NodeNexus.Pack.Lifecycle
import NodeNexus.Pack.InstallOnce
import NodeNexus.Pack.ReadableContent
import NodeNexus.Pack.Readable
import NodeNexus.Pack.Registries
import NodeNexus.Pack.Update
import NodeNexus.Listing.Cursor
import NodeNexus.Node.Store
import NodeNexus.Listing.Offset
import NodeNexus.Listing.Nodes
import NodeNexus.Listing.CursorErrors
import NodeNexus.Config.LoadAll
import NodeNexus.Config.Import
import NodeNexus.Config.Export
import NodeNexus.Config.Preview
import NodeNexus.Config.RoundTrip
import NodeNexus.Scheduler.Schedules
import NodeNexus.Scheduler.Reconcile
import NodeNexus.Scheduler.Interleave
import NodeNexus.Scheduler.Converge
import NodeNexus.Scheduler.Ownership
import NodeNexus.Scheduler.OwnershipSafety
import NodeNexus.Node.Targets
import NodeNexus.Node.Service
import NodeNexus.Node.World
import NodeNexus.Node.RequiredAudit
import NodeNexus.Node.Remote
import NodeNexus.Node.AuditSecrets
import NodeNexus.Node.BulkIsolation
import NodeNexus.Node.Tags
import NodeNexus.Node.StatusHistory
import NodeNexus.Remote.Streaming
import NodeNexus.Remote.ExecStream
import NodeNexus.Auth.RefreshTokens
import NodeNexus.Auth.RefreshOnce
import NodeNexus.Audit.Outbox
import NodeNexus.Audit.Delivery
import NodeNexus.Pack.AssetRows
import NodeNexus.Registry.Source
import NodeNexus.Pack.Keyed
import NodeNexus.Pack.Upsert
import NodeNexus.Registry.Sync
import NodeNexus.Registry.Rounds
import NodeNexus.Registry.SyncReport
import NodeNexus.Registry.Converge
import NodeNexus.Events.Broadcaster
import NodeNexus.Scheduler.TimedJobs
import NodeNexus.Scheduler.Passes
import NodeNexus.Node.Writes
import NodeNexus.Config.DockerFields
import NodeNexus.Node.ReadBack
import NodeNexus.Lifecycle.CommitMiddleware
import NodeNexus.Core.ErrorSanitize
import NodeNexus.Command.Outcomes
import NodeNexus.Command.Handlers
import NodeNexus.Command.Completed
import NodeNexus.Command.RenderedLines
import NodeNexus.Command.Batch
import NodeNexus.Command.BulkCreate
import NodeNexus.Command.SharedSession
import NodeNexus.Command.ErrorTexts
import NodeNexus.Command.CheckTexts
import NodeNexus.Docker.ErrorMapper
import NodeNexus.Docker.Parsers
import NodeNexus.Script.Targets
import NodeNexus.Docker.Bulk
import NodeNexus.Lib.Shell
import NodeNexus.Script.Injection
import NodeNexus.Lib.ShellRun
import NodeNexus.Docker.CommandLines
import NodeNexus.Docker.Compose
import NodeNexus.Docker.Requests
import NodeNexus.Lib.Like
import NodeNexus.Lib.Grouping
import NodeNexus.Search.EscapedSearch
import NodeNexus.Pack.ListPacks
import NodeNexus.Pack.Stats
import NodeNexus.Pack.Archive
import NodeNexus.Lib.SlidingWindow
import NodeNexus.Lib.Recency
import NodeNexus.Api.RateLimit
import NodeNexus.Api.RateHistory
import NodeNexus.Api.RetryAfter
import NodeNexus.Compose.Projects
import NodeNexus.Compose.Upsert
import NodeNexus.Lib.Lines
import NodeNexus.Lib.ZonedDateTime
import NodeNexus.Remote.KnownHosts
import NodeNexus.Remote.HostKeys
import NodeNexus.Lib.LexicalPath
import NodeNexus.Pack.AssetPaths
import NodeNexus.Script.ExecutionRegistry
import NodeNexus.Api.Authorization
import NodeNexus.Lib.Aead
import NodeNexus.Node.CredentialCipher
import NodeNexus.Lib.Amortized
import NodeNexus.Audit.Progress
import NodeNexus.Auth.Accounts
import NodeNexus.Auth.Sessions
import NodeNexus.Lib.BoundedGather
import NodeNexus.Docker.VertBulk
import NodeNexus.Lib.EventStream
import NodeNexus.Events.Wire
import NodeNexus.Lib.Scan
import NodeNexus.Core.LogRedaction
import NodeNexus.Lib.Csv
import NodeNexus.Audit.Origin
import NodeNexus.Audit.Export
import NodeNexus.Lib.Jwt
import NodeNexus.Auth.AccessTokens
import NodeNexus.Api.ApiKeys
