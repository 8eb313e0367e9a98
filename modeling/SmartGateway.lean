import SmartGateway.Lib.KeyedTable
import SmartGateway.Lib.Transition
import SmartGateway.Lib.Program
import SmartGateway.Lib.DepthFirst
import SmartGateway.Lib.RecursiveQuery
import SmartGateway.Storage.Sqlite
import SmartGateway.Storage.PostgresMethods
import SmartGateway.Storage.LocalProbes
import SmartGateway.Storage.AttemptLifecycle
import SmartGateway.Storage.AbandonedProbes
import SmartGateway.Storage.Eligibility
import SmartGateway.Storage.FallbackCycles
import SmartGateway.Storage.LedgerReplay
import SmartGateway.Domain.PlanOrder
import SmartGateway.Inbound.PublicStream
import SmartGateway.Inbound.ChatRequest
import SmartGateway.Inbound.UpstreamText
import SmartGateway.Runtime.SnapshotSafety
import SmartGateway.Runtime.Verdicts
import SmartGateway.Runtime.Evidence
import SmartGateway.Runtime.Accounting
import SmartGateway.Routing.Availability
import SmartGateway.Routing.Cooldown
import SmartGateway.Application.BlockedAccounts
import SmartGateway.Application.AttemptAudit
import SmartGateway.Application.Disconnect
import SmartGateway.Application.ProbesReturned
import SmartGateway.Routing.Recovery
import SmartGateway.Serve.SnapshotFile
import SmartGateway.Serve.Compositions
import SmartGateway.Upstream.CodePrecedence
import SmartGateway.Domain.ContentCodec
import SmartGateway.Storage.RouteQuery
import SmartGateway.Storage.HalfWrites
import SmartGateway.Runtime.RejectedEntries
import SmartGateway.Application.ErrorReplies
import SmartGateway.Upstream.StreamContract
import SmartGateway.Inbound.NullFrames
import SmartGateway.Runtime.SpoolUse
import SmartGateway.Application.AccountingEvidence
import SmartGateway.Serve.ReportedUsage
import SmartGateway.Serve.CredentialReferences
import SmartGateway.Runtime.SnapshotWrites
import SmartGateway.Serve.OfflineStart
import SmartGateway.Inbound.Secrets
import SmartGateway.Serve.Inspection
import SmartGateway.Serve.Backends
import SmartGateway.Inbound.Relay
import SmartGateway.Serve.Cascade
import SmartGateway.Inbound.Visit
import SmartGateway.Serve.Service
import SmartGateway.Serve.Accounted
