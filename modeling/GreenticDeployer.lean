import GreenticDeployer.Lib.Runs
import GreenticDeployer.Lib.Located
import GreenticDeployer.Lib.Words
import GreenticDeployer.Lib.Programs
import GreenticDeployer.Lib.Crash
import GreenticDeployer.Lib.Results
import GreenticDeployer.Spec.Documents
import GreenticDeployer.Spec.DefaultBundle
import GreenticDeployer.Spec.Validate
import GreenticDeployer.Spec.Remote
import GreenticDeployer.Engine.InlineStash
import GreenticDeployer.Engine.Environments
import GreenticDeployer.Engine.Revisions
import GreenticDeployer.Engine.Traffic
import GreenticDeployer.Engine.Bundles
import GreenticDeployer.Engine.Messaging
import GreenticDeployer.Engine.Bindings
import GreenticDeployer.Engine.Lifecycle
import GreenticDeployer.Engine.Verbs
import GreenticDeployer.Engine.Edits
import GreenticDeployer.Engine.Routing
import GreenticDeployer.Engine.Uniqueness
import GreenticDeployer.Engine.Frames
import GreenticDeployer.Engine.Accounts
import GreenticDeployer.Engine.Sequences
import GreenticDeployer.Engine.Retirement
import GreenticDeployer.Engine.Unrouted
import GreenticDeployer.Engine.BindingRuns
import GreenticDeployer.Engine.Stamps
import GreenticDeployer.Trust.TrustRoot
import GreenticDeployer.Trust.RevenuePolicy
import GreenticDeployer.Trust.KeyAgreement
import GreenticDeployer.Store.Tables
import GreenticDeployer.Store.Journal
import GreenticDeployer.Store.Sqlite
import GreenticDeployer.Store.Calls
import GreenticDeployer.Store.Effects
import GreenticDeployer.Store.PlainJson
import GreenticDeployer.Store.Ledger
import GreenticDeployer.Store.Watermark
import GreenticDeployer.Store.AuditReplay
import GreenticDeployer.Store.Sidecars
import GreenticDeployer.Store.TrustRoots
import GreenticDeployer.Store.Imports
import GreenticDeployer.Store.AuditEvents
import GreenticDeployer.Server.Rbac
import GreenticDeployer.Server.Envelope
import GreenticDeployer.Server.Gate
import GreenticDeployer.Server.Handlers
import GreenticDeployer.Server.SidecarHandlers
import GreenticDeployer.Server.Routes
import GreenticDeployer.Server.HandlerCalls
import GreenticDeployer.Server.Protocol
import GreenticDeployer.Server.Conformance
import GreenticDeployer.Server.System
import GreenticDeployer.Server.Updates
import GreenticDeployer.Server.Idempotency
import GreenticDeployer.Server.Retention
import GreenticDeployer.Server.Restores
import GreenticDeployer.Server.Recovery
import GreenticDeployer.Server.Policies
import GreenticDeployer.Server.TrustRoots
import GreenticDeployer.Server.TrustRootRuns
import GreenticDeployer.Server.TrustRootRaces
import GreenticDeployer.Server.Revocation
import GreenticDeployer.Server.Confinement
import GreenticDeployer.Host.Transaction
import GreenticDeployer.Host.Recovery
import GreenticDeployer.Host.CrashSafety
import GreenticDeployer.Apply.Ownership
import GreenticDeployer.Apply.Prune
import GreenticDeployer.Apply.Isolation
import GreenticDeployer.Retire.Sequence
import GreenticDeployer.Retire.Interrupts
import GreenticDeployer.Local.FileLock
import GreenticDeployer.Trust.PolicyPaths
import GreenticDeployer.Local.PolicyFiles
import GreenticDeployer.Local.RuntimeConfig
import GreenticDeployer.Local.Projections
import GreenticDeployer.Local.Refreshes
import GreenticDeployer.Local.VerbEnds
import GreenticDeployer.Local.InStep
import GreenticDeployer.Local.Retries
import GreenticDeployer.CloudRun.Service
import GreenticDeployer.CloudRun.RedisSecret
import GreenticDeployer.CloudRun.Archive
import GreenticDeployer.Ssh.Warm
import GreenticDeployer.Ssh.Steps
import GreenticDeployer.Ssh.Guarantees
import GreenticDeployer.Ssh.StoreArchive
import GreenticDeployer.Ssh.Leaks
import GreenticDeployer.Sor.Units
import GreenticDeployer.Sor.Cluster
import GreenticDeployer.Sor.Reconcile
import GreenticDeployer.Sor.Ledger
import GreenticDeployer.Sor.Steps
import GreenticDeployer.Sor.Phases
import GreenticDeployer.Sor.Deploys
import GreenticDeployer.Sor.Coverage
import GreenticDeployer.Sor.Runs
import GreenticDeployer.Updates.Staging
import GreenticDeployer.Updates.Channels
import GreenticDeployer.Bundle.Contents
import GreenticDeployer.Bundle.Materialize
import GreenticDeployer.Bundle.LastGood
import GreenticDeployer.Store.Postgres
import GreenticDeployer.Lib.RowTransactions
import GreenticDeployer.Lib.SerialRuns
import GreenticDeployer.Store.PostgresCalls
import GreenticDeployer.Store.PostgresRuns
import GreenticDeployer.Store.PostgresLoads
import GreenticDeployer.Store.PostgresTables
import GreenticDeployer.Engine.Departed
import GreenticDeployer.K8s.Router
import GreenticDeployer.K8s.Drains
import GreenticDeployer.K8s.Pushes
import GreenticDeployer.Server.IfMatch
import GreenticDeployer.Credentials.StorePaths
import GreenticDeployer.Credentials.Flows
import GreenticDeployer.Credentials.Seeds
import GreenticDeployer.Apply.SplitReuse
import GreenticDeployer.Updates.Serving
import GreenticDeployer.Updates.Receipts
import GreenticDeployer.Updates.Views
import GreenticDeployer.Updates.Transfer
import GreenticDeployer.K8s.Orphans
import GreenticDeployer.CloudRun.SorOwners
import GreenticDeployer.Store.Preconditions
import GreenticDeployer.Server.Replies
import GreenticDeployer.Server.ReportedRevision
import GreenticDeployer.Server.AuditTrail
import GreenticDeployer.Server.Alone
import GreenticDeployer.Remote.EtagChain
import GreenticDeployer.Aws.ListenerWeights
import GreenticDeployer.Apply.Weights
import GreenticDeployer.CloudRun.RetireDrain
import GreenticDeployer.Spec.Valid
import GreenticDeployer.Local.Seed
import GreenticDeployer.Local.Destroy
import GreenticDeployer.Local.KeyedDeploys
import GreenticDeployer.Lib.Filling
import GreenticDeployer.Local.MigrateDev
import GreenticDeployer.K8s.RefusedDrain
import GreenticDeployer.Lib.LinkedTree
import GreenticDeployer.Bundle.Staging
import GreenticDeployer.Bundle.PackLists
import GreenticDeployer.Bundle.PlainTrees
import GreenticDeployer.Lib.Framed
import GreenticDeployer.CloudRun.Answers
import GreenticDeployer.CloudRun.Intent
import GreenticDeployer.Engine.PersistRule
import GreenticDeployer.Engine.RetireSets
import GreenticDeployer.Engine.StorableArchives
import GreenticDeployer.Lib.KeySort
import GreenticDeployer.Lib.MaxBy
import GreenticDeployer.Engine.EntriesMatch
import GreenticDeployer.Engine.SplitWrites
import GreenticDeployer.Engine.SplitRetry
import GreenticDeployer.Engine.SplitHistory
import GreenticDeployer.Engine.BindingHistory
import GreenticDeployer.Lib.ShellWords
import GreenticDeployer.Lib.Json
import GreenticDeployer.Lib.JsonReader
import GreenticDeployer.Spec.CanonicalJson
import GreenticDeployer.Engine.InlineCodec
import GreenticDeployer.Ssh.RemoteCommand
