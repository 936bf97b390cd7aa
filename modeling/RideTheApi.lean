import RideTheApi.Lib.Transition
import RideTheApi.Lib.JsonTree
import RideTheApi.Lib.JsonGrammar
import RideTheApi.Lib.KeyedTable
import RideTheApi.Lib.Overwrite
import RideTheApi.Lib.Slots
import RideTheApi.Lib.FirstMax
import RideTheApi.Lib.Dict
import RideTheApi.Lib.StableSort
import RideTheApi.Lib.Trim
import RideTheApi.Py.Value
import RideTheApi.Py.Text
import RideTheApi.PatternDb.Schemas
import RideTheApi.Pipeline.Correlation
import RideTheApi.Pipeline.CorrelationSafety
import RideTheApi.Pipeline.KeylessCorrelation
import RideTheApi.Pipeline.PendingSurvival
import RideTheApi.Lib.WeightedMean
import RideTheApi.PatternDb.Rows
import RideTheApi.PatternDb.Validator
import RideTheApi.PatternDb.Import
import RideTheApi.PatternDb.Export
import RideTheApi.PatternDb.Header
import RideTheApi.PatternDb.DeviceModel
import RideTheApi.PatternDb.Exportable
import RideTheApi.PatternDb.FreshImport
import RideTheApi.PatternDb.MergeAgreement
import RideTheApi.PatternDb.RoundTrip
import RideTheApi.Engine.Similarity
import RideTheApi.Lib.Except
import RideTheApi.Engine.Match
import RideTheApi.Buffer.Store
import RideTheApi.Buffer.Switch
import RideTheApi.Pipeline.Flush
import RideTheApi.Pipeline.FlushSafety
import RideTheApi.Lib.Faulty
import RideTheApi.Ingress.Handling
import RideTheApi.Ingress.HandlingSafety
import RideTheApi.Llm.Breaker
import RideTheApi.Llm.Chain
import RideTheApi.Llm.ChainSafety
import RideTheApi.Py.Interp
import RideTheApi.Py.Format
import RideTheApi.Py.JsonText
import RideTheApi.Py.JsonRoundTrip
import RideTheApi.Py.JsonTrim
import RideTheApi.Py.Equal
import RideTheApi.Engine.StateStore
import RideTheApi.Engine.Placeholder
import RideTheApi.Engine.Source
import RideTheApi.Engine.Formula
import RideTheApi.Engine.Response
import RideTheApi.Engine.ResponseSafety
import RideTheApi.Engine.Serve
import RideTheApi.Engine.MemoryAgreement
import RideTheApi.Pipeline.Restart
import RideTheApi.Pipeline.HeaderProtocol
import RideTheApi.Pipeline.HeaderStability
import RideTheApi.Redaction.Redact
import RideTheApi.Redaction.Pairs
import RideTheApi.Redaction.Structural
import RideTheApi.Redaction.FastPath
import RideTheApi.Engine.Observation
import RideTheApi.Engine.Probe
import RideTheApi.Py.Codec
import RideTheApi.Py.JsonBytes
import RideTheApi.Ingress.Presentation
import RideTheApi.Buffer.Ledger
import RideTheApi.Buffer.Sequence
import RideTheApi.Py.Float
import RideTheApi.Resilience.Independence
import RideTheApi.Resilience.Scheduler
import RideTheApi.Resilience.Watchdog
import RideTheApi.Resilience.MatchTracker
import RideTheApi.Resilience.Backup
import RideTheApi.Resilience.CleanWindow
import RideTheApi.Ingress.Counting
import RideTheApi.Engine.StatePersistence
import RideTheApi.Engine.Spelling
import RideTheApi.Lib.ReadThrough
import RideTheApi.Registry.Rows
import RideTheApi.Registry.Caches
import RideTheApi.Registry.Isolation
import RideTheApi.Pipeline.SavePatterns
import RideTheApi.Pipeline.StartupPatterns
import RideTheApi.Pipeline.PatternSync
import RideTheApi.Pipeline.PatternEdits
import RideTheApi.Pipeline.LearnedRows
import RideTheApi.Pipeline.Revision
import RideTheApi.Discovery.QueryLog
import RideTheApi.Discovery.Recorder
import RideTheApi.Discovery.Accounting
import RideTheApi.Config.Secrets
import RideTheApi.Config.Masking
import RideTheApi.Py.IpAddress
import RideTheApi.Py.Quote
import RideTheApi.Forward.Resolver
import RideTheApi.Forward.Resolution
import RideTheApi.Forward.Request
import RideTheApi.Forward.Cloud
import RideTheApi.Forward.Delivery
import RideTheApi.Forward.Contact
import RideTheApi.Lib.Backlog
import RideTheApi.Py.PosixPath
import RideTheApi.Tls.CertificateSafety
import RideTheApi.Tls.Certificates
import RideTheApi.Tls.ClientHello
import RideTheApi.Tls.ClientHelloSafety
import RideTheApi.Tls.HelloExact
import RideTheApi.Tls.LeafNames
import RideTheApi.Tls.Outgoing
import RideTheApi.Tls.OutgoingSafety
import RideTheApi.Tls.PassthroughSafety
import RideTheApi.Security.Routes
import RideTheApi.Security.Access
import RideTheApi.Security.AccessSafety
import RideTheApi.Security.BodyLimit
import RideTheApi.Security.Password
import RideTheApi.Forward.Replay
import RideTheApi.Forward.ReplaySafety
import RideTheApi.Forward.HttpText
import RideTheApi.Tls.Ports
import RideTheApi.Protocols.Manager
import RideTheApi.Traffic.Selector
import RideTheApi.Traffic.SelectorSafety
import RideTheApi.Modification.PathAgreement
import RideTheApi.Modification.Processing
import RideTheApi.Registry.AddressSafety
import RideTheApi.Pipeline.Forgetting
import RideTheApi.Pipeline.MergeConvergence
import RideTheApi.Pipeline.ImportConvergence
import RideTheApi.PatternDb.SeedMerge
import RideTheApi.PatternDb.Capture
import RideTheApi.PatternDb.CrossChecks
import RideTheApi.PatternDb.Ingest
import RideTheApi.Dns.PolicySafety
import RideTheApi.Protocols.Http2Resets
import RideTheApi.Llm.SettingsSafety
import RideTheApi.Adapters.Registry
import RideTheApi.Engine.SetGet
import RideTheApi.Buffer.MemorySessionSafety
import RideTheApi.Storage.AtomicIoSafety
import RideTheApi.Pipeline.FlushCoordinator
import RideTheApi.Storage.JsonFile
import RideTheApi.Forward.RequestSafety
import RideTheApi.Dns.ServerSafety
import RideTheApi.Config.Manager
