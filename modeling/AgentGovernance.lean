import AgentGovernance.Lib.Lines
import AgentGovernance.Lib.TextCodec
import AgentGovernance.Lib.BufWriter
import AgentGovernance.Lib.CriticalSection
import AgentGovernance.Lib.Hex
import AgentGovernance.Lib.Base64
import AgentGovernance.Lib.PrefixCode
import AgentGovernance.Lib.JsonText
import AgentGovernance.Lib.Rfc3339
import AgentGovernance.Lib.Runs
import AgentGovernance.Lib.LinkedLog
import AgentGovernance.Lib.Separated
import AgentGovernance.Lib.Broadcast
import AgentGovernance.Lib.Selection
import AgentGovernance.Lib.Protobuf
import AgentGovernance.Lib.Directory
import AgentGovernance.Lib.PrettyJson
import AgentGovernance.Lib.LastMatch
import AgentGovernance.Lib.FileSystem
import AgentGovernance.Lib.SpacingLimiter
import AgentGovernance.Lib.AtomicReplace
import AgentGovernance.Lib.UtcTime
import AgentGovernance.Lib.ParentForest
import AgentGovernance.Lib.Unwinding
import AgentGovernance.Compliance.ActionLog
import AgentGovernance.Compliance.ActionLogJson
import AgentGovernance.Compliance.HashChain
import AgentGovernance.Compliance.LogRuns
import AgentGovernance.Compliance.Crash
import AgentGovernance.Compliance.Rules
import AgentGovernance.Compliance.History
import AgentGovernance.Compliance.Tampering
import AgentGovernance.Compliance.AppendFailure
import AgentGovernance.Discovery.Manager
import AgentGovernance.Discovery.EventJson
import AgentGovernance.Discovery.ShadowAlerts
import AgentGovernance.Mesh.Basic
import AgentGovernance.Mesh.AgentId
import AgentGovernance.Mesh.Attestation
import AgentGovernance.Mesh.Registry
import AgentGovernance.Mesh.Escalation
import AgentGovernance.Mesh.Audit
import AgentGovernance.Mesh.HttpAdapters
import AgentGovernance.Mesh.RegistryFile
import AgentGovernance.Mesh.RegistryJson
import AgentGovernance.Mesh.RegistryCrash
import AgentGovernance.Mesh.RegistryRace
import AgentGovernance.Mesh.Credentials
import AgentGovernance.Mesh.KeyRotation
import AgentGovernance.Mesh.FileKeyStore
import AgentGovernance.Mesh.KeyFileTampering
import AgentGovernance.Mesh.AgentDid
import AgentGovernance.Mesh.KeyFilePanic
import AgentGovernance.Mesh.KeyCrash
import AgentGovernance.Mesh.Namespace
import AgentGovernance.Mesh.WebSocketTransport
import AgentGovernance.Mesh.CanCommunicate
import AgentGovernance.Mesh.Risk
import AgentGovernance.Mesh.Staleness
import AgentGovernance.Mesh.SharedKeyStores
import AgentGovernance.McpGovernance.Store
import AgentGovernance.McpGovernance.Enforcer
import AgentGovernance.McpGovernance.FilePolicyStore
import AgentGovernance.McpGovernance.PolicyRace
import AgentGovernance.McpGovernance.PolicyCrash
import AgentGovernance.Os.MemoryBackend
import AgentGovernance.Os.StatelessKernel
import AgentGovernance.Runtime.EscalationManager
import AgentGovernance.Runtime.EscalationRuns
import AgentGovernance.Runtime.EscalationAudit
import AgentGovernance.Runtime.EscalationRace
import AgentGovernance.Runtime.ApproveReads
import AgentGovernance.Sre.CircuitBreaker
import AgentGovernance.Sre.FailureCount
import AgentGovernance.Sre.DeadService
import AgentGovernance.Daemon.Auth
import AgentGovernance.Daemon.Execute
import AgentGovernance.Daemon.AuditIsolation
import AgentGovernance.Daemon.ExecuteRace
import AgentGovernance.Daemon.Server
import AgentGovernance.Daemon.Http
import AgentGovernance.Daemon.Grpc
import AgentGovernance.Daemon.ParseDid
import AgentGovernance.Daemon.Requests
import AgentGovernance.Daemon.Writes
import AgentGovernance.Daemon.Privilege
import AgentGovernance.Daemon.Gateway
import AgentGovernance.Daemon.GatewayAudit
import AgentGovernance.Daemon.ShadowAgents
import AgentGovernance.Daemon.AlertWorker
import AgentGovernance.Daemon.WatchShadows
import AgentGovernance.Daemon.Axum
import AgentGovernance.Daemon.Router
import AgentGovernance.Daemon.KeySecrecy
import AgentGovernance.Daemon.Registration
import AgentGovernance.Daemon.FreshRegistry
import AgentGovernance.Daemon.Command
import AgentGovernance.Daemon.ProtoWire
import AgentGovernance.Daemon.EscalationCalls
import AgentGovernance.Daemon.EscalationDenial
import AgentGovernance.Daemon.EscalationFiling
import AgentGovernance.Daemon.GatewayTools
import AgentGovernance.Daemon.ApproveCommand
import AgentGovernance.Daemon.ExecuteVerdict
import AgentGovernance.Daemon.GatewayRate
import AgentGovernance.Daemon.RingEscalation
import AgentGovernance.Daemon.ApprovalPayload
import AgentGovernance.Daemon.Convert
import AgentGovernance.Daemon.Records
import AgentGovernance.Daemon.RemotePolicies
import AgentGovernance.Daemon.Replay
import AgentGovernance.Daemon.Process
import AgentGovernance.Daemon.DiscoveryIsolation
import AgentGovernance.Daemon.GatewaySwitch
import AgentGovernance.Daemon.EscalationEffect
import AgentGovernance.Daemon.Sponsors
import AgentGovernance.Daemon.Exchange
import AgentGovernance.Daemon.RemoteDirectory
import AgentGovernance.Daemon.DirectoryAnswers
import AgentGovernance.Daemon.DirectoryRuns
import AgentGovernance.Daemon.GatewayCommand
import AgentGovernance.Daemon.EscalateCommands
import AgentGovernance.Daemon.HttpReach
