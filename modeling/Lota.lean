import Lota.Core.Bytes
import Lota.Core.Sha256
import Lota.Core.Rsa
import Lota.Core.Clock
import Lota.Core.Machine
import Lota.Core.LeadsTo
import Lota.Core.Stream
import Lota.Core.Transaction
import Lota.Core.Keyset
import Lota.Core.Text
import Lota.Core.Decimal
import Lota.Core.Cursor
import Lota.Core.BoundedMap
import Lota.Core.Separated
import Lota.Core.OffsetPages
import Lota.Core.SortedSet
import Lota.Core.RefCount
import Lota.Core.Segments
import Lota.Core.PrefixCode
import Lota.Core.OffsetReader
import Lota.Core.Pem
import Lota.Core.Utf8
import Lota.Core.Yaml
import Lota.Core.FixedWindow
import Lota.Core.OpenAddress
import Lota.Core.CrashFs
import Lota.Core.Dialogue
import Lota.Core.Delimited
import Lota.L1Wire.Report
import Lota.L1Wire.ReportC
import Lota.L1Wire.Attest
import Lota.L1Wire.EventLog
import Lota.L1Wire.TcgReplay
import Lota.L1Wire.EventLogExact
import Lota.L2Store.Nonce
import Lota.L2Store.NonceCounts
import Lota.L2Store.UsedNonces
import Lota.L2Store.Baseline
import Lota.L2Store.SqliteBaseline
import Lota.L2Store.Pins
import Lota.L2Store.BaselineRefine
import Lota.L2Store.BaselineStorer
import Lota.L2Store.BaselineRuns
import Lota.L2Store.Revocation
import Lota.L2Store.AuditLog
import Lota.L2Store.Crl
import Lota.L2Store.BanList
import Lota.L2Store.IssuerKey
import Lota.L2Store.FileAik
import Lota.L3Verifier.BootCommitment
import Lota.L3Verifier.SkewScan
import Lota.L3Verifier.Policy
import Lota.L3Verifier.PolicySpelling
import Lota.L3Verifier.Signature
import Lota.L3Verifier.Verify
import Lota.L3Verifier.SessionToken
import Lota.L3Verifier.Pinning
import Lota.L3Verifier.Genuine
import Lota.L3Verifier.Registers
import Lota.L3Verifier.Runs
import Lota.L3Verifier.PinRuns
import Lota.L3Verifier.Mismatch
import Lota.L3Verifier.Budget
import Lota.L3Verifier.RateLimit
import Lota.L3Verifier.Enforcement
import Lota.L3Verifier.LoadPolicy
import Lota.L3Verifier.BanPages
import Lota.L3Verifier.ClientPages
import Lota.L3Verifier.Interleave
import Lota.L3Verifier.InterleavePins
import Lota.L4Sdk.TokenWire
import Lota.L4Sdk.ServerGo
import Lota.L4Sdk.Gaming
import Lota.L4Sdk.IpcToken
import Lota.L4Sdk.TokenBinding
import Lota.L4Sdk.ServerC
import Lota.L4Sdk.SdkAgreement
import Lota.L4Sdk.AttestAgreement
import Lota.L4Sdk.TokenRoundTrip
import Lota.L4Sdk.Heartbeat
import Lota.L4Sdk.Snapshot
import Lota.L4Sdk.AcTick
import Lota.L4Sdk.WineHook
import Lota.L4Sdk.GamingClient
import Lota.L4Sdk.HeartbeatBinding
import Lota.L4Sdk.HeartbeatComplete
import Lota.L4Sdk.HookOffline
import Lota.L4Sdk.RuntimeMeasure
import Lota.L5Enroll.Enroll
import Lota.L5Enroll.EnrollRuns
import Lota.L5Enroll.Wire
import Lota.L5Enroll.WireC
import Lota.L5Enroll.BeginRate
import Lota.L5Enroll.EkBundle
import Lota.L5Enroll.Ceremony
import Lota.L5Enroll.CeremonyRuns
import Lota.L6Agent.AttestOnce
import Lota.L6Agent.BindingNonce
import Lota.L6Agent.SealFormat
import Lota.L6Agent.SealedEnvelope
import Lota.L6Agent.AikAuth
import Lota.L6Agent.AikGeneration
import Lota.L6Agent.ProtectedPids
import Lota.L6Agent.Config
import Lota.L6Agent.FullConfig
import Lota.L6Agent.ConfigDump
import Lota.L6Agent.MemoryHooks
import Lota.L6Agent.ProtectedSet
import Lota.L6Agent.PolicyDigest
import Lota.L6Agent.PidSet
import Lota.L6Agent.TrustedDirs
import Lota.L6Agent.StartupPolicy
import Lota.L6Agent.DeadPid
import Lota.L6Agent.Reload
import Lota.L6Agent.ReloadFlags
import Lota.L6Agent.PolicySign
import Lota.L6Agent.PolicyEmit
import Lota.L6Agent.RuntimeImage
import Lota.L6Agent.MapsText
import Lota.L6Agent.ImageSet
import Lota.L6Agent.GetToken
import Lota.L6Agent.UidRate
import Lota.L6Agent.TokenReply
import Lota.L6Agent.IpcConn
import Lota.L6Agent.IpcInv
import Lota.L6Agent.Pcr14
import Lota.L6Agent.WarmRestart
import Lota.L6Agent.IpcLive
import Lota.L6Agent.StatusTimes
import Lota.L6Agent.IpcNotify
import Lota.L6Agent.ClientMap
import Lota.L6Agent.PinParse
import Lota.L6Agent.Remeasure
import Lota.L6Agent.HookRegister
import Lota.L6Agent.OpenBuffer
import Lota.L6Agent.LsmHooks
import Lota.L6Agent.LsmAudit
import Lota.L6Agent.LsmLock
import Lota.L6Agent.AttestSession
import Lota.L6Agent.SessionRuns
import Lota.L6Agent.PidFile
import Lota.L6Agent.StateFiles
import Lota.L6Agent.SdkSession
