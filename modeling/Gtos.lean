import Gtos.Common.Types
import Gtos.Lib.LevelSchedule
import Gtos.Parallel.AccessSet
import Gtos.Parallel.Dag
import Gtos.Lib.Bitmap
import Gtos.Lib.Quorum
import Gtos.Lib.KeyMap
import Gtos.Types.Checkpoint
import Gtos.Dpos.FinalityPool
import Gtos.Dpos.CheckpointQC
import Gtos.Dpos.CheckpointAssemble
import Gtos.Dpos.Finality
import Gtos.Dpos.CheckpointVote
import Gtos.Dpos.CheckpointExtra
import Gtos.Lib.Bytes
import Gtos.Types.CheckpointEvidence
import Gtos.SlashIndicator.Registry
import Gtos.SlashIndicator.Execute
import Gtos.Lib.WriteLoop
import Gtos.Core.Types
import Gtos.Core.StateDB
import Gtos.Core.StateTransition
import Gtos.Parallel.Analyze
import Gtos.Parallel.WriteBuf
import Gtos.Parallel.Executor
import Gtos.Core.TxPool
import Gtos.Core.StateProcessor
import Gtos.Miner.Select
import Gtos.Miner.Worker
import Gtos.Lib.ExceptState
import Gtos.Common.Hex
import Gtos.Sysaction.Types
import Gtos.Sysaction.Execute
import Gtos.Delegation.Handler
import Gtos.AccountSigner.Crypto
import Gtos.AccountSigner.SignatureMeta
import Gtos.AccountSigner.State
import Gtos.AccountSigner.Handler
import Gtos.Core.SignerTx
import Gtos.Core.AccountSignerSender
import Gtos.Dpos.EpochExtra
import Gtos.Lib.Ranking
import Gtos.Lib.ListSum
import Gtos.Validator.State
import Gtos.Validator.Handler
import Gtos.Validator.Storage
import Gtos.Validator.Invariant
import Gtos.Lib.ParentMap
import Gtos.Referral.State
import Gtos.Referral.Handler
import Gtos.Referral.Forest
import Gtos.PolicyWallet.State
import Gtos.PolicyWallet.Handler
import Gtos.PolicyWallet.Storage
import Gtos.PolicyWallet.Ownership
import Gtos.PolicyWallet.Sponsor
import Gtos.Lib.Loop
import Gtos.Lease.State
import Gtos.Lease.Prune
import Gtos.Lease.Handler
import Gtos.Lease.Storage
import Gtos.Lease.Solvency
import Gtos.Lease.Queue
import Gtos.Lib.Tally
import Gtos.Capability.State
import Gtos.Registry.State
import Gtos.Capability.Handler
import Gtos.Registry.Handler
import Gtos.Capability.Storage
import Gtos.Capability.Invariant
import Gtos.Registry.Records
import Gtos.Lib.Framing
import Gtos.Lvm.Storage
import Gtos.Lvm.Time
import Gtos.Settlement.Callback
import Gtos.Reputation.Hub
import Gtos.Referral.Counters
import Gtos.Lib.InsertionOrder
import Gtos.Common.IndexMap
import Gtos.Agent.State
import Gtos.Agent.Handler
import Gtos.Agent.Storage
import Gtos.Agent.Ledger
import Gtos.Lib.CharClass
import Gtos.Lib.Simulation
import Gtos.Sysaction.Run
import Gtos.Tns.State
import Gtos.Tns.Name
import Gtos.Tns.Handler
import Gtos.Tns.Registry
import Gtos.Gateway.State
import Gtos.Gateway.Handler
import Gtos.Gateway.Storage
import Gtos.Gateway.Registry
import Gtos.Gateway.Refinement
import Gtos.Gateway.Api
import Gtos.Task.Handler
import Gtos.Task.Invariant
import Gtos.Task.Quota
import Gtos.Task.Reentry
