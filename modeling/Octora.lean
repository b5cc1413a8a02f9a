import Octora.Api.AnonymitySet
import Octora.Api.Clients
import Octora.Api.DepositCache
import Octora.Api.Hydration
import Octora.Api.MixerService
import Octora.Api.RateLimit
import Octora.Common.Auth
import Octora.Common.PriorityFee
import Octora.Common.SeedBlob
import Octora.Common.SolanaTx
import Octora.Executor.BinRange
import Octora.Executor.LiquidityParams
import Octora.Executor.SingleSided
import Octora.Executor.SwapSource
import Octora.ExecutorProgram.Acceptance
import Octora.ExecutorProgram.Accounts
import Octora.ExecutorProgram.Clients
import Octora.ExecutorProgram.Instructions
import Octora.ExecutorProgram.Isolation
import Octora.ExecutorProgram.Opening
import Octora.ExecutorProgram.Refinement
import Octora.ExecutorProgram.Registry
import Octora.ExecutorProgram.Rules
import Octora.ExecutorProgram.Runs
import Octora.ExecutorProgram.Settled
import Octora.ExecutorProgram.State
import Octora.ExecutorProgram.Venue
import Octora.ExecutorProgram.Wire
import Octora.Field
import Octora.Library.Balances
import Octora.Library.BigEndian
import Octora.Library.BigIntText
import Octora.Library.Borsh
import Octora.Library.Calls
import Octora.Library.Desk
import Octora.Library.Fallible
import Octora.Library.FirstWins
import Octora.Library.FixedWindow
import Octora.Library.Holders
import Octora.Library.IncrementalTree
import Octora.Library.JsonValue
import Octora.Library.LittleEndian
import Octora.Library.MerkleTree
import Octora.Library.NearestRank
import Octora.Library.Numerals
import Octora.Library.Pratt
import Octora.Library.RingWindow
import Octora.Library.Roster
import Octora.Library.Stateful
import Octora.Mixer.Completeness
import Octora.Mixer.Effects
import Octora.Mixer.History
import Octora.Mixer.Instructions
import Octora.Mixer.Ledger
import Octora.Mixer.Liveness
import Octora.Mixer.Nullifiers
import Octora.Mixer.Payout
import Octora.Mixer.Refinement
import Octora.Mixer.Runs
import Octora.Mixer.Solvency
import Octora.Mixer.State
import Octora.Mixer.Tree
import Octora.Positions.Absorbing
import Octora.Positions.Alerts
import Octora.Positions.Behaviour
import Octora.Positions.Caps
import Octora.Positions.Conduct
import Octora.Positions.Domain
import Octora.Positions.Once
import Octora.Positions.RecoveryWorker
import Octora.Positions.Repository
import Octora.Positions.Runs
import Octora.Positions.Scene
import Octora.Positions.Schedule
import Octora.Positions.Sequential
import Octora.Positions.Service
import Octora.Positions.View
import Octora.Positions.World
import Octora.Relayer.DryRun
import Octora.Relayer.EarlyRoots
import Octora.Relayer.InFlight
import Octora.Relayer.Interleaving
import Octora.Relayer.Joiners
import Octora.Relayer.Landings
import Octora.Relayer.Locks
import Octora.Relayer.Lone
import Octora.Relayer.Outcomes
import Octora.Relayer.Payments
import Octora.Relayer.PrivacyGate
import Octora.Relayer.Progress
import Octora.Relayer.ProofConverter
import Octora.Relayer.Service
import Octora.Relayer.Sharing
import Octora.Vault.Circuit
import Octora.Web.Bytes
import Octora.Web.DerivationMessages
import Octora.Web.ExitAmounts
import Octora.Web.ExitEstimate
import Octora.Web.Lifecycle
import Octora.Web.LocalPositions
import Octora.Web.PositionHistory
import Octora.Web.PositionIndex
import Octora.Web.PrivateFlows
import Octora.Web.Proof
import Octora.Web.StealthVault
