import ReisOs.Core.Dict
import ReisOs.Core.Identifiers
import ReisOs.Core.Counting
import ReisOs.Core.Checks
import ReisOs.Core.Runs
import ReisOs.Core.Fallible
import ReisOs.Kernel.Contracts
import ReisOs.Kernel.Governance
import ReisOs.Kernel.Identity
import ReisOs.Kernel.IdentityLog
import ReisOs.Kernel.AuditFile
import ReisOs.Kernel.Reopening
import ReisOs.Kernel.GuardCoherence
import ReisOs.Kernel.StickyHold
import ReisOs.Kernel.HazelContinuity
import ReisOs.Kernel.HoldRace
import ReisOs.Kernel.StateTrace
import ReisOs.Kernel.StateLaws
import ReisOs.Kernel.StateChain
import ReisOs.Kernel.StateEffects
import ReisOs.Kernel.DurableReload
import ReisOs.Kernel.EffectHonesty
import ReisOs.Kernel.CrossOcs
import ReisOs.Kernel.RestartSafety
import ReisOs.Kernel.EffectRecovery
import ReisOs.Kernel.Runtime
import ReisOs.Kernel.Leases
import ReisOs.Kernel.Grants
import ReisOs.Kernel.Settlement
import ReisOs.Kernel.Retry
import ReisOs.Kernel.MaterialBoundary
import ReisOs.Kernel.Metering
import ReisOs.Kernel.Replay
import ReisOs.Kernel.Calls
import ReisOs.Kernel.Progress
import ReisOs.Kernel.Agreement
import ReisOs.Kernel.LeaseLedger
import ReisOs.Kernel.StageOrder
import ReisOs.Instances.JournalFidelity
import ReisOs.Instances.Binder
import ReisOs.Instances.Recovery
import ReisOs.Core.Interleaving
import ReisOs.Instances.Lineages
import ReisOs.Instances.LineageSafety
import ReisOs.Instances.ServiceSafety
import ReisOs.Instances.Calls
import ReisOs.Instances.Uniqueness
import ReisOs.Instances.Histories
import ReisOs.Instances.Outcomes
import ReisOs.Instances.PrepareReplay
import ReisOs.Instances.LeaseStore
import ReisOs.Instances.CheckpointLease
import ReisOs.Instances.BridgeRetry
import ReisOs.Trial.Store
import ReisOs.Trial.WriteFencing
import ReisOs.Trial.Issued
import ReisOs.Trial.Recovery
import ReisOs.Trial2.Store
import ReisOs.Trial2.Changes
import ReisOs.Trial2.Wiring
import ReisOs.Trial2.EpochFencing
import ReisOs.Trial2.LiveGeneration
import ReisOs.Trial2.ConcurrentHandoff
import ReisOs.Trial2.EffectsOnce
import ReisOs.Core.Keyset
import ReisOs.GovernanceRefactor.Contracts
import ReisOs.GovernanceRefactor.ScopedStore
import ReisOs.GovernanceRefactor.Correspondence
import ReisOs.GovernanceRefactor.Projections
import ReisOs.GovernanceRefactor.TenantIsolation
import ReisOs.Command.InstanceViews
import ReisOs.Command.Pagination
import ReisOs.CognitivePhysiology.Runtime
import ReisOs.CognitivePhysiology.Generations
import ReisOs.CognitivePhysiology.Engine
import ReisOs.CognitivePhysiology.FailedCycles
import ReisOs.CognitiveValidation.OperationalLearning
import ReisOs.Command.Events
import ReisOs.Command.EventStore
import ReisOs.Command.Sequencing
import ReisOs.Command.Projections
import ReisOs.Command.Provenance
import ReisOs.Command.GuardIsolation
import ReisOs.Command.HazelAdapter
import ReisOs.Command.LostAcknowledgement
import ReisOs.Command.HazelReplay
import ReisOs.Instances.WellFormed
import ReisOs.Instances.Framing
import ReisOs.Instances.ForeignCalls
import ReisOs.Core.OffsetFeed
import ReisOs.Command.InstanceFeed
import ReisOs.Command.FeedCompleteness
import ReisOs.Instances.RegistryStates
import ReisOs.Command.ViewLocality
import ReisOs.Command.RecoveryStability
import ReisOs.Command.ViewIsolation
import ReisOs.Core.AsciiText
import ReisOs.RecursiveRuntime.Journal
import ReisOs.RecursiveRuntime.JournalContract
import ReisOs.Core.LinkedPools
import ReisOs.RecursiveRuntime.Contracts
import ReisOs.RecursiveRuntime.StateRepository
import ReisOs.RecursiveRuntime.ProductionEffects
import ReisOs.RecursiveRuntime.SingleEffects
import ReisOs.RecursiveRuntime.LeaseLimits
import ReisOs.RecursiveRuntime.Cancellation
import ReisOs.RecursiveRuntime.Recovery
import ReisOs.RecursiveRuntime.RecoveryCases
import ReisOs.RecursiveRuntime.Spawning
import ReisOs.Core.Endings
import ReisOs.RecursiveRuntime.SpawnExactness
import ReisOs.RecursiveRuntime.RuntimeRuns
import ReisOs.RecursiveRuntime.CallEffects
import ReisOs.Core.Families
import ReisOs.RecursiveRuntime.Attenuation
import ReisOs.Core.Worklists
import ReisOs.RecursiveRuntime.ActorForest
import ReisOs.RecursiveRuntime.SubtreeCancellation
import ReisOs.Core.Precedence
import ReisOs.RecursiveRuntime.Reflection
import ReisOs.Core.Decimals
import ReisOs.TradingRuntime.Economics
import ReisOs.TradingRuntime.BudgetSafety
import ReisOs.RecursiveRuntime.HostReconciliation
import ReisOs.RecursiveRuntime.ContinuousExecutor
import ReisOs.RecursiveRuntime.ExecutorRecovery
import ReisOs.RecursiveRuntime.ExecutorFencing
import ReisOs.Core.Links
import ReisOs.CognitiveValidation.InstitutionalState
import ReisOs.CognitiveValidation.StateChains
import ReisOs.Core.AuditedRows
import ReisOs.WorkItems.Requests
import ReisOs.WorkItems.Projects
import ReisOs.WorkItems.AuditChains
import ReisOs.WorkItems.Completion
import ReisOs.Core.Ancestry
import ReisOs.RecursiveRuntime.Mesh
import ReisOs.RecursiveRuntime.MeshRestart
import ReisOs.Kernel.WriteAtomicity
import ReisOs.Instances.Maturity
import ReisOs.Kernel.Authorization
import ReisOs.Kernel.AssuranceReceipts
import ReisOs.Kernel.HandoffAuthenticity
import ReisOs.Trial.BudgetExhaustion
import ReisOs.Trial.NamespaceIsolation
import ReisOs.GovernanceRefactor.RecordReads
import ReisOs.GovernanceRefactor.CursorPaging
import ReisOs.GovernanceRefactor.RecordRoundTrip
import ReisOs.Command.GivenPayloads
import ReisOs.Command.EventRoundTrip
import ReisOs.Kernel.RecoveryReceipts
import ReisOs.DistributedRuntime.Longitudinal
import ReisOs.DistributedRuntime.RestartAccounting
import ReisOs.Core.CutTexts
import ReisOs.CognitiveValidation.Plasticity
import ReisOs.CognitiveValidation.LongitudinalLearning
import ReisOs.CognitiveValidation.LearningLoop
import ReisOs.CognitiveValidation.AuthorityReceipts
import ReisOs.RecursiveRuntime.TornTail
import ReisOs.RecursiveRuntime.EvolutionTrial
import ReisOs.Core.BoundedPaths
import ReisOs.TradingRuntime.PaperTrading
import ReisOs.Ocs.AndroidPlay
import ReisOs.Ocs.RestoreFidelity
import ReisOs.RecursiveRuntime.AuthorityGateway
import ReisOs.Command.SecretNoninterference
import ReisOs.Core.SortedKeys
import ReisOs.Core.ServerSentEvents
import ReisOs.Command.EventFraming
