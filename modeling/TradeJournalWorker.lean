import TradeJournalWorker.OutboxRuns
import TradeJournalWorker.JobGuarantee
import TradeJournalWorker.BridgeRuns
import TradeJournalWorker.ProvisionRuns
import TradeJournalWorker.EventStream
import TradeJournalWorker.ExcursionTracker
import TradeJournalWorker.LiveSync
import TradeJournalWorker.OutboxDelivery
import TradeJournalWorker.LivePolls
import TradeJournalWorker.ModificationEvents
import TradeJournalWorker.MergedEvents
import TradeJournalWorker.ModificationRuns
import TradeJournalWorker.OutboxRecovery
import TradeJournalWorker.ExcursionStability
import TradeJournalWorker.PlannedIds
import TradeJournalWorker.PollAttempts
import TradeJournalWorker.PollRecovery
import TradeJournalWorker.DealQueue
import TradeJournalWorker.DealOrder
import TradeJournalWorker.DealGuarantee
import TradeJournalWorker.BalanceAgreement
import TradeJournalWorker.SnapshotCycles
import TradeJournalWorker.SnapshotReads
import TradeJournalWorker.EndpointRecords
import TradeJournalWorker.EndpointRegistry
import TradeJournalWorker.EndpointPublication
import TradeJournalWorker.EndpointRollback
import TradeJournalWorker.EndpointStatuses
import TradeJournalWorker.EndpointRuns
import TradeJournalWorker.EndpointGuarantee
import TradeJournalWorker.SlotTrees
import TradeJournalWorker.RenameStore
import TradeJournalWorker.InstancePool
import TradeJournalWorker.PoolSafety
import TradeJournalWorker.PoolThreads
import TradeJournalWorker.PoolGuarantee
import TradeJournalWorker.ExpertRotation
import TradeJournalWorker.RotationRecovery
import TradeJournalWorker.RotationCompletion
import TradeJournalWorker.RotationGuarantee
import TradeJournalWorker.StateTriples
import TradeJournalWorker.SessionProtocol
import TradeJournalWorker.SessionOrchestrator
import TradeJournalWorker.SessionSafety
import TradeJournalWorker.SessionChannels
import TradeJournalWorker.SessionGuarantee
import TradeJournalWorker.SessionAgreement
import TradeJournalWorker.InnocuousLauncher
import TradeJournalWorker.OrphanSafety
import TradeJournalWorker.FrameReading
import TradeJournalWorker.ResponseDelivery
import TradeJournalWorker.AccountOnboarding
import TradeJournalWorker.ActionPrograms
import TradeJournalWorker.WorkerSupervisor
import TradeJournalWorker.SupervisorCalls
import TradeJournalWorker.LauncherWorlds
import TradeJournalWorker.SupervisorSafety
import TradeJournalWorker.WorkerHost
import TradeJournalWorker.HostSystem
import TradeJournalWorker.HostProtocol
import TradeJournalWorker.CallerProtocol
import TradeJournalWorker.HostTurns
import TradeJournalWorker.HostExclusion
import TradeJournalWorker.VerifiedEndpoints
import TradeJournalWorker.OpeningBalance
import TradeJournalWorker.PositionLifecycle
import TradeJournalWorker.ListPrefixes
import TradeJournalWorker.SequenceCursor
import TradeJournalWorker.HostListener
import TradeJournalWorker.VolumeAccounting
import TradeJournalWorker.VolumeReplay
import TradeJournalWorker.VolumeGuarantee
import TradeJournalWorker.JsonValues
import TradeJournalWorker.LabTexts
import TradeJournalWorker.ContractDigests
import TradeJournalWorker.EvidenceModel
import TradeJournalWorker.EvidenceFields
import TradeJournalWorker.CandidatePolicy
import TradeJournalWorker.EvidenceSections
import TradeJournalWorker.EvidenceValidation
import TradeJournalWorker.ControlInvariants
import TradeJournalWorker.EvidenceVerifier
import TradeJournalWorker.VerifierVerdicts
import TradeJournalWorker.VerifiedArtifacts
import TradeJournalWorker.VerifierRemovals
import TradeJournalWorker.VerifierGuarantee
import TradeJournalWorker.RunBinding
import TradeJournalWorker.FlowEvents
import TradeJournalWorker.NetworkSummary
import TradeJournalWorker.EvidenceEdits
import TradeJournalWorker.FlowSetDigests
import TradeJournalWorker.CommissionCosts
import TradeJournalWorker.HistoryDeals
import TradeJournalWorker.HistoryImport
import TradeJournalWorker.SnapshotReplay
import TradeJournalWorker.SnapshotCloses
import TradeJournalWorker.ExecutedOrders
import TradeJournalWorker.FlowLoop
import TradeJournalWorker.FlowTallies
import TradeJournalWorker.FlowCoherence
import TradeJournalWorker.SummaryOrder
import TradeJournalWorker.VerifiedSummaries
import TradeJournalWorker.SecretGuard
import TradeJournalWorker.GuardedPolls
import TradeJournalWorker.EndpointDocuments
import TradeJournalWorker.EndpointWithdrawal
import TradeJournalWorker.EndpointSources
import TradeJournalWorker.EventFiles
import TradeJournalWorker.EventCheckpoint
import TradeJournalWorker.EventOffers
import TradeJournalWorker.ListSlices
import TradeJournalWorker.HistoryGroups
import TradeJournalWorker.EventSender
import TradeJournalWorker.HalfOpenWindows
import TradeJournalWorker.HistoryWindows
import TradeJournalWorker.StableSorting
import TradeJournalWorker.JsonSorting
import TradeJournalWorker.OutboxMigration
import TradeJournalWorker.BrokerRegistry
import TradeJournalWorker.BrokerResolution
import TradeJournalWorker.ResolutionPlans
import TradeJournalWorker.NetworkNames
import TradeJournalWorker.BrokerWizard
import TradeJournalWorker.WizardRuns
import TradeJournalWorker.DictGroups
import TradeJournalWorker.ExceptAgreement
import TradeJournalWorker.MtapiSearch
import TradeJournalWorker.MtapiCandidates
import TradeJournalWorker.MtapiOrder
import TradeJournalWorker.MtapiGuarantee
import TradeJournalWorker.RotationAtomicity
import TradeJournalWorker.SymbolAuthority
import TradeJournalWorker.RunningPeak
import TradeJournalWorker.TrackedPolls
import TradeJournalWorker.PositionWatch
import TradeJournalWorker.TrackerReplay
import TradeJournalWorker.ExcursionViews
import TradeJournalWorker.ExcursionCoverage
import TradeJournalWorker.ExcursionGuarantee
import TradeJournalWorker.FrameCodec
import TradeJournalWorker.CanonicalPayload
import TradeJournalWorker.ArgumentRules
import TradeJournalWorker.CommandLine
import TradeJournalWorker.RegistryDocuments
import TradeJournalWorker.FreshKeys
import TradeJournalWorker.WizardScan
import TradeJournalWorker.JsonText
import TradeJournalWorker.BridgeText
import TradeJournalWorker.BridgeDocuments
import TradeJournalWorker.ExceptFolds
import TradeJournalWorker.ReleaseTrees
import TradeJournalWorker.ReleaseSealing
import TradeJournalWorker.ReleaseBuild
import TradeJournalWorker.ReleaseGuarantee
import TradeJournalWorker.EvidenceAssembler
import TradeJournalWorker.AssemblyRuns
import TradeJournalWorker.AssemblyGuarantee
import TradeJournalWorker.CampaignSoundness
import TradeJournalWorker.ContractBinding
