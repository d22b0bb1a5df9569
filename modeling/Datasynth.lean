import Datasynth.Audit.BuiltinPreconditions
import Datasynth.Audit.BundleRoots
import Datasynth.Audit.Conformance
import Datasynth.Audit.Engine
import Datasynth.Audit.EngineRuns
import Datasynth.Audit.LoadedBlueprints
import Datasynth.Audit.Loader
import Datasynth.Audit.MerkleProofs
import Datasynth.Audit.PhaseGates
import Datasynth.Audit.ProcedureOrder
import Datasynth.Audit.Schema
import Datasynth.Audit.SortedProcedures
import Datasynth.Audit.WorkingPaperMerkle
import Datasynth.Core.BalanceSnapshots
import Datasynth.Core.BusinessDays
import Datasynth.Core.CausalDag
import Datasynth.Core.CausalGraphs
import Datasynth.Core.CausalPropagation
import Datasynth.Core.ConsolidationModels
import Datasynth.Core.Counterfactuals
import Datasynth.Core.CountryPacks
import Datasynth.Core.DeepMerge
import Datasynth.Core.Degradation
import Datasynth.Core.Depreciation
import Datasynth.Core.DocumentLedgers
import Datasynth.Core.EliminationEntries
import Datasynth.Core.FiscalCalendars
import Datasynth.Core.FiscalPeriods
import Datasynth.Core.FixedAssets
import Datasynth.Core.FlowDocuments
import Datasynth.Core.GenerationPeriods
import Datasynth.Core.JournalEntries
import Datasynth.Core.JsonFragments
import Datasynth.Core.LineCountHistograms
import Datasynth.Core.SettlementDates
import Datasynth.Core.TrialBalanceReports
import Datasynth.Core.TrialBalances
import Datasynth.Core.UuidFactory
import Datasynth.Fingerprints.AggregationOrder
import Datasynth.Fingerprints.Archive
import Datasynth.Fingerprints.ArchiveIntegrity
import Datasynth.Fingerprints.ArchiveRoundTrip
import Datasynth.Fingerprints.CategorySuppression
import Datasynth.Fingerprints.EmpiricalCdfs
import Datasynth.Fingerprints.EntityClusters
import Datasynth.Fingerprints.FederatedAggregation
import Datasynth.Fingerprints.IndustryAggregator
import Datasynth.Fingerprints.NamespaceFilter
import Datasynth.Fingerprints.ParetoFrontier
import Datasynth.Fingerprints.PooledHistograms
import Datasynth.Fingerprints.PrivacyAccounting
import Datasynth.Fingerprints.PrivacyBudgets
import Datasynth.Generators.BalanceChanges
import Datasynth.Generators.BalanceSheetChecks
import Datasynth.Generators.BalanceTracker
import Datasynth.Generators.ClearedChains
import Datasynth.Generators.CloseContract
import Datasynth.Generators.CloseRuns
import Datasynth.Generators.ClosedBooks
import Datasynth.Generators.ClosingToOpening
import Datasynth.Generators.Consolidation
import Datasynth.Generators.CurrencyTranslation
import Datasynth.Generators.DebtSchedules
import Datasynth.Generators.DocumentFlow
import Datasynth.Generators.EliminationJournals
import Datasynth.Generators.ExpenseSplits
import Datasynth.Generators.FlowPostings
import Datasynth.Generators.Lettrage
import Datasynth.Generators.MatchSoundness
import Datasynth.Generators.NettingRuns
import Datasynth.Generators.PredecessorChains
import Datasynth.Generators.RejectedEntries
import Datasynth.Generators.TaxProvisions
import Datasynth.Generators.ThreeWayMatch
import Datasynth.Generators.YearEndClose
import Datasynth.Graphs.ArrayExport
import Datasynth.Graphs.CircularFlows
import Datasynth.Graphs.DataSplits
import Datasynth.Graphs.EntityGroups
import Datasynth.Graphs.Models
import Datasynth.Graphs.SplitContract
import Datasynth.Graphs.TemporalSplits
import Datasynth.Graphs.TransactionGraph
import Datasynth.Group.AccountSchedule
import Datasynth.Group.CguImpairment
import Datasynth.Group.Config
import Datasynth.Group.Elimination
import Datasynth.Group.EliminationPosting
import Datasynth.Group.EntityAggregation
import Datasynth.Group.EquityMethod
import Datasynth.Group.EquityMethodAggregation
import Datasynth.Group.FinancialStatements
import Datasynth.Group.FxMaster
import Datasynth.Group.IcMatching
import Datasynth.Group.IcPairing
import Datasynth.Group.IcPlacement
import Datasynth.Group.IcReconciliation
import Datasynth.Group.IcResolution
import Datasynth.Group.ManifestBuilder
import Datasynth.Group.MirrorPlans
import Datasynth.Group.MultiPeriod
import Datasynth.Group.NciAggregation
import Datasynth.Group.NciContinuity
import Datasynth.Group.NciMeasurement
import Datasynth.Group.NetworkFiles
import Datasynth.Group.OwnershipExpansion
import Datasynth.Group.PostElimination
import Datasynth.Group.ShardPlanning
import Datasynth.Group.Translation
import Datasynth.Group.TranslationResidual
import Datasynth.Lib.AmountText
import Datasynth.Lib.BreadthFirst
import Datasynth.Lib.ByteEncoding
import Datasynth.Lib.Charges
import Datasynth.Lib.CivilCalendar
import Datasynth.Lib.CsvFormat
import Datasynth.Lib.CsvLineBreaks
import Datasynth.Lib.DelimitedLines
import Datasynth.Lib.DelimitedRecords
import Datasynth.Lib.DoubleValues
import Datasynth.Lib.EventTraces
import Datasynth.Lib.ExceptRuns
import Datasynth.Lib.FlatForecasts
import Datasynth.Lib.Grouping
import Datasynth.Lib.HalfEvenRounding
import Datasynth.Lib.HashIteration
import Datasynth.Lib.HashedMaximum
import Datasynth.Lib.JsonTexts
import Datasynth.Lib.KeyedUpdates
import Datasynth.Lib.KnotFunctions
import Datasynth.Lib.ListRearrangement
import Datasynth.Lib.MarkedLine
import Datasynth.Lib.MerkleTree
import Datasynth.Lib.MixedHashes
import Datasynth.Lib.OrderedEvaluation
import Datasynth.Lib.PathWrites
import Datasynth.Lib.PrerequisiteRuns
import Datasynth.Lib.PricedStreams
import Datasynth.Lib.ProportionalShares
import Datasynth.Lib.SeededShuffle
import Datasynth.Lib.SignedPostings
import Datasynth.Lib.SortedEntries
import Datasynth.Lib.StepRuns
import Datasynth.Lib.TokenBucket
import Datasynth.Lib.TopologicalOrder
import Datasynth.Lib.VarianceChecks
import Datasynth.Lib.XmlMarkup
import Datasynth.Lib.XmlReader
import Datasynth.Lib.XmlTrees
import Datasynth.Output.CsvRecords
import Datasynth.Output.CsvRoundTrip
import Datasynth.Output.CsvSinks
import Datasynth.Output.FastCsv
import Datasynth.Output.Saft
import Datasynth.Output.SaftContract
import Datasynth.Output.SaftTexts
import Datasynth.Output.StatutoryJournals
import Datasynth.Output.StatutoryReading
import Datasynth.RateLimit.LimitedIterators
import Datasynth.RateLimit.Limiter
import Datasynth.RateLimit.RequestWindows
import Datasynth.Runtime.CarriedBalances
import Datasynth.Runtime.CausalEngine
import Datasynth.Runtime.ConfigMutator
import Datasynth.Runtime.ConfigPaths
import Datasynth.Runtime.ConfigWrites
import Datasynth.Runtime.GenerationSession
import Datasynth.Runtime.InterventionManager
import Datasynth.Runtime.JeNetwork
import Datasynth.Runtime.JeNetworkChains
import Datasynth.Runtime.JeNetworkValue
import Datasynth.Runtime.SessionPeriods
import Datasynth.Runtime.SessionResume
import Datasynth.Streaming.Channel
import Datasynth.Streaming.ChannelClosing
import Datasynth.Streaming.ChannelDelivery
import Datasynth.Streaming.ChannelLedger
import Datasynth.Subledger.AgingBuckets
import Datasynth.Subledger.DepreciationRuns
import Datasynth.Subledger.DepreciationSchedules
import Datasynth.Subledger.Documents
import Datasynth.Subledger.FifoTracker
import Datasynth.Subledger.FixedAssetRecords
import Datasynth.Subledger.ForecastRuns
import Datasynth.Subledger.InvoiceBalances
import Datasynth.Subledger.StockQuantities
import Datasynth.Subledger.StockValue
