import RevitPy.AllParameters
import RevitPy.ApsClient
import RevitPy.AsyncLoading
import RevitPy.AsyncSaving
import RevitPy.AtomicSaving
import RevitPy.BatchAccounting
import RevitPy.BatchOperations
import RevitPy.BatchOrder
import RevitPy.Bcf
import RevitPy.CacheCoherence
import RevitPy.CacheExactness
import RevitPy.CacheIndexes
import RevitPy.CancellationTokens
import RevitPy.ChainSearch
import RevitPy.ChangeViews
import RevitPy.Connections
import RevitPy.ConversionRoundTrip
import RevitPy.Correlation
import RevitPy.CostEstimator
import RevitPy.DefaultConstruction
import RevitPy.DependencyOrder
import RevitPy.DependencyViews
import RevitPy.DispatchAgreement
import RevitPy.DispatchCounts
import RevitPy.ElementChains
import RevitPy.EvaluationPaths
import RevitPy.EventConservation
import RevitPy.ExtensionRuns
import RevitPy.FileReplies
import RevitPy.FilterComparisons
import RevitPy.HandlerOrder
import RevitPy.HandlerTree
import RevitPy.HotReloadTracking
import RevitPy.IfcDiff
import RevitPy.InstallationOrder
import RevitPy.LiveWorkItems
import RevitPy.LockFiles
import RevitPy.LostChanges
import RevitPy.LruRefinement
import RevitPy.MaterialTakeoff
import RevitPy.McpRoundTrip
import RevitPy.McpSchema
import RevitPy.Memoization
import RevitPy.MessageQueues
import RevitPy.NetChanges
import RevitPy.ObjectPool
import RevitPy.OrderIndependence
import RevitPy.PackageFiles
import RevitPy.PackageStore
import RevitPy.Paging
import RevitPy.PersistentQueries
import RevitPy.PipeDelivery
import RevitPy.PluginManager
import RevitPy.PoolPermits
import RevitPy.PoolRentals
import RevitPy.ProgressReporter
import RevitPy.Projection
import RevitPy.PythonProcesses
import RevitPy.QuerySorting
import RevitPy.RegistryFiles
import RevitPy.RelationshipIsolation
import RevitPy.RelationshipReload
import RevitPy.ReloadHistory
import RevitPy.ReloadPropagation
import RevitPy.ResolutionRounds
import RevitPy.ResourceLeaks
import RevitPy.ResultCache
import RevitPy.RetryTransaction
import RevitPy.RetryWrappers
import RevitPy.Rollback
import RevitPy.RpyxFormat
import RevitPy.ScheduleSorting
import RevitPy.SerializationPaths
import RevitPy.ServiceScopes
import RevitPy.SignatureVerdict
import RevitPy.SingleFlight
import RevitPy.SpeckleMerge
import RevitPy.SpeckleSync
import RevitPy.SpeckleTypeMapper
import RevitPy.TaskConservation
import RevitPy.TaskExecution
import RevitPy.Timeouts
import RevitPy.TransactionStatistics
