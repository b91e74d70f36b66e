import Tenjin.DatabaseWorkers.ExactlyOnce
import Tenjin.DatabaseWorkers.CounterFlush
import Tenjin.ResourceServer.DuplicateSuppression
import Tenjin.AuthServer.TokenFamily
import Tenjin.AuthServer.Jwks
import Tenjin.ResourceServer.VoteScore
import Tenjin.DatabaseWorkers.CounterPipeline
import Tenjin.DatabaseWorkers.Deduplication
import Tenjin.DatabaseWorkers.Acknowledgement
import Tenjin.ResourceAuxillary.DeadLetterRuns
import Tenjin.ResourceAuxillary.RetryExecutors
import Tenjin.ResourceAuxillary.DeadLetterFallback
import Tenjin.ResourceServer.PostPages
import Tenjin.ResourceServer.PaginationKeys
import Tenjin.ResourceServer.PageRequests
import Tenjin.ResourceServer.Results
import Tenjin.ResourceServer.CacheReads
import Tenjin.ResourceServer.SingleFlight
import Tenjin.ResourceServer.PageWays
import Tenjin.Foundation.Effects
import Tenjin.AuthServer.KeyTable
import Tenjin.AuthServer.TokenManager
import Tenjin.AuthServer.PollingTask
import Tenjin.AuthServer.KeyEndpoints
import Tenjin.AuthServer.KeyRollback
import Tenjin.AuthServer.KeyRotation
import Tenjin.AuthServer.Bootup
import Tenjin.AuthServer.AdminAccounts
import Tenjin.AuthServer.AdminActions
import Tenjin.AuthServer.AdminSessions
import Tenjin.ResourceServer.PageExpiry
import Tenjin.ResourceServer.CacheKeys
import Tenjin.AuthServer.KeyRefinement
import Tenjin.ResourceServer.ForumAdmins
import Tenjin.ResourceServer.ContributionTallies
import Tenjin.ResourceServer.RoleLookups
import Tenjin.DatabaseWorkers.Downstream
import Tenjin.DatabaseWorkers.CascadeDecrements
import Tenjin.DatabaseWorkers.DecrementConsumer
import Tenjin.DatabaseWorkers.RetryChain
import Tenjin.ResourceAuxillary.EventCodec
import Tenjin.DatabaseWorkers.StreamReader
import Tenjin.DatabaseWorkers.CascadeDeletion
import Tenjin.ResourceServer.KeyManager
import Tenjin.ResourceServer.JwksUpdate
import Tenjin.Foundation.Bisection
import Tenjin.Foundation.Retry
import Tenjin.DatabaseWorkers.IsolatedInsertion
import Tenjin.DatabaseWorkers.ReportedIds
import Tenjin.ResourceServer.IntentLifecycle
import Tenjin.ResourceServer.PasswordRecovery
import Tenjin.ResourceServer.ToggleReads
import Tenjin.Foundation.Leases
import Tenjin.ResourceServer.LockRelease
import Tenjin.EmailWorker.Outgoing
import Tenjin.EmailWorker.Dispatcher
import Tenjin.DatabaseWorkers.StreamDispatch
import Tenjin.ResourceServer.RepositoryReads
import Tenjin.ResourceServer.DeletedResources
import Tenjin.DatabaseWorkers.DeletionRetries
import Tenjin.Foundation.Generator
import Tenjin.Foundation.Extremes
import Tenjin.DatabaseWorkers.Reclamation
import Tenjin.Foundation.Loop
import Tenjin.ResourceAuxillary.QueueBatches
import Tenjin.ResourceServer.IntentReads
import Tenjin.Foundation.Assoc
import Tenjin.ResourceServer.ResultCodec
import Tenjin.DatabaseWorkers.DeadCounters
import Tenjin.DatabaseWorkers.DlqRecords
import Tenjin.AuthServer.TokenWindow
import Tenjin.EmailWorker.SentEvents
import Tenjin.EmailWorker.PayloadCleaning
import Tenjin.EmailWorker.ErrorWindows
import Tenjin.ResourceServer.FollowerWaits
import Tenjin.DatabaseWorkers.TaskShutdown
import Tenjin.Foundation.Cycle
import Tenjin.DatabaseWorkers.CounterSchedule
import Tenjin.Foundation.Grouping
import Tenjin.ResourceServer.PostEdits
import Tenjin.ResourceServer.AnimeLists
import Tenjin.DatabaseWorkers.RetryNames
import Tenjin.Python.Equality
import Tenjin.ResourceAuxillary.PreProcessing
import Tenjin.Foundation.Savepoints
import Tenjin.ResourceServer.GenesisTables
import Tenjin.ResourceServer.Genesis
import Tenjin.ResourceServer.GenesisRuns
import Tenjin.Foundation.Projection
import Tenjin.ResourceServer.RedisKeys
import Tenjin.ResourceServer.GuardedKeyspace
import Tenjin.DatabaseWorkers.ReclaimRaces
import Tenjin.AuthServer.KeyCluster
import Tenjin.AuthServer.KeyClusterRuns
import Tenjin.Auxillary.Singleton
import Tenjin.ResourceServer.KeyServers
import Tenjin.AuthServer.TokenStore
import Tenjin.AuthServer.AdminApi
import Tenjin.AuthServer.PemFiles
import Tenjin.DatabaseWorkers.WorkerSpawning
import Tenjin.Services.SigningKeys
import Tenjin.ResourceServer.PageParameters
import Tenjin.ResourceServer.FetchedIndicators
