import ScyllaDriver.Interleaving
import ScyllaDriver.Waiting
import ScyllaDriver.StateLock
import ScyllaDriver.Batcher
import ScyllaDriver.BatcherDelivery
import ScyllaDriver.Callbacks
import ScyllaDriver.Waker
import ScyllaDriver.DriverFuture
import ScyllaDriver.DriverMoves
import ScyllaDriver.DriverLocking
import ScyllaDriver.DriverOutcome
import ScyllaDriver.DriverWriteOnce
import ScyllaDriver.DriverCallbacks
import ScyllaDriver.DriverFiring
import ScyllaDriver.DriverWaker
import ScyllaDriver.DriverAwaiters
import ScyllaDriver.DriverSolo
import ScyllaDriver.DriverWaiters
import ScyllaDriver.ResponseFuture
import ScyllaDriver.ResponseMoves
import ScyllaDriver.ResponseWaiters
import ScyllaDriver.ResponseDrainer
import ScyllaDriver.ResponseTending
import ScyllaDriver.ResponseRows
import ScyllaDriver.ResponseIdentities
import ScyllaDriver.ResponseDelivery
import ScyllaDriver.ResponseRegistry
import ScyllaDriver.ResponseLate
import ScyllaDriver.ResponsePages
import ScyllaDriver.Paging
import ScyllaDriver.PageSequence
import ScyllaDriver.Reads
import ScyllaDriver.ReadAnswers
import ScyllaDriver.ResultSet
import ScyllaDriver.ResultSetReads
import ScyllaDriver.ReadAgreement
import ScyllaDriver.ResultSetRetries
import ScyllaDriver.LockedCalls
import ScyllaDriver.LockedTurns
import ScyllaDriver.LockedOutcomes
import ScyllaDriver.AnextCalls
import ScyllaDriver.RowsIterator
import ScyllaDriver.PagesIterator
import ScyllaDriver.AnextSharing
import ScyllaDriver.ResponseRelease
import ScyllaDriver.DriverShutdown
import ScyllaDriver.DriverPanics
import ScyllaDriver.UserCode
import ScyllaDriver.Framing
import ScyllaDriver.CqlTypes
import ScyllaDriver.NativeValues
import ScyllaDriver.PyContainers
import ScyllaDriver.Serialize
import ScyllaDriver.Deserialize
import ScyllaDriver.ValueParts
import ScyllaDriver.WireRuntime
import ScyllaDriver.RoundTrip
import ScyllaDriver.ReadValues
import ScyllaDriver.WriteBack
import ScyllaDriver.ServerCells
import ScyllaDriver.ValueLists
import ScyllaDriver.BoundValues
import ScyllaDriver.TwoPhaseCache
import ScyllaDriver.BatcherRegistry
import ScyllaDriver.RegistryEviction
import ScyllaDriver.LoopLifetime
import ScyllaDriver.TlsContext
import ScyllaDriver.SessionConfig
import ScyllaDriver.SessionBuilder
import ScyllaDriver.StatementOptions
import ScyllaDriver.LegacySession
import ScyllaDriver.LegacyPrecedence
import ScyllaDriver.GuardedTask
import ScyllaDriver.TieBreaking
import ScyllaDriver.FieldNames
import ScyllaDriver.NamedtupleCache
import ScyllaDriver.RelativeDurations
import ScyllaDriver.PartitionKeys
import ScyllaDriver.TargetPlans
import ScyllaDriver.TlsSnapshots
import ScyllaDriver.DriverCancelled
import ScyllaDriver.ResponseReaders
import ScyllaDriver.ColumnGetters
import ScyllaDriver.ResultSetOperations
import ScyllaDriver.ResultSetIterated
import ScyllaDriver.ResultSetLists
import ScyllaDriver.FailurePaths
import ScyllaDriver.RowDeserializer
import ScyllaDriver.ErrorPlaces
import ScyllaDriver.RowBuilders
import ScyllaDriver.Reentrancy
import ScyllaDriver.ReentrantSerialize
import ScyllaDriver.WrittenCounts
import ScyllaDriver.Fallible
import ScyllaDriver.ColumnTypeDescriptors
import ScyllaDriver.DescriptorRoundTrip
import ScyllaDriver.References
import ScyllaDriver.MutualExclusion
import ScyllaDriver.ClusterSnapshots
import ScyllaDriver.AddressedCaches
import ScyllaDriver.FirstFailures
import ScyllaDriver.TraceFetching
import ScyllaDriver.ParameterErrors
import ScyllaDriver.DelegatedPlans
import ScyllaDriver.StatementObjects
import ScyllaDriver.RetrySessions
import ScyllaDriver.LegacyDefaultGetters
import ScyllaDriver.OnceCells
import ScyllaDriver.QueryTraces
import ScyllaDriver.RequestErrors
import ScyllaDriver.AddressTranslation
import ScyllaDriver.SchemaViews
import ScyllaDriver.ClusterViews
import ScyllaDriver.DecimalText
import ScyllaDriver.TemporalValues
