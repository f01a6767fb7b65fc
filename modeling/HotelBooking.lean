import HotelBooking.Effect.Program
import HotelBooking.Effect.Execution
import HotelBooking.Relational.Table
import HotelBooking.Sharding.ShardKey
import HotelBooking.Database.Schema
import HotelBooking.Database.Tables
import HotelBooking.Database.Statements
import HotelBooking.Database.World
import HotelBooking.Database.Writes
import HotelBooking.Sharding.ShardRouter
import HotelBooking.Cache.CacheService
import HotelBooking.Services.Bookings
import HotelBooking.Services.Catalogue
import HotelBooking.Services.Requests
import HotelBooking.Services.Footprint
import HotelBooking.Invariants.Colocation
import HotelBooking.Invariants.DoubleBooking
import HotelBooking.Services.Runs
import HotelBooking.Services.Clients
import HotelBooking.Invariants.SequentialBooking
import HotelBooking.Invariants.Cancelled
import HotelBooking.Relocation.FaultyRuns
import HotelBooking.Relocation.Saga
import HotelBooking.Relocation.SagaRuns
import HotelBooking.Relocation.Atomicity
import HotelBooking.Relocation.Consumption
import HotelBooking.Relocation.Accounts
import HotelBooking.Invariants.ConsumedOnce
import HotelBooking.Services.FanOut
import HotelBooking.Invariants.QueryLocality
import HotelBooking.Effect.Protocol
import HotelBooking.Services.Protocols
import HotelBooking.Invariants.CachedSearch
import HotelBooking.Relational.Partition
import HotelBooking.Ordered.Bisect
import HotelBooking.Sharding.HashRing
import HotelBooking.Sharding.Rebalance
import HotelBooking.Effect.Simulation
import HotelBooking.Topology.Split
import HotelBooking.Topology.Lockstep
import HotelBooking.Cache.CacheProtocol
import HotelBooking.Cache.Generations
import HotelBooking.Cache.FreshSearch
import HotelBooking.Cache.HotelCards
import HotelBooking.Invariants.GuestIntegrity
import HotelBooking.Replication.DbRouter
import HotelBooking.Replication.Routing
import HotelBooking.Effect.Bounded
import HotelBooking.Replication.Availability
import HotelBooking.Replication.StickySessions
import HotelBooking.Replication.CacheFills
import HotelBooking.Effect.Erasure
import HotelBooking.Services.RedisFaults
import HotelBooking.Invariants.RedisAbsorbed
import HotelBooking.Sharding.Balance
import HotelBooking.Effect.Ensures
import HotelBooking.Replication.ConnectionErrors
import HotelBooking.Sharding.PartialFanOut
import HotelBooking.Invariants.SearchKeys
import HotelBooking.Invariants.SearchAndBooking
import HotelBooking.Invariants.CreateAtomic
import HotelBooking.Relocation.Announced
import HotelBooking.Cache.Invalidation
import HotelBooking.Invariants.PricedStays
import HotelBooking.Topology.Mirror
import HotelBooking.Topology.Services
import HotelBooking.Topology.Relocation
import HotelBooking.Topology.Independence
import HotelBooking.Sharding.FnvHash
import HotelBooking.Sharding.BucketMapSpec
import HotelBooking.Sharding.Resharding
import HotelBooking.Invariants.TotalPrice
import HotelBooking.Encoding.Utf8
import HotelBooking.Sessions.PercentDecoding
import HotelBooking.Sessions.RequestContext
import HotelBooking.Invariants.Duplicates
import HotelBooking.Relational.Grouping
import HotelBooking.Sharding.CityAnalytics
import HotelBooking.Invariants.DuplicateRuns
import HotelBooking.Invariants.ContestedKeys
import HotelBooking.Effect.Linearization
import HotelBooking.Replication.StrongLog
import HotelBooking.Effect.Refinement
import HotelBooking.Relational.Calendar
import HotelBooking.Invariants.BookingCalendar
import HotelBooking.Effect.RelyGuarantee
import HotelBooking.Database.Cells
import HotelBooking.Services.Ownership
import HotelBooking.Services.Relocations
import HotelBooking.Invariants.StatusLifecycle
import HotelBooking.Services.RoutedReads
import HotelBooking.Topology.Concurrency
import HotelBooking.Sharding.HotelStats
import HotelBooking.Effect.Accounting
import HotelBooking.Database.StatementErrors
import HotelBooking.Services.ErrorProvenance
import HotelBooking.Effect.CircuitBreaker
import HotelBooking.Services.PrimaryHealth
import HotelBooking.Invariants.FaultIsolation
import HotelBooking.Invariants.Ownership
import HotelBooking.Services.Acknowledgements
import HotelBooking.Invariants.Durability
import HotelBooking.Effect.LaggingCopy
import HotelBooking.Services.ListAnswers
import HotelBooking.Relocation.SagaLog
import HotelBooking.Effect.Noninterference
import HotelBooking.Services.ShardGroups
import HotelBooking.Invariants.ShardIsolation
