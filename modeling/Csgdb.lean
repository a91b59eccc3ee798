/-
Module: Csgdb
Purpose: Root of the development.
-/
import Csgdb.Collection.Catalog
import Csgdb.Collection.Crud
import Csgdb.Collection.Field
import Csgdb.Collection.PooledReads
import Csgdb.Collection.PooledWrites
import Csgdb.Collection.Register
import Csgdb.Collection.Schema
import Csgdb.Collection.Session
import Csgdb.Core.Basic
import Csgdb.Core.Open
import Csgdb.Crypto.ProviderCache
import Csgdb.Crypto.ProviderLifetime
import Csgdb.Database.Builder
import Csgdb.Database.KeyStore
import Csgdb.Derive.Accepted
import Csgdb.Derive.Declaration
import Csgdb.Derive.Expand
import Csgdb.Derive.Statements
import Csgdb.Ffi.Code
import Csgdb.Ffi.Handle
import Csgdb.Ffi.Lifetime
import Csgdb.Ffi.Open
import Csgdb.Ffi.OpenCalls
import Csgdb.Ffi.Reading
import Csgdb.Ffi.Recompile
import Csgdb.Ffi.Statement
import Csgdb.Foundation.Buffer
import Csgdb.Foundation.Cursor
import Csgdb.Foundation.DoubledQuotes
import Csgdb.Foundation.EventRun
import Csgdb.Foundation.Fallible
import Csgdb.Foundation.Hex
import Csgdb.Foundation.Hmac
import Csgdb.Foundation.Interleaving
import Csgdb.Foundation.LinkedPath
import Csgdb.Foundation.Lockstep
import Csgdb.Foundation.Occurrence
import Csgdb.Foundation.Once
import Csgdb.Foundation.Overwrite
import Csgdb.Foundation.PrefixCode
import Csgdb.Foundation.RecordStore
import Csgdb.Foundation.Replacement
import Csgdb.Foundation.Transducer
import Csgdb.Foundation.Utf8Order
import Csgdb.Pool.GroupCommit
import Csgdb.Pool.Lending
import Csgdb.Pool.Metrics
import Csgdb.Pool.Open
import Csgdb.Pool.Program
import Csgdb.Pool.Queue
import Csgdb.Pool.ReadConnection
import Csgdb.Pool.ReadPool
import Csgdb.Pool.SeparateTransactions
import Csgdb.Pool.Stats
import Csgdb.Pool.System
import Csgdb.Pool.Writer
import Csgdb.Proofs.Acknowledgement
import Csgdb.Proofs.Backpressure
import Csgdb.Proofs.BoundedQueries
import Csgdb.Proofs.BusyTimeouts
import Csgdb.Proofs.CipherProfiles
import Csgdb.Proofs.ClosingClones
import Csgdb.Proofs.ColumnCounts
import Csgdb.Proofs.CrudLaws
import Csgdb.Proofs.DeadlockFreedom
import Csgdb.Proofs.DeferredClose
import Csgdb.Proofs.DerivedStatements
import Csgdb.Proofs.DescriptorIdentity
import Csgdb.Proofs.ExactAnswers
import Csgdb.Proofs.FailureDomains
import Csgdb.Proofs.FaultRules
import Csgdb.Proofs.FaultTransparency
import Csgdb.Proofs.FieldRoundTrips
import Csgdb.Proofs.FreshBindings
import Csgdb.Proofs.FreshRegistration
import Csgdb.Proofs.GroupCommit
import Csgdb.Proofs.History
import Csgdb.Proofs.HmacRefinement
import Csgdb.Proofs.InterfaceAgreement
import Csgdb.Proofs.Interoperability
import Csgdb.Proofs.KeySeparation
import Csgdb.Proofs.Migration
import Csgdb.Proofs.MigrationChain
import Csgdb.Proofs.MigrationReplay
import Csgdb.Proofs.Negation
import Csgdb.Proofs.OpenRule
import Csgdb.Proofs.PhysicalSchema
import Csgdb.Proofs.PooledRecords
import Csgdb.Proofs.PredicateLimits
import Csgdb.Proofs.ProviderReferences
import Csgdb.Proofs.QueryMeaning
import Csgdb.Proofs.Quoting
import Csgdb.Proofs.ReadLeases
import Csgdb.Proofs.ReadPoolConservation
import Csgdb.Proofs.RecordCells
import Csgdb.Proofs.Registration
import Csgdb.Proofs.RegistryRuns
import Csgdb.Proofs.SchemaExactness
import Csgdb.Proofs.SecureOpens
import Csgdb.Proofs.SerialWrites
import Csgdb.Proofs.SnapshotReads
import Csgdb.Proofs.StatementAutomaton
import Csgdb.Proofs.StatementCursor
import Csgdb.Proofs.StatsSnapshots
import Csgdb.Proofs.StatusCodes
import Csgdb.Proofs.StoreRefinement
import Csgdb.Proofs.StoredRecords
import Csgdb.Proofs.TableOwners
import Csgdb.Proofs.ThreadDiscipline
import Csgdb.Proofs.Wakeups
import Csgdb.Proofs.WalMaintenance
import Csgdb.Proofs.WalPressure
import Csgdb.Proofs.WriteAccounting
import Csgdb.Proofs.WriteQueue
import Csgdb.Proofs.WriterBoundary
import Csgdb.Query.Compile
import Csgdb.Query.Execute
import Csgdb.Query.Field
import Csgdb.Query.Predicate
import Csgdb.Sql.Grammar
import Csgdb.Sql.Lexer
import Csgdb.Sql.Meaning
import Csgdb.Sql.Prepare
import Csgdb.Sql.ReadBack
import Csgdb.Sql.Selection
import Csgdb.Sql.Store
import Csgdb.Sql.Text
import Csgdb.Sql.TwoValued
import Csgdb.Storage.Bindings
import Csgdb.Storage.BusyTimeout
import Csgdb.Storage.Connection
import Csgdb.Storage.Fault
import Csgdb.Storage.FaultVfs
import Csgdb.Storage.Open
import Csgdb.Storage.Opening
import Csgdb.Storage.Row
import Csgdb.Storage.Statement
