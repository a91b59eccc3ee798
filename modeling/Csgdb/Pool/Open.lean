/-
Module: Csgdb.Pool.Open
Purpose: The options of a database pool with their checks, and the connections that
  opening a pool opens.
Trusted boundary: none
Main exports: PoolOptions, validatePoolOptions, poolCacheBytesPerConnection, poolRequests
-/
import Csgdb.Pool.Metrics
import Csgdb.Storage.BusyTimeout

namespace Csgdb.Pool

open Storage

structure GroupCommitOptions where
  maxJobs : Nat
  maxDelay : Duration
deriving Repr, DecidableEq

/-- Resource and maintenance limits of a pool. -/
structure PoolOptions where
  readConnections : Nat
  writeQueueCapacity : Nat
  groupCommit : GroupCommitOptions
  walMaintenance : WalMaintenanceOptions
deriving Repr, DecidableEq

/-- `PoolOptions::default`. -/
def PoolOptions.default : PoolOptions where
  readConnections := 2
  writeQueueCapacity := 64
  groupCommit := { maxJobs := 8, maxDelay := ⟨250000⟩ }
  walMaintenance :=
    { enabled := true
      checkpointIntervalCommits := 32
      walSoftLimitFrames := 4096 }

def maxReadConnections : Nat := 64
def maxWriteQueueCapacity : Nat := 65536
def maxGroupCommitJobs : Nat := 256
def maxGroupCommitDelay : Duration := .fromMillis 20

def invalidPoolConfiguration (message : String) : Error :=
  { code := .invalidPoolConfiguration, message := message }

def validateGroupCommitOptions (options : GroupCommitOptions) : Result Unit :=
  if options.maxJobs = 0 ∨ maxGroupCommitJobs < options.maxJobs then
    .error (invalidPoolConfiguration "group commit job limit is outside the supported range")
  else if maxGroupCommitDelay.nanos < options.maxDelay.nanos then
    .error (invalidPoolConfiguration "group commit delay exceeds the supported range")
  else .ok ()

def validatePoolOptions (plan : ResolvedOpenPlan) (options : PoolOptions) : Result Unit :=
  if options.readConnections = 0 ∨ maxReadConnections < options.readConnections then
    .error (invalidPoolConfiguration "read connection count is outside the supported range")
  else if options.writeQueueCapacity = 0 ∨
      maxWriteQueueCapacity < options.writeQueueCapacity then
    .error (invalidPoolConfiguration "write queue capacity is outside the supported range")
  else do
    validateGroupCommitOptions options.groupCommit
    validateWalMaintenanceOptions options.walMaintenance
    if plan.flags.contains .readonly then
      .error (invalidPoolConfiguration "a managed pool requires a writable primary connection")
    else if plan.flags.contains .memory then
      .error (invalidPoolConfiguration
        "managed pools do not support isolated memory databases")
    else .ok ()

/-- The share of the memory budget, in whole KiB. -/
def poolCacheBytesPerConnection (plan : ResolvedOpenPlan) (memoryBudgetBytes : Nat)
    (options : PoolOptions) : Result Nat :=
  let budgetShare := memoryBudgetBytes / (options.readConnections + 1)
  let selected := min plan.cacheSizeBytes budgetShare / 1024 * 1024
  if selected < 1024 then
    .error (invalidPoolConfiguration
      "memory budget cannot provide a one KiB page-cache share per connection")
  else .ok selected

/-- The opens of a pool, the writer first: every connection has the plan of the pool. -/
def poolRequests (plan : ResolvedOpenPlan) (memoryBudgetBytes : Nat) (options : PoolOptions) :
    Result (List OpenRequest) := do
  validatePoolOptions plan options
  let cacheBytes ← poolCacheBytesPerConnection plan memoryBudgetBytes options
  .ok ({ plan := plan, access := .readWrite, owner := .single, cacheSizeBytes := cacheBytes } ::
    List.replicate options.readConnections
      { plan := plan, access := .readOnly, owner := .single, cacheSizeBytes := cacheBytes })

end Csgdb.Pool
