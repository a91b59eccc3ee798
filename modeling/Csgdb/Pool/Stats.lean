/-
Module: Csgdb.Pool.Stats
Purpose: `stats()`: one load after another, while the threads of the pool go on and the
  writer stores its counters one after another.
Trusted boundary: loads and stores take effect in the order of the program; the counters do
  not reach the end of their range.
Main exports: PoolStats, Watched, Watched.visible, WatchStep, Watches, StatsInstants,
  StatsInstants.stats
-/
import Csgdb.Pool.System

namespace Csgdb.Pool

open Storage

variable {Data Value : Type}

/-- A point-in-time view of connection-manager activity. -/
structure PoolStats where
  readerCapacity : Nat
  cacheBytesPerConnection : Nat
  availableReaders : Nat
  activeReaders : Nat
  rejectedReadCheckouts : Nat
  writeQueueCapacity : Nat
  queuedWrites : Nat
  writerActive : Bool
  writeJobsSubmitted : Nat
  writeJobsCompleted : Nat
  writeJobsRejected : Nat
  groupCommitTransactions : Nat
  groupedWriteJobs : Nat
  largestGroupCommit : Nat
  checkpointRuns : Nat
  automaticCheckpointRuns : Nat
  incompleteCheckpoints : Nat
  maintenanceFailures : Nat
  walPressureEvents : Nat
  walPressureActive : Bool
  automaticMaintenanceEnabled : Bool
  lastObservedWalFrames : Nat
  lastRemainingWalFrames : Nat
deriving Repr, DecidableEq

/-! ## The counters while the writer stores them -/

/-- The stores of a step of the writer, at most. -/
def storeCount : Nat := 14

/-- The counters after a number of stores of a step of the writer, which has led from the
first ones to the second ones.  A group stores its first three counters and the completed
jobs, a checkpoint those from its runs to the pressure, a change of policy its flag and the
pressure.  Submitters count at once. -/
def PoolMetrics.partway (stored : Nat) (before after : PoolMetrics) : PoolMetrics where
  groupCommitTransactions :=
    if 0 < stored then after.groupCommitTransactions else before.groupCommitTransactions
  largestGroupCommit :=
    if 1 < stored then after.largestGroupCommit else before.largestGroupCommit
  groupedWriteJobs :=
    if 2 < stored then after.groupedWriteJobs else before.groupedWriteJobs
  checkpointRuns := if 3 < stored then after.checkpointRuns else before.checkpointRuns
  automaticCheckpointRuns :=
    if 4 < stored then after.automaticCheckpointRuns else before.automaticCheckpointRuns
  incompleteCheckpoints :=
    if 5 < stored then after.incompleteCheckpoints else before.incompleteCheckpoints
  lastObservedWalFrames :=
    if 6 < stored then after.lastObservedWalFrames else before.lastObservedWalFrames
  lastRemainingWalFrames :=
    if 7 < stored then after.lastRemainingWalFrames else before.lastRemainingWalFrames
  walPressureEvents :=
    if 8 < stored then after.walPressureEvents else before.walPressureEvents
  automaticMaintenanceEnabled :=
    if 9 < stored then after.automaticMaintenanceEnabled
    else before.automaticMaintenanceEnabled
  walPressureActive :=
    if 10 < stored then after.walPressureActive else before.walPressureActive
  maintenanceFailures :=
    if 11 < stored then after.maintenanceFailures else before.maintenanceFailures
  writeJobsCompleted :=
    if 12 < stored then after.writeJobsCompleted else before.writeJobsCompleted
  writerActive := if 13 < stored then after.writerActive else before.writerActive
  writeJobsSubmitted := after.writeJobsSubmitted
  writeJobsRejected := after.writeJobsRejected

/-- A pool, with the counters before the last step of its writer and how many of that
step's stores have been made. -/
structure Watched (Data Value : Type) where
  system : System Data Value
  before : PoolMetrics
  stored : Nat

/-- The counters that a load sees. -/
def Watched.visible (watched : Watched Data Value) : PoolMetrics :=
  .partway watched.stored watched.before watched.system.shared.writer.metrics

variable (pool : PoolConfiguration Data)

/-- A step of the pool, or one store of the writer, which goes on when all of them have
been made. -/
inductive WatchStep : Watched Data Value → Watched Data Value → Prop
  | thread {shared shared' : Shared Data Value} {before after : List (Thread Data Value)}
      {thread thread' : Thread Data Value} {notice : Notice} {next : System Data Value}
      {metrics : PoolMetrics} {stored : Nat}
      (order : stored = storeCount ∨ thread.inWriteWorker = false)
      (step : ThreadStep pool shared thread shared' thread' notice)
      (notified : Notified notice ⟨shared', before ++ thread' :: after⟩ next) :
      WatchStep ⟨⟨shared, before ++ thread :: after⟩, metrics, stored⟩
        ⟨next, metrics, stored⟩
  | writer {shared shared' : Shared Data Value} {clients : List (Thread Data Value)}
      {thread thread' : Thread Data Value} {notice : Notice} {next : System Data Value}
      {metrics : PoolMetrics}
      (step : WriterStep pool shared thread shared' thread' notice)
      (notified : Notified notice ⟨shared', thread' :: clients⟩ next) :
      WatchStep ⟨⟨shared, thread :: clients⟩, metrics, storeCount⟩
        ⟨next, shared.writer.metrics, 0⟩
  | stores {system : System Data Value} {metrics : PoolMetrics} {stored : Nat}
      (left : stored < storeCount) :
      WatchStep ⟨system, metrics, stored⟩ ⟨system, metrics, stored + 1⟩
  | disturbance {system next : System Data Value} {metrics : PoolMetrics} {stored : Nat}
      (disturbance : Disturbance system next) :
      WatchStep ⟨system, metrics, stored⟩ ⟨next, metrics, stored⟩

/-- Any interleaving. -/
def Watches : Watched Data Value → Watched Data Value → Prop :=
  Relation.ReflTransGen (WatchStep pool)

/-- A system whose writer has nothing to store. -/
def Watched.initial (system : System Data Value) : Watched Data Value where
  system := system
  before := system.shared.writer.metrics
  stored := storeCount

/-! ## The loads -/

/-- The instants of the loads of `stats()`, in their order.  `counts` reads the length of
the list under its lock and `active` without it. -/
structure StatsInstants (Data Value : Type) where
  availableReaders : Watched Data Value
  activeReaders : Watched Data Value
  rejectedReadCheckouts : Watched Data Value
  queuedWrites : Watched Data Value
  writerActive : Watched Data Value
  writeJobsSubmitted : Watched Data Value
  writeJobsCompleted : Watched Data Value
  writeJobsRejected : Watched Data Value
  groupCommitTransactions : Watched Data Value
  groupedWriteJobs : Watched Data Value
  largestGroupCommit : Watched Data Value
  checkpointRuns : Watched Data Value
  automaticCheckpointRuns : Watched Data Value
  incompleteCheckpoints : Watched Data Value
  maintenanceFailures : Watched Data Value
  walPressureEvents : Watched Data Value
  walPressureActive : Watched Data Value
  automaticMaintenanceEnabled : Watched Data Value
  lastObservedWalFrames : Watched Data Value
  lastRemainingWalFrames : Watched Data Value

namespace StatsInstants

/-- A call whose loads interleave with the steps of the pool, from a state on. -/
def Called (start : Watched Data Value) (instants : StatsInstants Data Value) : Prop :=
  List.IsChain (Watches pool)
    [start, instants.availableReaders, instants.activeReaders,
      instants.rejectedReadCheckouts, instants.queuedWrites, instants.writerActive,
      instants.writeJobsSubmitted, instants.writeJobsCompleted, instants.writeJobsRejected,
      instants.groupCommitTransactions, instants.groupedWriteJobs,
      instants.largestGroupCommit, instants.checkpointRuns,
      instants.automaticCheckpointRuns, instants.incompleteCheckpoints,
      instants.maintenanceFailures, instants.walPressureEvents, instants.walPressureActive,
      instants.automaticMaintenanceEnabled, instants.lastObservedWalFrames,
      instants.lastRemainingWalFrames]

/-- What the call returns. -/
def stats (cacheBytesPerConnection : Nat) (instants : StatsInstants Data Value) :
    PoolStats where
  readerCapacity := pool.readConnections
  cacheBytesPerConnection := cacheBytesPerConnection
  availableReaders :=
    instants.availableReaders.system.shared.readers.connections.length
  activeReaders := instants.activeReaders.system.shared.readers.active
  rejectedReadCheckouts :=
    instants.rejectedReadCheckouts.system.shared.readers.rejectedCheckouts
  writeQueueCapacity := pool.writeQueueCapacity
  queuedWrites := instants.queuedWrites.system.shared.queue.jobs.length
  writerActive := instants.writerActive.visible.writerActive
  writeJobsSubmitted := instants.writeJobsSubmitted.visible.writeJobsSubmitted
  writeJobsCompleted := instants.writeJobsCompleted.visible.writeJobsCompleted
  writeJobsRejected := instants.writeJobsRejected.visible.writeJobsRejected
  groupCommitTransactions :=
    instants.groupCommitTransactions.visible.groupCommitTransactions
  groupedWriteJobs := instants.groupedWriteJobs.visible.groupedWriteJobs
  largestGroupCommit := instants.largestGroupCommit.visible.largestGroupCommit
  checkpointRuns := instants.checkpointRuns.visible.checkpointRuns
  automaticCheckpointRuns :=
    instants.automaticCheckpointRuns.visible.automaticCheckpointRuns
  incompleteCheckpoints := instants.incompleteCheckpoints.visible.incompleteCheckpoints
  maintenanceFailures := instants.maintenanceFailures.visible.maintenanceFailures
  walPressureEvents := instants.walPressureEvents.visible.walPressureEvents
  walPressureActive := instants.walPressureActive.visible.walPressureActive
  automaticMaintenanceEnabled :=
    instants.automaticMaintenanceEnabled.visible.automaticMaintenanceEnabled
  lastObservedWalFrames := instants.lastObservedWalFrames.visible.lastObservedWalFrames
  lastRemainingWalFrames := instants.lastRemainingWalFrames.visible.lastRemainingWalFrames

end StatsInstants

end Csgdb.Pool
