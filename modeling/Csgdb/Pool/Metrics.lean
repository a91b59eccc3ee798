/-
Module: Csgdb.Pool.Metrics
Purpose: The counters of a pool and the writer's maintenance of the log.
Trusted boundary: the result of a checkpoint belongs to the engine and is passed in.
Main exports: PoolMetrics, CheckpointResult, checkpointDatabase, WalMaintenanceOptions,
  validateWalMaintenanceOptions, WriterRuntime, WriterRuntime.afterWrite,
  WriterRuntime.recordCheckpoint
-/
import Csgdb.Core.Basic
import Mathlib.Algebra.Ring.Nat
import Mathlib.Tactic.Common

namespace Csgdb.Pool

/-- The counters of a pool. -/
structure PoolMetrics where
  writerActive : Bool := false
  writeJobsSubmitted : Nat := 0
  writeJobsCompleted : Nat := 0
  writeJobsRejected : Nat := 0
  groupCommitTransactions : Nat := 0
  groupedWriteJobs : Nat := 0
  largestGroupCommit : Nat := 0
  checkpointRuns : Nat := 0
  automaticCheckpointRuns : Nat := 0
  incompleteCheckpoints : Nat := 0
  maintenanceFailures : Nat := 0
  walPressureEvents : Nat := 0
  walPressureActive : Bool := false
  automaticMaintenanceEnabled : Bool := false
  lastObservedWalFrames : Nat := 0
  lastRemainingWalFrames : Nat := 0
deriving Repr, DecidableEq

/-- The counters that a group updates before its transaction. -/
def PoolMetrics.groupStarted (metrics : PoolMetrics) (jobCount : Nat) : PoolMetrics :=
  { metrics with
    groupCommitTransactions := metrics.groupCommitTransactions + 1
    largestGroupCommit := max metrics.largestGroupCommit jobCount
    groupedWriteJobs :=
      if jobCount > 1 then metrics.groupedWriteJobs + jobCount
      else metrics.groupedWriteJobs }

def PoolMetrics.completed (metrics : PoolMetrics) (jobCount : Nat) : PoolMetrics :=
  { metrics with writeJobsCompleted := metrics.writeJobsCompleted + jobCount }

/-! ## Maintenance of the write-ahead log -/

/-- Progress of one checkpoint; frame counts may be unknown. -/
structure CheckpointResult where
  walFrames : Option Nat
  checkpointedFrames : Option Nat
  busy : Bool
deriving Repr, DecidableEq

/-- Frames left behind by the attempt. -/
def CheckpointResult.remainingFrames (result : CheckpointResult) : Option Nat :=
  match result.walFrames, result.checkpointedFrames with
  | some wal, some checkpointed => some (wal - checkpointed)
  | _, _ => none

def CheckpointResult.isComplete (result : CheckpointResult) : Bool :=
  !result.busy && result.remainingFrames == some 0

/-- The locking and the reuse of the log that a checkpoint asks for. -/
inductive CheckpointMode where
  | passive
  | full
  | restart
  | truncate
deriving Repr, DecidableEq

/-- What the engine answers to a checkpoint: with `SQLITE_OK` or `SQLITE_BUSY` two frame
counts, -1 where it has none, with any other code a failure. -/
inductive EngineCheckpoint where
  | counted (busy : Bool) (walFrames checkpointedFrames : Int)
  | failed (error : Error)
deriving Repr, DecidableEq

def nonNegativeFrameCount (value : Int) : Option Nat :=
  if 0 ≤ value then some value.toNat else none

def invalidDatabaseName : Error :=
  { code := .invalidDatabaseName, message := "database name contains an embedded NUL byte" }

/-- `Connection::checkpoint_database`, on what the engine answers. -/
def checkpointDatabase (databaseName : Option String) (answer : EngineCheckpoint) :
    Result CheckpointResult :=
  if (databaseName.getD "").toList.contains (Char.ofNat 0) then
    .error invalidDatabaseName
  else
    match answer with
    | .failed error => .error error
    | .counted busy walFrames checkpointedFrames =>
        .ok
          { walFrames := nonNegativeFrameCount walFrames
            checkpointedFrames := nonNegativeFrameCount checkpointedFrames
            busy := busy }

structure WalMaintenanceOptions where
  enabled : Bool
  checkpointIntervalCommits : Nat
  walSoftLimitFrames : Nat
deriving Repr, DecidableEq

def maxMaintenanceIntervalCommits : Nat := 1000000

def maxWalAutocheckpointFrames : Nat := 2 ^ 31 - 1

def validateWalMaintenanceOptions (options : WalMaintenanceOptions) : Result Unit :=
  if options.checkpointIntervalCommits = 0 ∨
      maxMaintenanceIntervalCommits < options.checkpointIntervalCommits then
    .error
      { code := .invalidPoolConfiguration
        message := "WAL maintenance commit interval is outside the supported range" }
  else if options.walSoftLimitFrames = 0 ∨
      maxWalAutocheckpointFrames < options.walSoftLimitFrames then
    .error
      { code := .invalidPoolConfiguration
        message := "WAL soft frame limit is outside the supported range" }
  else
    .ok ()

/-- The writer's private maintenance state. -/
structure WriterRuntime where
  maintenance : WalMaintenanceOptions
  commitsSinceMaintenance : Nat
  walPressure : Bool
deriving Repr, DecidableEq

namespace WriterRuntime

def new (maintenance : WalMaintenanceOptions) : WriterRuntime where
  maintenance := maintenance
  commitsSinceMaintenance := 0
  walPressure := false

def disableAutomaticMaintenance (runtime : WriterRuntime) : WriterRuntime where
  maintenance := { runtime.maintenance with enabled := false }
  commitsSinceMaintenance := 0
  walPressure := false

def setAutomaticMaintenance (options : WalMaintenanceOptions) (_ : WriterRuntime) :
    WriterRuntime where
  maintenance := options
  commitsSinceMaintenance := 0
  walPressure := false

def recordCheckpoint (result : CheckpointResult) (automatic : Bool)
    (runtime : WriterRuntime) (metrics : PoolMetrics) : WriterRuntime × PoolMetrics :=
  let remainingFrames := result.remainingFrames.getD 0
  let pressure := decide (remainingFrames > runtime.maintenance.walSoftLimitFrames)
  ({ runtime with walPressure := pressure },
    { metrics with
      checkpointRuns := metrics.checkpointRuns + 1
      automaticCheckpointRuns :=
        if automatic then metrics.automaticCheckpointRuns + 1
        else metrics.automaticCheckpointRuns
      incompleteCheckpoints :=
        if result.isComplete then metrics.incompleteCheckpoints
        else metrics.incompleteCheckpoints + 1
      lastObservedWalFrames := result.walFrames.getD 0
      lastRemainingWalFrames := remainingFrames
      walPressureEvents :=
        if pressure && !runtime.walPressure then metrics.walPressureEvents + 1
        else metrics.walPressureEvents
      walPressureActive := pressure })

/-- `after_write` as a program: it returns, or it calls `checkpoint` in a mode and goes
on with the answer. -/
inductive AfterWrite where
  | returns (runtime : WriterRuntime) (metrics : PoolMetrics)
  | checkpoints (mode : CheckpointMode)
      (resume : Result CheckpointResult → WriterRuntime × PoolMetrics)

/-- Maintenance after a counted write.  The commit counter saturates at the end of its
range. -/
def afterWriteProgram (runtime : WriterRuntime) (metrics : PoolMetrics) : AfterWrite :=
  if !runtime.maintenance.enabled then
    .returns runtime metrics
  else
    let commits := min (runtime.commitsSinceMaintenance + 1) (2 ^ 64 - 1)
    if !runtime.walPressure &&
        decide (commits < runtime.maintenance.checkpointIntervalCommits) then
      .returns { runtime with commitsSinceMaintenance := commits } metrics
    else
      let reset := { runtime with commitsSinceMaintenance := 0 }
      .checkpoints .passive fun
        | .ok result => reset.recordCheckpoint result true metrics
        | .error _ =>
            (reset, { metrics with maintenanceFailures := metrics.maintenanceFailures + 1 })

/-- The mode of the checkpoint that the program calls, if it calls one. -/
def AfterWrite.mode : AfterWrite → Option CheckpointMode
  | .returns _ _ => none
  | .checkpoints mode _ => some mode

/-- The program with the answer of its checkpoint. -/
def AfterWrite.answered (checkpoint : Result CheckpointResult) :
    AfterWrite → WriterRuntime × PoolMetrics
  | .returns runtime metrics => (runtime, metrics)
  | .checkpoints _ resume => resume checkpoint

/-- `after_write`, where `checkpoint` is what a passive checkpoint would answer now. -/
def afterWrite (checkpoint : Result CheckpointResult) (runtime : WriterRuntime)
    (metrics : PoolMetrics) : WriterRuntime × PoolMetrics :=
  (runtime.afterWriteProgram metrics).answered checkpoint

end WriterRuntime

end Csgdb.Pool
