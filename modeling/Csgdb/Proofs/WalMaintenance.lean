/-
Module: Csgdb.Proofs.WalMaintenance
Purpose: The writer's maintenance of the log over whole runs: when it checkpoints on its
  own account, and what its flags and counters publish.
Trusted boundary: the engine may answer every checkpoint with any counts, with lock
  contention or with a failure.
Main exports: Turn, countedSince, recordedCheckpoint, handleJob_walPressure,
  wal_maintenance_state_machine
-/
import Csgdb.Foundation.Fallible
import Csgdb.Pool.Writer

namespace Csgdb.Pool

open Storage Foundation

variable {Data Value Channel : Type} {engine : TransactionEngine Data}

/-! ## Turns of the writer -/

/-- A counted write by its answer: an exclusive callback with any outcome, or a group with
a job that succeeded. -/
def WriterAnswer.counted : WriterAnswer Value Channel → Bool
  | .exclusive _ => true
  | .group responses => responses.any fun response => response.2.isOk
  | .maintenance _ => false

/-- A change of policy that succeeded. -/
def WriterJob.changesPolicy : WriterJob Data Value Channel → Bool
  | .maintenance .setWalAutocheckpoint _ changed => changed.isOk
  | .maintenance (.setAutomaticWalMaintenance _) _ changed => changed.isOk
  | _ => false

/-- The checkpoint that the writer calls on its own account behind a job. -/
def automaticCheckpoint (engine : TransactionEngine Data)
    (job : WriterJob Data Value Channel) (writer : Writer Data) : Option CheckpointMode :=
  match job with
  | .exclusive _ => (writer.runtime.afterWriteProgram writer.metrics).mode
  | .group jobs =>
      if (groupTransaction engine jobs writer.connection).2.committed then
        (writer.runtime.afterWriteProgram writer.metrics).mode
      else
        none
  | .maintenance _ _ _ => none

/-- The writer's own checkpoint, if it called one and got an answer. -/
def ownCheckpoint (mode : Option CheckpointMode) (automatic : Result CheckpointResult) :
    Option (Option String × CheckpointResult) :=
  if mode.isSome then automatic.toOption.map fun result => (some "main", result) else none

/-- The checkpoint that a job records, with the name of its database: one that a client
asked for, or the writer's own, which is of the main database. -/
def recordedCheckpoint (engine : TransactionEngine Data)
    (automatic : Result CheckpointResult) (job : WriterJob Data Value Channel)
    (writer : Writer Data) : Option (Option String × CheckpointResult) :=
  match job with
  | .maintenance (.checkpointDatabase databaseName _) checkpointed _ =>
      checkpointed.toOption.map fun result => (databaseName, result)
  | job => ownCheckpoint (automaticCheckpoint engine job writer) automatic

/-- What a turn of the writer means for the maintenance of the log. -/
structure Turn where
  counted : Bool
  attempted : Bool
  changedPolicy : Bool
  raised : Bool
deriving Repr, DecidableEq

def turn (engine : TransactionEngine Data) (automatic : Result CheckpointResult)
    (job : WriterJob Data Value Channel) (writer : Writer Data) : Turn where
  counted := (handleJob engine automatic job writer).2.counted
  attempted := (automaticCheckpoint engine job writer).isSome
  changedPolicy := job.changesPolicy
  raised := !writer.runtime.walPressure &&
    (handleJob engine automatic job writer).1.runtime.walPressure

/-- The turns of a run, the newest first. -/
def turns (engine : TransactionEngine Data) :
    List (WriterJob Data Value Channel × Result CheckpointResult) → Writer Data →
      List Turn → List Turn
  | [], _, earlier => earlier
  | (job, automatic) :: rest, writer, earlier =>
      turns engine rest (handleJob engine automatic job writer).1
        (turn engine automatic job writer :: earlier)

/-- The counted writes since the last automatic attempt or change of policy. -/
def countedSince : List Turn → Nat
  | [] => 0
  | turn :: earlier =>
      if turn.attempted || turn.changedPolicy then 0
      else countedSince earlier + (if turn.counted then 1 else 0)

/-- The options of a job passed the check that the pool makes before it queues it. -/
def WriterJob.Validated : WriterJob Data Value Channel → Prop
  | .maintenance (.setAutomaticWalMaintenance options) _ _ =>
      validateWalMaintenanceOptions options = .ok ()
  | _ => True

theorem validateWalMaintenanceOptions_ok {options : WalMaintenanceOptions}
    (valid : validateWalMaintenanceOptions options = .ok ()) :
    0 < options.checkpointIntervalCommits ∧
      options.checkpointIntervalCommits ≤ maxMaintenanceIntervalCommits := by
  have inRange := (ite_error_eq_ok_iff.mp valid).1
  omega

/-! ## One job -/

/-- A group reports a commit exactly when one of its jobs is answered `Ok`. -/
theorem groupTransaction_committed (jobs : List (GroupableWrite Data Channel))
    (connection : Connection Data) :
    (groupTransaction engine jobs connection).2.committed =
      (groupTransaction engine jobs connection).2.responses.any
        fun response => response.2.isOk := by
  unfold groupTransaction
  cases beginTransaction engine connection with
  | mk next answer =>
      cases answer with
      | error error => simp [Except.isOk, Except.toBool]
      | ok =>
          simp only [finishGroup]
          cases (runGroupJobs engine none jobs next).2.2 with
          | some error => simp [Except.isOk, Except.toBool]
          | none =>
              cases commitTransaction engine (runGroupJobs engine none jobs next).1 with
              | mk last finished =>
                  cases finished with
                  | ok => rfl
                  | error error =>
                      symm
                      rw [List.any_eq_false]
                      intro response member
                      obtain ⟨old, -, rfl⟩ := List.mem_map.mp member
                      unfold failSuccess
                      split <;> simp [Except.isOk, Except.toBool]

/-- What an automatic attempt leaves behind. -/
def WriterRuntime.attempt (checkpoint : Result CheckpointResult) (runtime : WriterRuntime)
    (metrics : PoolMetrics) : WriterRuntime × PoolMetrics :=
  let reset := { runtime with commitsSinceMaintenance := 0 }
  match checkpoint with
  | .ok result => reset.recordCheckpoint result true metrics
  | .error _ =>
      (reset, { metrics with maintenanceFailures := metrics.maintenanceFailures + 1 })

/-- The three ways through `after_write`, when the counter has not reached the interval. -/
theorem afterWrite_cases {runtime : WriterRuntime}
    (below : runtime.commitsSinceMaintenance < runtime.maintenance.checkpointIntervalCommits)
    (bounded : runtime.maintenance.checkpointIntervalCommits ≤ maxMaintenanceIntervalCommits)
    (checkpoint : Result CheckpointResult) (metrics : PoolMetrics) :
    (runtime.maintenance.enabled = false ∧
        (runtime.afterWriteProgram metrics).mode = none ∧
        runtime.afterWrite checkpoint metrics = (runtime, metrics)) ∨
      (runtime.maintenance.enabled = true ∧ runtime.walPressure = false ∧
        runtime.commitsSinceMaintenance + 1 <
          runtime.maintenance.checkpointIntervalCommits ∧
        (runtime.afterWriteProgram metrics).mode = none ∧
        runtime.afterWrite checkpoint metrics =
          ({ runtime with
              commitsSinceMaintenance := runtime.commitsSinceMaintenance + 1 }, metrics)) ∨
      (runtime.maintenance.enabled = true ∧
        (runtime.walPressure = true ∨ runtime.commitsSinceMaintenance + 1 =
          runtime.maintenance.checkpointIntervalCommits) ∧
        (runtime.afterWriteProgram metrics).mode = some .passive ∧
        runtime.afterWrite checkpoint metrics = runtime.attempt checkpoint metrics) := by
  have exact : min (runtime.commitsSinceMaintenance + 1) (2 ^ 64 - 1) =
      runtime.commitsSinceMaintenance + 1 := by
    unfold maxMaintenanceIntervalCommits at bounded
    omega
  unfold WriterRuntime.afterWrite WriterRuntime.afterWriteProgram
  rw [exact]
  cases enabled : runtime.maintenance.enabled with
  | false => exact .inl ⟨rfl, rfl, rfl⟩
  | true =>
      simp only [Bool.not_true, Bool.false_eq_true, if_false]
      split
      case isTrue early =>
        simp only [Bool.and_eq_true, Bool.not_eq_true', decide_eq_true_eq] at early
        exact .inr (.inl ⟨trivial, early.1, early.2, rfl, rfl⟩)
      case isFalse due =>
        simp only [Bool.and_eq_true, Bool.not_eq_true', decide_eq_true_eq, not_and,
          Nat.not_lt] at due
        refine .inr (.inr ⟨trivial, ?_, rfl, ?_⟩)
        · cases pressure : runtime.walPressure with
          | true => exact .inl rfl
          | false =>
              have reached := due pressure
              exact .inr (by omega)
        · cases checkpoint <;> rfl

/-- The pressure that a recorded checkpoint leaves. -/
def WriterRuntime.pressureAfter (runtime : WriterRuntime) :
    Option (Option String × CheckpointResult) → Bool
  | some (_, result) =>
      decide (result.remainingFrames.getD 0 > runtime.maintenance.walSoftLimitFrames)
  | none => runtime.walPressure

theorem afterWrite_walPressure (checkpoint : Result CheckpointResult)
    (runtime : WriterRuntime) (metrics : PoolMetrics) :
    (runtime.afterWrite checkpoint metrics).1.walPressure =
      runtime.pressureAfter
        (ownCheckpoint (runtime.afterWriteProgram metrics).mode checkpoint) := by
  unfold WriterRuntime.afterWrite WriterRuntime.afterWriteProgram
  split
  · rfl
  · simp only
    split
    · rfl
    · cases checkpoint <;> rfl

/-- Whether `after_write` calls a checkpoint is decided by the private state alone. -/
theorem afterWriteProgram_mode (runtime : WriterRuntime) (metrics other : PoolMetrics) :
    (runtime.afterWriteProgram metrics).mode = (runtime.afterWriteProgram other).mode := by
  unfold WriterRuntime.afterWriteProgram
  split
  · rfl
  · simp only
    split <;> rfl

/-! ## Runs -/

/-- What holds between two jobs, next to the turns so far. -/
structure MaintenanceKept (history : List Turn) (runtime : WriterRuntime)
    (metrics : PoolMetrics) : Prop where
  bounded : runtime.maintenance.checkpointIntervalCommits ≤ maxMaintenanceIntervalCommits
  below : runtime.commitsSinceMaintenance < runtime.maintenance.checkpointIntervalCommits
  counts : runtime.maintenance.enabled = true →
    runtime.commitsSinceMaintenance = countedSince history
  pressure_published : metrics.walPressureActive = runtime.walPressure
  enabled_published : metrics.automaticMaintenanceEnabled = runtime.maintenance.enabled
  events : metrics.walPressureEvents = history.countP Turn.raised
  attempts : metrics.automaticCheckpointRuns + metrics.maintenanceFailures =
    history.countP Turn.attempted

theorem MaintenanceKept.start {options : WalMaintenanceOptions}
    (valid : validateWalMaintenanceOptions options = .ok ())
    (connection : Connection Data) :
    MaintenanceKept [] (Writer.new options connection).runtime
      (Writer.new options connection).metrics := by
  obtain ⟨positive, bounded⟩ := validateWalMaintenanceOptions_ok valid
  exact
    { bounded := bounded
      below := positive
      counts := fun _ => rfl
      pressure_published := rfl
      enabled_published := rfl
      events := rfl
      attempts := rfl }

/-- The counters of jobs and groups are no part of it. -/
theorem MaintenanceKept.of_metrics {history : List Turn} {runtime : WriterRuntime}
    {metrics other : PoolMetrics} (kept : MaintenanceKept history runtime metrics)
    (pressure : other.walPressureActive = metrics.walPressureActive)
    (enabled : other.automaticMaintenanceEnabled = metrics.automaticMaintenanceEnabled)
    (events : other.walPressureEvents = metrics.walPressureEvents)
    (runs : other.automaticCheckpointRuns = metrics.automaticCheckpointRuns)
    (failures : other.maintenanceFailures = metrics.maintenanceFailures) :
    MaintenanceKept history runtime other where
  bounded := kept.bounded
  below := kept.below
  counts := kept.counts
  pressure_published := pressure.trans kept.pressure_published
  enabled_published := enabled.trans kept.enabled_published
  events := events.trans kept.events
  attempts := by rw [runs, failures, kept.attempts]

theorem MaintenanceKept.completed {history : List Turn} {runtime : WriterRuntime}
    {metrics : PoolMetrics} (kept : MaintenanceKept history runtime metrics)
    (jobCount : Nat) : MaintenanceKept history runtime (metrics.completed jobCount) :=
  kept.of_metrics rfl rfl rfl rfl rfl

theorem MaintenanceKept.groupStarted {history : List Turn} {runtime : WriterRuntime}
    {metrics : PoolMetrics} (kept : MaintenanceKept history runtime metrics)
    (jobCount : Nat) : MaintenanceKept history runtime (metrics.groupStarted jobCount) :=
  kept.of_metrics rfl rfl rfl rfl rfl

/-- A turn that leaves the private state and the counters alone. -/
theorem MaintenanceKept.idle {history : List Turn} {runtime : WriterRuntime}
    {metrics : PoolMetrics} (kept : MaintenanceKept history runtime metrics) :
    MaintenanceKept
      ({ counted := false, attempted := false, changedPolicy := false,
         raised := !runtime.walPressure && runtime.walPressure } :: history)
      runtime metrics where
  bounded := kept.bounded
  below := kept.below
  counts := by
    intro enabled
    simpa [countedSince] using kept.counts enabled
  pressure_published := kept.pressure_published
  enabled_published := kept.enabled_published
  events := by simpa using kept.events
  attempts := by simpa using kept.attempts

/-- A checkpoint that a client asked for. -/
theorem MaintenanceKept.recorded {history : List Turn} {runtime : WriterRuntime}
    {metrics : PoolMetrics} (kept : MaintenanceKept history runtime metrics)
    (result : CheckpointResult) :
    MaintenanceKept
      ({ counted := false, attempted := false, changedPolicy := false,
         raised := !runtime.walPressure &&
           (runtime.recordCheckpoint result false metrics).1.walPressure } :: history)
      (runtime.recordCheckpoint result false metrics).1
      (runtime.recordCheckpoint result false metrics).2 where
  bounded := kept.bounded
  below := kept.below
  counts := by
    intro enabled
    simpa [countedSince, WriterRuntime.recordCheckpoint] using kept.counts enabled
  pressure_published := rfl
  enabled_published := kept.enabled_published
  events := by
    simp only [WriterRuntime.recordCheckpoint, List.countP_cons, Bool.and_comm, kept.events]
    split <;> rfl
  attempts := by simpa [WriterRuntime.recordCheckpoint] using kept.attempts

/-- A change of policy that succeeded. -/
theorem MaintenanceKept.replaced {history : List Turn} {runtime : WriterRuntime}
    {metrics : PoolMetrics} (kept : MaintenanceKept history runtime metrics)
    {options : WalMaintenanceOptions}
    (positive : 0 < options.checkpointIntervalCommits)
    (bounded : options.checkpointIntervalCommits ≤ maxMaintenanceIntervalCommits) :
    MaintenanceKept
      ({ counted := false, attempted := false, changedPolicy := true,
         raised := !runtime.walPressure && false } :: history)
      { maintenance := options, commitsSinceMaintenance := 0, walPressure := false }
      { metrics with
        automaticMaintenanceEnabled := options.enabled, walPressureActive := false } where
  bounded := bounded
  below := positive
  counts := fun _ => rfl
  pressure_published := rfl
  enabled_published := rfl
  events := by simpa using kept.events
  attempts := by simpa using kept.attempts

/-- A counted write. -/
theorem MaintenanceKept.written {history : List Turn} {runtime : WriterRuntime}
    {metrics : PoolMetrics} (kept : MaintenanceKept history runtime metrics)
    (answer : Result CheckpointResult) :
    MaintenanceKept
      ({ counted := true
         attempted := (runtime.afterWriteProgram metrics).mode.isSome
         changedPolicy := false
         raised := !runtime.walPressure &&
           (runtime.afterWrite answer metrics).1.walPressure } :: history)
      (runtime.afterWrite answer metrics).1 (runtime.afterWrite answer metrics).2 := by
  rcases afterWrite_cases kept.below kept.bounded answer metrics with
    ⟨disabled, mode, ran⟩ | ⟨enabled, calm, early, mode, ran⟩ | ⟨enabled, -, mode, ran⟩
  · rw [ran, mode]
    exact
      { bounded := kept.bounded
        below := kept.below
        counts := fun enabled => by rw [disabled] at enabled; cases enabled
        pressure_published := kept.pressure_published
        enabled_published := kept.enabled_published
        events := by simpa using kept.events
        attempts := by simpa using kept.attempts }
  · rw [ran, mode]
    exact
      { bounded := kept.bounded
        below := early
        counts := fun _ => by simpa [countedSince] using kept.counts enabled
        pressure_published := kept.pressure_published
        enabled_published := kept.enabled_published
        events := by simpa [calm] using kept.events
        attempts := by simpa using kept.attempts }
  · rw [ran, mode]
    have positive := Nat.zero_lt_of_lt kept.below
    cases answer with
    | error failure =>
        exact
          { bounded := kept.bounded
            below := positive
            counts := fun _ => rfl
            pressure_published := kept.pressure_published
            enabled_published := kept.enabled_published
            events := by simpa [WriterRuntime.attempt] using kept.events
            attempts := by
              simp only [WriterRuntime.attempt, List.countP_cons, ← kept.attempts]
              rfl }
    | ok result =>
        exact
          { bounded := kept.bounded
            below := positive
            counts := fun _ => rfl
            pressure_published := rfl
            enabled_published := kept.enabled_published
            events := by
              simp only [WriterRuntime.attempt, WriterRuntime.recordCheckpoint,
                List.countP_cons, Bool.and_comm, kept.events]
              split <;> rfl
            attempts := by
              simp only [WriterRuntime.attempt, WriterRuntime.recordCheckpoint,
                List.countP_cons, ← kept.attempts, if_true]
              simp only [Option.isSome, if_true]
              omega }

/-- The writer after the transaction of a group, before the log is maintained. -/
def Writer.grouped (engine : TransactionEngine Data)
    (jobs : List (GroupableWrite Data Channel)) (writer : Writer Data) : Writer Data :=
  { writer with
    connection := (groupTransaction engine jobs writer.connection).1
    metrics := (writer.metrics.groupStarted jobs.length).completed jobs.length }

theorem handleJob_group (automatic : Result CheckpointResult)
    (jobs : List (GroupableWrite Data Channel)) (writer : Writer Data) :
    (handleJob engine automatic (.group jobs : WriterJob Data Value Channel) writer).1 =
      if (groupTransaction engine jobs writer.connection).2.committed then
        Writer.afterWrite automatic (writer.grouped engine jobs)
      else writer.grouped engine jobs := rfl

theorem handleJob_group_counted (automatic : Result CheckpointResult)
    (jobs : List (GroupableWrite Data Channel)) (writer : Writer Data) :
    (handleJob engine automatic (.group jobs : WriterJob Data Value Channel)
      writer).2.counted = (groupTransaction engine jobs writer.connection).2.committed :=
  (groupTransaction_committed jobs writer.connection).symm

theorem automaticCheckpoint_group (jobs : List (GroupableWrite Data Channel))
    (writer : Writer Data) :
    automaticCheckpoint engine (.group jobs : WriterJob Data Value Channel) writer =
      if (groupTransaction engine jobs writer.connection).2.committed then
        (writer.runtime.afterWriteProgram writer.metrics).mode
      else none := rfl

/-- One job keeps the state of the maintenance. -/
theorem handleJob_maintenanceKept {history : List Turn} {writer : Writer Data}
    {job : WriterJob Data Value Channel} (automatic : Result CheckpointResult)
    (validated : job.Validated)
    (kept : MaintenanceKept history writer.runtime writer.metrics) :
    MaintenanceKept (turn engine automatic job writer :: history)
      (handleJob engine automatic job writer).1.runtime
      (handleJob engine automatic job writer).1.metrics := by
  cases job with
  | exclusive operation => exact (kept.written automatic).completed 1
  | group jobs =>
      have started := (kept.groupStarted jobs.length).completed jobs.length
      unfold turn
      rw [handleJob_group_counted, handleJob_group, automaticCheckpoint_group]
      cases (groupTransaction engine jobs writer.connection).2.committed with
      | true =>
          rw [if_pos rfl, if_pos rfl,
            afterWriteProgram_mode _ writer.metrics (writer.grouped engine jobs).metrics]
          exact started.written automatic
      | false => exact started.idle
  | maintenance operation checkpointed changed =>
      cases operation with
      | checkpointDatabase databaseName mode =>
          cases checkpointed with
          | error failure => exact kept.idle.completed 1
          | ok result => exact (kept.recorded result).completed 1
      | setWalAutocheckpoint =>
          cases changed with
          | error failure => exact kept.idle.completed 1
          | ok =>
              have disabled := @MaintenanceKept.replaced _ _ _ kept
                { writer.runtime.maintenance with enabled := false }
                (Nat.zero_lt_of_lt kept.below) kept.bounded
              exact disabled.completed 1
      | setAutomaticWalMaintenance options =>
          cases changed with
          | error failure => exact kept.idle.completed 1
          | ok =>
              obtain ⟨positive, bounded⟩ := validateWalMaintenanceOptions_ok validated
              exact (kept.replaced positive bounded).completed 1

/-- A run keeps the state of the maintenance. -/
theorem writerMain_maintenanceKept {history : List Turn} {writer : Writer Data}
    {jobs : List (WriterJob Data Value Channel × Result CheckpointResult)}
    (validated : ∀ entry ∈ jobs, entry.1.Validated)
    (kept : MaintenanceKept history writer.runtime writer.metrics) :
    MaintenanceKept (turns engine jobs writer history)
      (writerMain engine jobs writer).runtime (writerMain engine jobs writer).metrics := by
  induction jobs generalizing history writer with
  | nil => exact kept
  | cons entry rest inductionHypothesis =>
      obtain ⟨job, automatic⟩ := entry
      rw [List.forall_mem_cons] at validated
      exact inductionHypothesis validated.2
        (handleJob_maintenanceKept automatic validated.1 kept)

/-- When the writer checkpoints on its own account, and how. -/
theorem automaticCheckpoint_iff {history : List Turn} {writer : Writer Data}
    (kept : MaintenanceKept history writer.runtime writer.metrics)
    (automatic : Result CheckpointResult) (job : WriterJob Data Value Channel)
    (mode : CheckpointMode) :
    automaticCheckpoint engine job writer = some mode ↔
      mode = .passive ∧ (handleJob engine automatic job writer).2.counted = true ∧
        writer.runtime.maintenance.enabled = true ∧
          (writer.runtime.walPressure = true ∨
            countedSince history + 1 =
              writer.runtime.maintenance.checkpointIntervalCommits) := by
  have called : (writer.runtime.afterWriteProgram writer.metrics).mode = some mode ↔
      mode = .passive ∧ writer.runtime.maintenance.enabled = true ∧
        (writer.runtime.walPressure = true ∨
          countedSince history + 1 =
            writer.runtime.maintenance.checkpointIntervalCommits) := by
    rcases afterWrite_cases kept.below kept.bounded automatic writer.metrics with
      ⟨disabled, isMode, -⟩ | ⟨enabled, calm, early, isMode, -⟩ | ⟨enabled, due, isMode, -⟩
    · simp [isMode, disabled]
    · have counts := kept.counts enabled
      simp only [isMode, reduceCtorEq, calm, Bool.false_eq_true, false_or, false_iff]
      rintro ⟨-, -, reached⟩
      omega
    · rw [kept.counts enabled] at due
      simp only [isMode, Option.some.injEq, enabled, due, and_true]
      exact eq_comm
  cases job with
  | exclusive operation => exact called.trans (by simp [handleJob, WriterAnswer.counted])
  | group jobs =>
      rw [handleJob_group_counted, automaticCheckpoint_group]
      cases (groupTransaction engine jobs writer.connection).2.committed with
      | true => exact called.trans (by simp)
      | false => simp
  | maintenance operation checkpointed changed =>
      simp [automaticCheckpoint, handleJob, WriterAnswer.counted]

/-- All that a job does to the pressure. -/
theorem handleJob_walPressure (automatic : Result CheckpointResult)
    (job : WriterJob Data Value Channel) (writer : Writer Data) :
    (handleJob engine automatic job writer).1.runtime.walPressure =
      if job.changesPolicy then false
      else writer.runtime.pressureAfter
        (recordedCheckpoint engine automatic job writer) := by
  cases job with
  | exclusive operation => exact afterWrite_walPressure automatic _ _
  | group jobs =>
      change _ = writer.runtime.pressureAfter
        (ownCheckpoint (automaticCheckpoint engine (.group jobs) writer) automatic)
      rw [handleJob_group, automaticCheckpoint_group]
      cases (groupTransaction engine jobs writer.connection).2.committed with
      | true =>
          rw [if_pos rfl, if_pos rfl,
            afterWriteProgram_mode _ writer.metrics (writer.grouped engine jobs).metrics]
          exact afterWrite_walPressure automatic _ _
      | false => rfl
  | maintenance operation checkpointed changed =>
      cases operation with
      | checkpointDatabase databaseName mode => cases checkpointed <;> rfl
      | setWalAutocheckpoint => cases changed <;> rfl
      | setAutomaticWalMaintenance options => cases changed <;> rfl

/-- The maintenance of the log in every run, at every boundary between two jobs: the
counter stays below the interval, the writer checkpoints on its own account exactly when
that is due, and the published flags and counters tell what happened. -/
theorem wal_maintenance_state_machine (engine : TransactionEngine Data)
    (options : WalMaintenanceOptions)
    (valid : validateWalMaintenanceOptions options = .ok ()) (connection : Connection Data)
    (jobs : List (WriterJob Data Value Channel × Result CheckpointResult))
    (validated : ∀ entry ∈ jobs, entry.1.Validated) :
    let writer := writerMain engine jobs (Writer.new options connection)
    let history := turns engine jobs (Writer.new options connection) []
    (writer.runtime.maintenance.enabled = true →
      writer.runtime.commitsSinceMaintenance <
        writer.runtime.maintenance.checkpointIntervalCommits) ∧
    (∀ (job : WriterJob Data Value Channel) (automatic : Result CheckpointResult)
        (mode : CheckpointMode),
      automaticCheckpoint engine job writer = some mode ↔
        mode = .passive ∧ (handleJob engine automatic job writer).2.counted = true ∧
          writer.runtime.maintenance.enabled = true ∧
            (writer.runtime.walPressure = true ∨
              countedSince history + 1 =
                writer.runtime.maintenance.checkpointIntervalCommits)) ∧
    (writer.runtime.maintenance.enabled = false →
      ∀ job : WriterJob Data Value Channel, automaticCheckpoint engine job writer = none) ∧
    writer.metrics.walPressureActive = writer.runtime.walPressure ∧
    writer.metrics.automaticMaintenanceEnabled = writer.runtime.maintenance.enabled ∧
    writer.metrics.walPressureEvents = history.countP Turn.raised ∧
    (∀ (job : WriterJob Data Value Channel) (automatic : Result CheckpointResult),
      (turn engine automatic job writer).raised = true →
        (recordedCheckpoint engine automatic job writer).isSome) ∧
    writer.metrics.automaticCheckpointRuns + writer.metrics.maintenanceFailures =
      history.countP Turn.attempted := by
  intro writer history
  have kept : MaintenanceKept history writer.runtime writer.metrics :=
    writerMain_maintenanceKept validated (.start valid connection)
  refine ⟨fun _ => kept.below,
    fun job automatic mode => automaticCheckpoint_iff kept automatic job mode, ?_,
    kept.pressure_published, kept.enabled_published, kept.events, ?_, kept.attempts⟩
  · intro disabled job
    rw [Option.eq_none_iff_forall_ne_some]
    intro mode called
    have due := (automaticCheckpoint_iff kept (.error default) job mode).mp called
    rw [disabled] at due
    cases due.2.2.1
  · intro job automatic raised
    simp only [turn, Bool.and_eq_true, Bool.not_eq_true', handleJob_walPressure] at raised
    obtain ⟨calm, pressed⟩ := raised
    cases recorded : recordedCheckpoint engine automatic job writer with
    | some entry => rfl
    | none =>
        rw [recorded, WriterRuntime.pressureAfter, calm] at pressed
        simp at pressed

/-- A policy of a checkpoint after every second write, and a soft limit of three frames. -/
def everySecondWrite : WalMaintenanceOptions where
  enabled := true
  checkpointIntervalCommits := 2
  walSoftLimitFrames := 3

/-- A callback that returns at once. -/
def emptyWrite : WriterJob Unit Unit Unit :=
  .exclusive (.ends (.returned (.ok ())))

def steadyEngine : TransactionEngine Unit where
  pending := fun _ => false
  fault := fun _ => none

def unitConnection : Connection Unit :=
  { committed := (), transaction := none, changes := 0, controls := 0 }

/-- What a checkpoint of the main database reports. -/
def mainReports (walFrames checkpointedFrames : Int) : Result CheckpointResult :=
  checkpointDatabase (some "main") (.counted false walFrames checkpointedFrames)

/-- The second of two writes checkpoints, finds ten frames and raises the pressure; from
then on every write checkpoints. -/
theorem second_write_checkpoints :
    let writer := writerMain steadyEngine
      [(emptyWrite, mainReports 5 5), (emptyWrite, mainReports 12 2)]
      (Writer.new everySecondWrite unitConnection)
    writer.metrics.walPressureEvents = 1 ∧ writer.metrics.automaticCheckpointRuns = 1 ∧
      writer.metrics.walPressureActive = true ∧
      automaticCheckpoint steadyEngine emptyWrite writer = some .passive := by
  intro writer
  have machine := wal_maintenance_state_machine steadyEngine everySecondWrite (by decide)
    unitConnection [(emptyWrite, mainReports 5 5), (emptyWrite, mainReports 12 2)]
    (by simp [emptyWrite, WriterJob.Validated])
  obtain ⟨-, due, -, published, -, events, -, attempts⟩ := machine
  refine ⟨events, ?_, published, ?_⟩
  · exact (attempts : writer.metrics.automaticCheckpointRuns + 0 = 1)
  · exact (due emptyWrite (.error storageFailed) .passive).mpr
      ⟨rfl, rfl, rfl, .inl rfl⟩

end Csgdb.Pool
