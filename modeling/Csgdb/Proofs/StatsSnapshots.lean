/-
Module: Csgdb.Proofs.StatsSnapshots
Purpose: What the loads of `stats()` can see together, and exactly when they fit together.
Trusted boundary: none
Main exports: Watches.reaches, ActiveCounted, PoolMetrics.Follows, WatchKept,
  PoolStats.Consistent, StatsInstants.Settled, stats_consistent_iff
-/
import Csgdb.Pool.Stats
import Csgdb.Proofs.Backpressure
import Csgdb.Proofs.WriteAccounting

namespace Csgdb.Pool

open Storage

variable {Data Value : Type} {pool : PoolConfiguration Data}

/-! ## The pool under the watch -/

/-- Without its stores a watched step is a step of the pool, or none. -/
theorem WatchStep.move {watched next : Watched Data Value}
    (step : WatchStep pool watched next) :
    Move pool watched.system next.system ∨ next.system = watched.system := by
  cases step with
  | thread order step notified => exact .inl (.step (.thread step notified))
  | writer step notified => exact .inl (.step (.writer step notified))
  | stores left => exact .inr rfl
  | disturbance disturbance => exact .inl (.disturbance disturbance)

theorem Watches.reaches {watched next : Watched Data Value}
    (run : Watches pool watched next) : Reaches pool watched.system next.system := by
  induction run with
  | refl => exact .refl
  | tail _ step inductionHypothesis =>
      rcases step.move with move | same
      · exact inductionHypothesis.tail move
      · rw [same]
        exact inductionHypothesis

/-! ## Leases -/

/-- The counter of leases is their number. -/
def ActiveCounted (state : System Data Value) : Prop :=
  state.shared.readers.active = state.total Thread.leases

theorem ThreadStep.active_moves {shared shared' : Shared Data Value}
    {thread thread' : Thread Data Value} {notice : Notice}
    (step : ThreadStep pool shared thread shared' thread' notice)
    (counted : thread.leases ≤ shared.readers.active) :
    shared'.readers.active + thread.leases = shared.readers.active + thread'.leases := by
  cases step with
  | checkedOut wants taken =>
      simp only [Thread.leases, ReadPool.checkout_active taken, List.length_cons]
      omega
  | returns place inside =>
      simp only [Thread.leases, inside, List.length_cons] at counted
      simp only [Thread.leases, inside, ReadPool.release, List.length_cons]
      omega
  | _ => rfl

theorem ActiveCounted.woken {state next : System Data Value} (counted : ActiveCounted state)
    (woken : List.Forall₂ Woken state.threads next.threads)
    (readers : next.shared.readers = state.shared.readers) : ActiveCounted next := by
  have same : next.total Thread.leases = state.total Thread.leases :=
    sum_of_woken woken fun woken => by rw [Thread.leases, Thread.leases, woken.stack_eq]
  unfold ActiveCounted
  rw [readers, same]
  exact counted

theorem ActiveCounted.notified {notice : Notice} {state next : System Data Value}
    (counted : ActiveCounted state) (notified : Notified notice state next) :
    ActiveCounted next := by
  apply counted.woken notified.woken
  rw [notified.shared_eq.1]

theorem ActiveCounted.move {state next : System Data Value} (counted : ActiveCounted state)
    (move : Move pool state next) : ActiveCounted next := by
  cases move with
  | disturbance disturbance =>
      apply counted.woken disturbance.woken
      cases disturbance <;> rfl
  | step step =>
      cases step with
      | @thread shared shared' before after thread thread' notice next step notified =>
          unfold ActiveCounted at counted
          rw [total_middle] at counted
          have moved := step.active_moves (by rw [counted]; exact Nat.le_add_right _ _)
          apply ActiveCounted.notified _ notified
          unfold ActiveCounted
          rw [total_middle]
          simp only [System.total] at counted ⊢
          omega
      | writer step notified =>
          obtain ⟨sameReaders, sameLeases⟩ := step.leases_eq
          apply ActiveCounted.notified _ notified
          unfold ActiveCounted at counted ⊢
          rw [sameReaders]
          simp only [System.total, List.map_cons, sameLeases] at counted ⊢
          exact counted

theorem ActiveCounted.reaches {state next : System Data Value}
    (counted : ActiveCounted state) (run : Reaches pool state next) :
    ActiveCounted next := by
  induction run with
  | refl => exact counted
  | tail _ move inductionHypothesis => exact inductionHypothesis.move move

/-! ## Counters that grow -/

/-- Jobs are completed and automatic checkpoints counted, every one of the latter as a
checkpoint too. -/
structure PoolMetrics.Follows (before after : PoolMetrics) : Prop where
  completed : before.writeJobsCompleted ≤ after.writeJobsCompleted
  automatic : before.automaticCheckpointRuns ≤ after.automaticCheckpointRuns
  checkpoints : after.automaticCheckpointRuns + before.checkpointRuns ≤
    before.automaticCheckpointRuns + after.checkpointRuns

namespace PoolMetrics.Follows

theorem refl (metrics : PoolMetrics) : Follows metrics metrics :=
  ⟨Nat.le_refl _, Nat.le_refl _, Nat.le_refl _⟩

/-- Counters of other things do not matter. -/
theorem of_eq {before after : PoolMetrics}
    (completed : after.writeJobsCompleted = before.writeJobsCompleted)
    (automatic : after.automaticCheckpointRuns = before.automaticCheckpointRuns)
    (checkpoints : after.checkpointRuns = before.checkpointRuns) : Follows before after := by
  refine ⟨Nat.le_of_eq completed.symm, Nat.le_of_eq automatic.symm, ?_⟩
  rw [automatic, checkpoints]

theorem recordCheckpoint (result : CheckpointResult) (automatic : Bool)
    (runtime : WriterRuntime) (metrics : PoolMetrics) :
    Follows metrics (runtime.recordCheckpoint result automatic metrics).2 := by
  cases automatic with
  | false =>
      refine ⟨Nat.le_refl _, Nat.le_refl _, ?_⟩
      show metrics.automaticCheckpointRuns + metrics.checkpointRuns ≤
        metrics.automaticCheckpointRuns + (metrics.checkpointRuns + 1)
      omega
  | true =>
      refine ⟨Nat.le_refl _, Nat.le_succ _, ?_⟩
      show metrics.automaticCheckpointRuns + 1 + metrics.checkpointRuns ≤
        metrics.automaticCheckpointRuns + (metrics.checkpointRuns + 1)
      omega

theorem afterWrite (checkpoint : Result CheckpointResult) (runtime : WriterRuntime)
    (metrics : PoolMetrics) : Follows metrics (runtime.afterWrite checkpoint metrics).2 := by
  unfold WriterRuntime.afterWrite WriterRuntime.afterWriteProgram
  by_cases enabled : (!runtime.maintenance.enabled) = true
  · rw [if_pos enabled]
    exact refl metrics
  · rw [if_neg enabled]
    dsimp only
    split
    · exact refl metrics
    · cases checkpoint with
      | ok result => exact recordCheckpoint result true _ metrics
      | error error => exact of_eq rfl rfl rfl

theorem perform (operation : Maintenance) (checkpointed : Result CheckpointResult)
    (changed : Result Unit) (writer : Writer Data) :
    Follows writer.metrics (operation.perform checkpointed changed writer).1.metrics := by
  cases operation with
  | checkpointDatabase name mode =>
      cases checkpointed with
      | ok result => exact recordCheckpoint result false writer.runtime writer.metrics
      | error error => exact refl writer.metrics
  | setWalAutocheckpoint | setAutomaticWalMaintenance options =>
      cases changed <;> exact of_eq rfl rfl rfl

end PoolMetrics.Follows

/-- A step of the writer lets the counters grow. -/
theorem WriterStep.follows {shared shared' : Shared Data Value}
    {thread thread' : Thread Data Value} {notice : Notice}
    (step : WriterStep pool shared thread shared' thread' notice) :
    shared.writer.metrics.Follows shared'.writer.metrics := by
  cases step with
  | @pops _ _ taken expired place awake popped => cases taken <;> exact .of_eq rfl rfl rfl
  | @collects _ _ _ _ taken place resumes collected =>
      cases taken <;> exact .of_eq rfl rfl rfl
  | @maintained operation channel writer response checkpointed changed place performed =>
      have grows :=
        PoolMetrics.Follows.perform operation checkpointed changed shared.writer
      rw [performed] at grows
      exact grows
  | @committed group connection metrics completion place executed =>
      have same : (shared.writer.metrics.groupStarted group.length).completed group.length =
          metrics := congrArg (fun result => result.2.1) executed
      dsimp only
      rw [← same]
      exact ⟨Nat.le_add_right _ _, Nat.le_refl _, Nat.le_refl _⟩
  | @maintains due uncounted responses automatic place =>
      cases due with
      | true => exact .afterWrite automatic shared.writer.runtime shared.writer.metrics
      | false => exact .refl _
  | counts place => exact ⟨Nat.le_add_right _ _, Nat.le_refl _, Nat.le_refl _⟩
  | _ => exact .refl _

/-- The other threads touch neither of these counters. -/
theorem ThreadStep.counters_eq {shared shared' : Shared Data Value}
    {thread thread' : Thread Data Value} {notice : Notice}
    (step : ThreadStep pool shared thread shared' thread' notice) :
    shared'.writer.metrics.writeJobsCompleted = shared.writer.metrics.writeJobsCompleted ∧
    shared'.writer.metrics.automaticCheckpointRuns =
      shared.writer.metrics.automaticCheckpointRuns ∧
    shared'.writer.metrics.checkpointRuns = shared.writer.metrics.checkpointRuns := by
  cases step with
  | @refusedReturns channel error resume place =>
      simp only [Shared.updateMetrics, PoolMetrics.rejected]
      split <;> exact ⟨rfl, rfl, rfl⟩
  | _ => exact ⟨rfl, rfl, rfl⟩

theorem Notified.metrics_eq {notice : Notice} {state next : System Data Value}
    (notified : Notified notice state next) :
    next.shared.writer.metrics = state.shared.writer.metrics := by
  rw [notified.shared_eq.1]

/-- Every checkpoint is counted before it is counted as an automatic one. -/
structure WatchKept (watched : Watched Data Value) : Prop where
  ordered : watched.before.automaticCheckpointRuns ≤ watched.before.checkpointRuns
  follows : watched.before.Follows watched.system.shared.writer.metrics

namespace WatchKept

variable {watched next : Watched Data Value}

/-- Steps that leave the counters of the writer alone. -/
theorem of_eq (kept : WatchKept watched) (before : next.before = watched.before)
    (completed : next.system.shared.writer.metrics.writeJobsCompleted =
      watched.system.shared.writer.metrics.writeJobsCompleted)
    (automatic : next.system.shared.writer.metrics.automaticCheckpointRuns =
      watched.system.shared.writer.metrics.automaticCheckpointRuns)
    (checkpoints : next.system.shared.writer.metrics.checkpointRuns =
      watched.system.shared.writer.metrics.checkpointRuns) : WatchKept next := by
  obtain ⟨ordered, completes, grows, counts⟩ := kept
  constructor
  · rw [before]
    exact ordered
  · rw [before]
    refine ⟨?_, ?_, ?_⟩
    · rw [completed]
      exact completes
    · rw [automatic]
      exact grows
    · rw [automatic, checkpoints]
      exact counts

theorem step (kept : WatchKept watched) (step : WatchStep pool watched next) :
    WatchKept next := by
  cases step with
  | thread order step notified =>
      obtain ⟨completed, automatic, checkpoints⟩ := step.counters_eq
      have same := notified.metrics_eq
      refine kept.of_eq ?_ ?_ ?_ ?_
      · rfl
      · exact (congrArg _ same).trans completed
      · exact (congrArg _ same).trans automatic
      · exact (congrArg _ same).trans checkpoints
  | writer step notified =>
      obtain ⟨ordered, completes, grows, counts⟩ := kept
      constructor
      · dsimp only at ordered grows counts ⊢
        omega
      · dsimp only
        rw [notified.metrics_eq]
        exact step.follows
  | stores left => exact kept.of_eq rfl rfl rfl rfl
  | disturbance disturbance => cases disturbance <;> exact kept.of_eq rfl rfl rfl rfl

theorem watches (kept : WatchKept watched) (run : Watches pool watched next) :
    WatchKept next := by
  induction run with
  | refl => exact kept
  | tail _ step inductionHypothesis => exact inductionHypothesis.step step

theorem initial {options : WalMaintenanceOptions} {connection : Connection Data}
    {clients : List (Thread Data Value)} {idle : Value} :
    WatchKept (.initial (System.initial pool (.new options connection) clients idle)) where
  ordered := Nat.le_refl 0
  follows := .refl _

/-- A load that comes later sees no fewer checkpoints than automatic ones. -/
theorem automatic_le (kept : WatchKept watched) :
    watched.visible.automaticCheckpointRuns ≤ watched.visible.checkpointRuns := by
  obtain ⟨ordered, -, grows, counts⟩ := kept
  simp only [Watched.visible, PoolMetrics.partway]
  split <;> split <;> omega

/-- What is visible of the completed jobs is not ahead of the writer. -/
theorem completed_le (kept : WatchKept watched) :
    watched.visible.writeJobsCompleted ≤
      watched.system.shared.writer.metrics.writeJobsCompleted := by
  simp only [Watched.visible, PoolMetrics.partway]
  split
  · exact Nat.le_refl _
  · exact kept.follows.completed

/-- The visible count of automatic checkpoints grows. -/
theorem automatic_mono (kept : WatchKept watched) (step : WatchStep pool watched next) :
    watched.visible.automaticCheckpointRuns ≤ next.visible.automaticCheckpointRuns := by
  have grows := kept.follows.automatic
  cases step with
  | thread order step notified =>
      simp only [Watched.visible, PoolMetrics.partway, notified.metrics_eq,
        step.counters_eq.2.1]
      exact Nat.le_refl _
  | writer step notified => exact Nat.le_refl _
  | stores left =>
      simp only [Watched.visible, PoolMetrics.partway]
      dsimp only at grows
      split <;> split <;> omega
  | disturbance disturbance => cases disturbance <;> exact Nat.le_refl _

theorem automatic_watches (kept : WatchKept watched) (run : Watches pool watched next) :
    watched.visible.automaticCheckpointRuns ≤ next.visible.automaticCheckpointRuns := by
  induction run with
  | refl => exact Nat.le_refl _
  | tail earlier step inductionHypothesis =>
      exact Nat.le_trans inductionHypothesis ((kept.watches earlier).automatic_mono step)

end WatchKept

/-! ## The loads of a call -/

/-- What a consistent view of the pool satisfies. -/
structure PoolStats.Consistent (stats : PoolStats) : Prop where
  readers : stats.availableReaders + stats.activeReaders = stats.readerCapacity
  jobs : stats.writeJobsCompleted ≤ stats.writeJobsSubmitted
  queue : stats.queuedWrites ≤ stats.writeQueueCapacity
  checkpoints : stats.automaticCheckpointRuns ≤ stats.checkpointRuns

namespace Watched

variable (watched : Watched Data Value)

/-- The jobs that are queued, or dequeued and not visibly counted as completed. -/
def outstanding : Nat :=
  watched.system.shared.queue.jobs.length + watched.system.shared.phase.uncounted +
    (watched.system.shared.writer.metrics.writeJobsCompleted -
      watched.visible.writeJobsCompleted)

/-- The checkpoints that were counted and not, or not yet, counted as automatic. -/
def requestedCheckpoints : Nat :=
  watched.visible.checkpointRuns - watched.visible.automaticCheckpointRuns

end Watched

/-- Between the two loads of the readers as many connections were checked out as given
back; the jobs that were pushed and not counted when the submitted jobs were loaded, and
those pushed up to the load of the completed ones, are not all done by then; and between
its two loads no more automatic checkpoints were counted than others before. -/
structure StatsInstants.Settled (instants : StatsInstants Data Value) : Prop where
  readers : instants.activeReaders.system.total Thread.leases =
    instants.availableReaders.system.total Thread.leases
  jobs : instants.writeJobsSubmitted.system.total Thread.unannounced +
      (instants.writeJobsCompleted.system.shared.admitted.length -
        instants.writeJobsSubmitted.system.shared.admitted.length) ≤
    instants.writeJobsCompleted.outstanding
  checkpoints : instants.automaticCheckpointRuns.visible.automaticCheckpointRuns -
      instants.checkpointRuns.visible.automaticCheckpointRuns ≤
    instants.checkpointRuns.requestedCheckpoints

/-- What holds at every instant of a run. -/
structure Watched.Sound (pool : PoolConfiguration Data) (watched : Watched Data Value) :
    Prop where
  leases : watched.system.shared.readers.connections.length +
    watched.system.total Thread.leases = pool.readConnections
  active : ActiveCounted watched.system
  queue : watched.system.shared.queue.jobs.length ≤ pool.writeQueueCapacity
  counted : Counted watched.system
  recorded : Recorded watched.system
  kept : WatchKept watched

theorem Watched.Sound.of_watches {options : WalMaintenanceOptions}
    {connection : Connection Data} {clients : List (Thread Data Value)} {idle : Value}
    (fresh : ∀ thread ∈ clients, thread.IsClient) {watched : Watched Data Value}
    (run : Watches pool
      (.initial (System.initial pool (.new options connection) clients idle)) watched) :
    watched.Sound pool := by
  have ordered : Ordered pool _ (System.initial pool (.new options connection) clients idle) :=
    Ordered.initial fresh
  have noLease : ActiveCounted (System.initial pool (.new options connection) clients idle) := by
    unfold ActiveCounted
    rw [total_initial fresh Thread.leases fun _ _ _ => rfl]
    rfl
  have reached := run.reaches
  constructor
  · exact (((@Attentive.initial _ _ pool (.new options connection) _ idle)
      fresh).reaches ordered reached).leases
  · exact noLease.reaches reached
  · exact ((@Bounded.initial _ _ pool (.new options connection) clients idle).reaches
      reached).queue
  · exact ((@Counted.initial _ _ pool options connection _ idle) fresh).reaches ordered reached
  · exact ((@Recorded.initial _ _ pool) fresh).reaches ordered reached
  · exact WatchKept.initial.watches run

/-- What was pushed is visibly completed, or outstanding. -/
theorem Watched.Sound.completed_eq {watched : Watched Data Value}
    (sound : watched.Sound pool) :
    watched.visible.writeJobsCompleted + watched.outstanding =
      watched.system.shared.admitted.length := by
  have balance := sound.counted.balance sound.recorded
  have submitted := sound.counted.submitted
  have behind := sound.kept.completed_le
  unfold Watched.outstanding
  omega

/-! ## Calls -/

/-- The loads of the readers fit together when the leases are as many as before. -/
theorem readers_consistent_iff {first second : Watched Data Value}
    (earlier : first.Sound pool) (later : second.Sound pool) :
    first.system.shared.readers.connections.length + second.system.shared.readers.active =
        pool.readConnections ↔
      second.system.total Thread.leases = first.system.total Thread.leases := by
  have free := earlier.leases
  have active := later.active
  unfold ActiveCounted at active
  omega

/-- The loads of the jobs fit together when enough of them are outstanding. -/
theorem jobs_consistent_iff {first second : Watched Data Value}
    (earlier : first.Sound pool) (later : second.Sound pool)
    (run : Watches pool first second) :
    second.visible.writeJobsCompleted ≤ first.visible.writeJobsSubmitted ↔
      first.system.total Thread.unannounced +
          (second.system.shared.admitted.length - first.system.shared.admitted.length) ≤
        second.outstanding := by
  have submitted := earlier.counted.submitted
  have completed := later.completed_eq
  have pushed := (Grows.reaches run.reaches).admitted.length_le
  have sees : first.visible.writeJobsSubmitted =
      first.system.shared.writer.metrics.writeJobsSubmitted := rfl
  omega

/-- The loads of the checkpoints fit together when those between them are made up for. -/
theorem checkpoints_consistent_iff {first second : Watched Data Value}
    (earlier : first.Sound pool) (run : Watches pool first second) :
    second.visible.automaticCheckpointRuns ≤ first.visible.checkpointRuns ↔
      second.visible.automaticCheckpointRuns - first.visible.automaticCheckpointRuns ≤
        first.requestedCheckpoints := by
  have grown := earlier.kept.automatic_watches run
  have ordered := earlier.kept.automatic_le
  unfold Watched.requestedCheckpoints
  omega

instance : Trans (@Watches Data Value pool) (@Watches Data Value pool)
    (@Watches Data Value pool) :=
  ⟨Relation.ReflTransGen.trans⟩

/-- Loads come one after another. -/
theorem StatsInstants.Called.runs {start : Watched Data Value}
    {instants : StatsInstants Data Value} (called : instants.Called pool start) :
    Watches pool start instants.availableReaders ∧
    Watches pool start instants.activeReaders ∧
    Watches pool start instants.queuedWrites ∧
    Watches pool start instants.writeJobsSubmitted ∧
    Watches pool instants.writeJobsSubmitted instants.writeJobsCompleted ∧
    Watches pool start instants.checkpointRuns ∧
    Watches pool instants.checkpointRuns instants.automaticCheckpointRuns := by
  have ordered := List.pairwise_iff_getElem.mp (List.isChain_iff_pairwise.mp called)
  have after (first second : Nat) (below : second < 21) (order : first < second) :=
    ordered first second (Nat.lt_trans order below) below order
  exact ⟨after 0 1 (by decide) (by decide), after 0 2 (by decide) (by decide),
    after 0 4 (by decide) (by decide), after 0 6 (by decide) (by decide),
    after 6 7 (by decide) (by decide), after 0 12 (by decide) (by decide),
    after 12 13 (by decide) (by decide)⟩

/-- In every interleaving `stats()` returns a consistent view exactly when what happened
between its loads was settled. -/
theorem stats_consistent_iff (pool : PoolConfiguration Data)
    (options : WalMaintenanceOptions) (connection : Connection Data) (idle : Value)
    (clients : List (Thread Data Value)) (fresh : ∀ thread ∈ clients, thread.IsClient)
    (cacheBytesPerConnection : Nat) (instants : StatsInstants Data Value)
    (called : instants.Called pool
      (.initial (System.initial pool (.new options connection) clients idle))) :
    (instants.stats pool cacheBytesPerConnection).Consistent ↔ instants.Settled := by
  obtain ⟨toFree, toActive, toQueue, toSubmitted, toCompleted, toCheckpoints, toAutomatic⟩ :=
    called.runs
  have sound {watched : Watched Data Value} (run : Watches pool
      (.initial (System.initial pool (.new options connection) clients idle)) watched) :
      watched.Sound pool := .of_watches fresh run
  have readers := readers_consistent_iff (sound toFree) (sound toActive)
  have jobs := jobs_consistent_iff (sound toSubmitted)
    (sound (toSubmitted.trans toCompleted)) toCompleted
  have checkpoints := checkpoints_consistent_iff (sound toCheckpoints) toAutomatic
  constructor
  · intro consistent
    exact ⟨readers.mp consistent.readers, jobs.mp consistent.jobs,
      checkpoints.mp consistent.checkpoints⟩
  · intro settled
    exact ⟨readers.mpr settled.readers, jobs.mpr settled.jobs, (sound toQueue).queue,
      checkpoints.mpr settled.checkpoints⟩

/-! ## One reader -/

/-- A call that reads the free connections at one instant and the rest at another. -/
def StatsInstants.torn (first rest : Watched Data Value) : StatsInstants Data Value where
  availableReaders := first
  activeReaders := rest
  rejectedReadCheckouts := rest
  queuedWrites := rest
  writerActive := rest
  writeJobsSubmitted := rest
  writeJobsCompleted := rest
  writeJobsRejected := rest
  groupCommitTransactions := rest
  groupedWriteJobs := rest
  largestGroupCommit := rest
  checkpointRuns := rest
  automaticCheckpointRuns := rest
  incompleteCheckpoints := rest
  maintenanceFailures := rest
  walPressureEvents := rest
  walPressureActive := rest
  automaticMaintenanceEnabled := rest
  lastObservedWalFrames := rest
  lastRemainingWalFrames := rest

theorem StatsInstants.torn_called {first rest : Watched Data Value}
    (run : Watches pool first rest) : (torn first rest).Called pool first := by
  have stays : Watches pool rest rest := .refl
  have starts : Watches pool first first := .refl
  simp only [Called, torn, List.isChain_cons_cons, List.IsChain.singleton, run, stays, starts,
    and_self]

def readingPool : System Nat Nat :=
  System.initial smallPool smallPoolWriter sleepingClients 0

/-- A step of the thread behind the threads `before`, while nothing is left to store. -/
theorem WatchStep.ofThread {pool : PoolConfiguration Nat} {shared shared' : Shared Nat Nat}
    {after : List (Thread Nat Nat)} {thread thread' : Thread Nat Nat} {notice : Notice}
    {next : System Nat Nat} {metrics : PoolMetrics} (before : List (Thread Nat Nat))
    (step : ThreadStep pool shared thread shared' thread' notice)
    (notified : Notified notice ⟨shared', before ++ thread' :: after⟩ next) :
    WatchStep pool ⟨⟨shared, before ++ thread :: after⟩, metrics, storeCount⟩
      ⟨next, metrics, storeCount⟩ :=
  .thread (.inl rfl) step notified

/-- A read checks the one connection of the pool out. -/
theorem readingPool_runs :
    ∃ later, Watches smallPool (.initial readingPool) later ∧
      later.system.shared.readers.active = 1 := by
  refine ⟨?later, ?run, ?active⟩
  case run =>
    refine .head (WatchStep.ofThread [_] (.readEntered rfl rfl rfl) (.nothing _)) ?_
    refine .head (WatchStep.ofThread [_] (.checkedOut rfl rfl) (.nothing _)) ?_
    exact .refl
  case active => rfl

/-- The connection is checked out between the two loads of the readers, and is then counted
both as available and as active. -/
theorem stats_sees_a_reader_twice :
    ∃ instants : StatsInstants Nat Nat, instants.Called smallPool (.initial readingPool) ∧
      (instants.stats smallPool 0).availableReaders = 1 ∧
      (instants.stats smallPool 0).activeReaders = 1 ∧
      ¬ (instants.stats smallPool 0).Consistent := by
  obtain ⟨later, run, active⟩ := readingPool_runs
  refine ⟨.torn _ later, StatsInstants.torn_called run, rfl, active, ?_⟩
  intro consistent
  have together := consistent.readers
  have seen : ((StatsInstants.torn (.initial readingPool) later).stats smallPool
      0).activeReaders = 1 := active
  rw [seen] at together
  cases together

/-- Such a call is one of those that the equivalence is about. -/
theorem stats_while_reading :
    ∃ instants : StatsInstants Nat Nat, instants.Called smallPool (.initial readingPool) ∧
      (instants.stats smallPool 0).activeReaders = 1 ∧
      ((instants.stats smallPool 0).Consistent ↔ instants.Settled) := by
  obtain ⟨later, run, active⟩ := readingPool_runs
  have called := StatsInstants.torn_called run
  exact ⟨.torn _ later, called, active,
    stats_consistent_iff smallPool _ _ 0 sleepingClients sleepingClients_areClients 0 _ called⟩

end Csgdb.Pool
