/-
Module: Csgdb.Proofs.WriteAccounting
Purpose: The job counters of a pool against its queue, its writer and its submitters, in
  every interleaving.
Trusted boundary: the counters do not reach the end of their range.
Main exports: PoolMetrics.jobs, Thread.unannounced, Thread.rejecting, WriterPhase.ran,
  Counted, Counted.reaches, WriteAccounting, write_jobs_accounted
-/
import Csgdb.Proofs.SerialWrites

namespace Csgdb.Pool

open Storage

variable {Data Value : Type} {pool : PoolConfiguration Data}

/-! ## What is not counted yet -/

/-- The submitter has pushed its job and not yet counted it. -/
def Thread.unannounced (thread : Thread Data Value) : Nat :=
  match thread.control with
  | .accepted _ _ => 1
  | _ => 0

/-- The errors of a push that found no room. -/
def overCapacity (error : Error) : Bool :=
  decide (error.code = .writeQueueFull ∨ error.code = .writeQueueTimeout)

/-- The submitter found no room and has not yet counted that. -/
def Thread.rejecting (thread : Thread Data Value) : Nat :=
  match thread.control with
  | .refused _ error _ => if overCapacity error then 1 else 0
  | _ => 0

/-- The jobs that the writer has run to their end and not yet counted. -/
def WriterPhase.ran : WriterPhase Data Value → Nat
  | .written _ uncounted _ => uncounted
  | .counting uncounted _ => uncounted
  | _ => 0

theorem Woken.unannounced_eq {thread thread' : Thread Data Value}
    (woken : Woken thread thread') : thread'.unannounced = thread.unannounced := by
  cases woken with
  | untouched => rfl
  | reader => unfold Thread.wakeReader; split <;> simp_all [Thread.unannounced]
  | submitter => unfold Thread.wakeSubmitter; split <;> simp_all [Thread.unannounced]

theorem Woken.rejecting_eq {thread thread' : Thread Data Value}
    (woken : Woken thread thread') : thread'.rejecting = thread.rejecting := by
  cases woken with
  | untouched => rfl
  | reader => unfold Thread.wakeReader; split <;> simp_all [Thread.rejecting]
  | submitter => unfold Thread.wakeSubmitter; split <;> simp_all [Thread.rejecting]

theorem Thread.unannounced_eq_zero (thread : Thread Data Value)
    (outside : thread.control.place ≠ .submission) : thread.unannounced = 0 := by
  unfold unannounced
  cases control : thread.control with
  | accepted =>
      rw [control] at outside
      exact absurd rfl outside
  | _ => rfl

theorem WriterPhase.wake_ran (phase : WriterPhase Data Value) :
    phase.wake.ran = phase.ran := by
  unfold WriterPhase.wake
  split <;> rfl

theorem WriterPhase.ran_ofTaken
    (taken : WriteQueue.Taken (ExclusiveOperation Data Value) Data Nat) :
    (WriterPhase.ofTaken taken).ran = 0 := by
  cases taken with
  | exclusive operation channel => cases operation <;> rfl
  | _ => rfl

/-! ## The counters of jobs -/

/-- The counters of submitted, completed and rejected jobs. -/
def PoolMetrics.jobs (metrics : PoolMetrics) : Nat × Nat × Nat :=
  (metrics.writeJobsSubmitted, metrics.writeJobsCompleted, metrics.writeJobsRejected)

theorem PoolMetrics.jobs_inj {metrics other : PoolMetrics} (same : metrics.jobs = other.jobs) :
    metrics.writeJobsSubmitted = other.writeJobsSubmitted ∧
      metrics.writeJobsCompleted = other.writeJobsCompleted ∧
      metrics.writeJobsRejected = other.writeJobsRejected := by
  simpa only [PoolMetrics.jobs, Prod.mk.injEq] using same

/-- Maintenance counts no job. -/
theorem afterWrite_jobs (checkpoint : Result CheckpointResult) (runtime : WriterRuntime)
    (metrics : PoolMetrics) : (runtime.afterWrite checkpoint metrics).2.jobs = metrics.jobs := by
  unfold WriterRuntime.afterWrite WriterRuntime.afterWriteProgram
  by_cases enabled : (!runtime.maintenance.enabled) = true
  · rw [if_pos enabled]
    rfl
  · rw [if_neg enabled]
    dsimp only
    split
    · rfl
    · cases checkpoint <;> rfl

theorem Writer.afterWrite_jobs (automatic : Result CheckpointResult)
    (writer : Writer Data) :
    (writer.afterWrite automatic).metrics.jobs = writer.metrics.jobs :=
  Pool.afterWrite_jobs automatic writer.runtime writer.metrics

theorem Maintenance.perform_jobs (operation : Maintenance)
    (checkpointed : Result CheckpointResult) (changed : Result Unit)
    (writer : Writer Data) :
    (operation.perform checkpointed changed writer).1.metrics.jobs =
      writer.metrics.jobs := by
  cases operation <;> cases checkpointed <;> cases changed <;> rfl

theorem Writer.receives_jobs (writer : Writer Data)
    (taken : WriteQueue.Taken (ExclusiveOperation Data Value) Data Nat) :
    (writer.receives taken).metrics.jobs = writer.metrics.jobs := by
  cases taken <;> rfl

/-- A group is counted as a whole, whatever became of it. -/
theorem executeGroupCommit_jobs {engine : TransactionEngine Data}
    {group : List (GroupableWrite Data Nat)} {connection after : Connection Data}
    {metrics counted : PoolMetrics} {completion : GroupCommitCompletion Nat}
    (executed : executeGroupCommit engine group connection metrics =
      (after, counted, completion)) :
    counted.jobs = (metrics.writeJobsSubmitted, metrics.writeJobsCompleted + group.length,
      metrics.writeJobsRejected) := by
  have same : (metrics.groupStarted group.length).completed group.length = counted :=
    congrArg (fun result => result.2.1) executed
  rw [← same]
  rfl

theorem PoolMetrics.rejected_jobs (error : Error) (metrics : PoolMetrics) :
    (PoolMetrics.rejected error metrics).jobs =
      (metrics.writeJobsSubmitted, metrics.writeJobsCompleted,
        metrics.writeJobsRejected + if overCapacity error then 1 else 0) := by
  unfold PoolMetrics.rejected overCapacity
  by_cases full : error.code = .writeQueueFull ∨ error.code = .writeQueueTimeout
  · rw [if_pos full, decide_eq_true full]
    rfl
  · rw [if_neg full, decide_eq_false full]
    rfl

/-! ## Steps -/

/-- Every job that was pushed is counted as submitted, but for those of submitters that
are just about to count it; and so on for the other counters. -/
structure Counted (state : System Data Value) : Prop where
  submitted : state.shared.writer.metrics.writeJobsSubmitted +
    state.total Thread.unannounced = state.shared.admitted.length
  completed : state.shared.writer.metrics.writeJobsCompleted + state.shared.phase.ran =
    state.shared.handled.length
  rejected : state.shared.writer.metrics.writeJobsRejected +
    state.total Thread.rejecting =
      state.shared.refused.countP fun entry => overCapacity entry.2
  ran_le : state.shared.phase.ran ≤ state.shared.phase.unsent.length

/-- A step of a thread counts what it leaves behind. -/
theorem ThreadStep.counts {shared shared' : Shared Data Value}
    {thread thread' : Thread Data Value} {notice : Notice}
    (step : ThreadStep pool shared thread shared' thread' notice) :
    shared'.writer.metrics.writeJobsSubmitted + thread'.unannounced +
        shared.admitted.length =
      shared.writer.metrics.writeJobsSubmitted + thread.unannounced +
        shared'.admitted.length ∧
    shared'.writer.metrics.writeJobsCompleted = shared.writer.metrics.writeJobsCompleted ∧
    shared'.writer.metrics.writeJobsRejected + thread'.rejecting +
        (shared.refused.countP fun entry => overCapacity entry.2) =
      shared.writer.metrics.writeJobsRejected + thread.rejecting +
        shared'.refused.countP fun entry => overCapacity entry.2 := by
  cases step with
  | submitRefused place submits nested =>
      have notFull : overCapacity reentrantWrite = false := rfl
      simp [Thread.unannounced, Thread.rejecting, Thread.goesOn, place, notFull]
  | accepted place attempt pushed =>
      simp only [Thread.unannounced, Thread.rejecting, place, List.length_append,
        List.length_singleton, and_true]
      omega
  | refused place attempt pushed =>
      simp only [Thread.unannounced, Thread.rejecting, place, List.countP_append,
        List.countP_singleton, true_and]
      omega
  | @refusedReturns channel error resume place =>
      have counted := PoolMetrics.rejected_jobs error shared.writer.metrics
      simp only [PoolMetrics.jobs, Prod.mk.injEq] at counted
      simp only [Thread.unannounced, Thread.rejecting, Thread.goesOn, Shared.updateMetrics,
        place, counted, true_and]
      omega
  | countsSubmitted place =>
      simp only [Thread.unannounced, Thread.rejecting, Shared.updateMetrics,
        PoolMetrics.submitted, place, and_true]
  | checkedOut wants taken =>
      have silent : thread.unannounced = 0 ∧ thread.rejecting = 0 := by
        unfold Thread.wantsReader at wants
        split at wants <;> simp_all [Thread.unannounced, Thread.rejecting]
      rw [silent.1, silent.2]
      exact ⟨rfl, rfl, rfl⟩
  | @readEntered _ _ _ blocking pools place reads entered =>
      cases blocking <;> simp [Thread.unannounced, Thread.rejecting, place]
  | _ => simp_all [Thread.unannounced, Thread.rejecting, Thread.goesOn]

/-- A step of the writer counts every job that it runs to its end, at that step or at a
later one before the answers. -/
theorem WriterStep.counts_jobs {shared shared' : Shared Data Value}
    {thread thread' : Thread Data Value} {notice : Notice}
    (step : WriterStep pool shared thread shared' thread' notice) :
    shared'.writer.metrics.writeJobsSubmitted = shared.writer.metrics.writeJobsSubmitted ∧
    shared'.writer.metrics.writeJobsRejected = shared.writer.metrics.writeJobsRejected ∧
    shared'.writer.metrics.writeJobsCompleted + shared'.phase.ran + shared.handled.length =
      shared.writer.metrics.writeJobsCompleted + shared.phase.ran +
        shared'.handled.length := by
  cases step with
  | @pops _ _ taken expired place awake popped =>
      obtain ⟨submitted, completed, rejected⟩ :=
        PoolMetrics.jobs_inj (Writer.receives_jobs shared.writer taken)
      refine ⟨submitted, rejected, ?_⟩
      rw [completed, WriterPhase.ran_ofTaken, place]
      rfl
  | @collects _ _ _ _ taken place resumes collected =>
      obtain ⟨submitted, completed, rejected⟩ :=
        PoolMetrics.jobs_inj (Writer.receives_jobs shared.writer taken)
      refine ⟨submitted, rejected, ?_⟩
      rw [completed, WriterPhase.ran_ofTaken, place]
      rfl
  | called place ended outside =>
      refine ⟨rfl, rfl, ?_⟩
      simp only [place, WriterPhase.ran, List.length_append, List.length_singleton]
      omega
  | @maintained operation channel writer response checkpointed changed place performed =>
      have same := operation.perform_jobs checkpointed changed shared.writer
      rw [performed] at same
      obtain ⟨submitted, completed, rejected⟩ :=
        PoolMetrics.jobs_inj (show writer.metrics.jobs = shared.writer.metrics.jobs from same)
      refine ⟨submitted, rejected, ?_⟩
      simp only [completed, place, WriterPhase.ran, List.length_append,
        List.length_singleton]
      omega
  | @committed group connection metrics completion place executed =>
      have counted := executeGroupCommit_jobs executed
      have answered := congrArg List.length (executeGroupCommit_channels executed)
      simp only [PoolMetrics.jobs, Prod.mk.injEq] at counted
      obtain ⟨submitted, completed, rejected⟩ := counted
      refine ⟨submitted, rejected, ?_⟩
      simp only [List.length_map] at answered
      simp only [completed, place, WriterPhase.ran, groupResponses, List.length_append,
        List.length_zip, List.length_map, answered, Nat.min_self]
      omega
  | @maintains due uncounted responses automatic place =>
      have same : (if due then shared.writer.afterWrite automatic
          else shared.writer).metrics.jobs = shared.writer.metrics.jobs := by
        cases due with
        | true => exact Writer.afterWrite_jobs automatic shared.writer
        | false => rfl
      obtain ⟨submitted, completed, rejected⟩ := PoolMetrics.jobs_inj same
      refine ⟨submitted, rejected, ?_⟩
      simp only [completed, place, WriterPhase.ran]
  | counts place =>
      refine ⟨rfl, rfl, ?_⟩
      simp only [place, WriterPhase.ran, Writer.leavesJob, PoolMetrics.completed]
      omega
  | answers place =>
      refine ⟨rfl, rfl, ?_⟩
      rw [place]
      rfl
  | finishes place =>
      refine ⟨rfl, rfl, ?_⟩
      rw [place]
      rfl

/-- Only answers that were not sent are uncounted. -/
theorem WriterStep.ran_le {shared shared' : Shared Data Value}
    {thread thread' : Thread Data Value} {notice : Notice}
    (step : WriterStep pool shared thread shared' thread' notice)
    (before : shared.phase.ran ≤ shared.phase.unsent.length) :
    shared'.phase.ran ≤ shared'.phase.unsent.length := by
  cases step with
  | pops expired place awake popped => rw [WriterPhase.ran_ofTaken]; exact Nat.zero_le _
  | collects place resumes collected => rw [WriterPhase.ran_ofTaken]; exact Nat.zero_le _
  | called place ended outside => exact Nat.le_refl 1
  | maintained checkpointed changed place performed => exact Nat.le_refl 1
  | maintains automatic place => rw [place] at before; exact before
  | _ => exact Nat.zero_le _

/-! ## The system -/

/-- Waking threads, or the writer, counts nothing. -/
theorem Counted.woken {state next : System Data Value} (counted : Counted state)
    (woken : List.Forall₂ Woken state.threads next.threads)
    (same : next.shared = { state.shared with
      queue := next.shared.queue, phase := next.shared.phase })
    (phase : next.shared.phase = state.shared.phase ∨
      next.shared.phase = state.shared.phase.wake) : Counted next := by
  have sameRan : next.shared.phase.ran = state.shared.phase.ran := by
    rcases phase with same | woken
    · rw [same]
    · rw [woken, WriterPhase.wake_ran]
  have sameUnsent : next.shared.phase.unsent = state.shared.phase.unsent := by
    rcases phase with same | woken
    · rw [same]
    · rw [woken, WriterPhase.wake_unsent]
  have sameUnannounced : next.total Thread.unannounced = state.total Thread.unannounced :=
    sum_of_woken woken Woken.unannounced_eq
  have sameRejecting : next.total Thread.rejecting = state.total Thread.rejecting :=
    sum_of_woken woken Woken.rejecting_eq
  constructor
  · rw [sameUnannounced, same]
    exact counted.submitted
  · rw [sameRan, same]
    exact counted.completed
  · rw [sameRejecting, same]
    exact counted.rejected
  · rw [sameRan, sameUnsent]
    exact counted.ran_le

theorem Counted.notified {notice : Notice} {state next : System Data Value}
    (counted : Counted state) (notified : Notified notice state next) : Counted next := by
  obtain ⟨same, phase⟩ := notified.shared_eq
  have queue : next.shared.queue = state.shared.queue := by rw [same]
  apply counted.woken notified.woken _ phase
  rw [queue]
  exact same

theorem Counted.thread_step {shared shared' : Shared Data Value}
    {before after : List (Thread Data Value)} {thread thread' : Thread Data Value}
    {notice : Notice} {next : System Data Value}
    (counted : Counted ⟨shared, before ++ thread :: after⟩)
    (step : ThreadStep pool shared thread shared' thread' notice)
    (notified : Notified notice ⟨shared', before ++ thread' :: after⟩ next) :
    Counted next := by
  obtain ⟨submitted, completed, rejected⟩ := step.counts
  obtain ⟨wereSubmitted, wereCompleted, wereRejected, ran_le⟩ := counted
  simp only [total_middle] at wereSubmitted wereRejected
  have sameHandled : shared'.handled = shared.handled := by cases step <;> rfl
  apply Counted.notified _ notified
  constructor
  · simp only [total_middle]
    simp only [System.total] at wereSubmitted ⊢
    omega
  · rw [completed, step.phase_eq, sameHandled]
    exact wereCompleted
  · simp only [total_middle]
    simp only [System.total] at wereRejected ⊢
    omega
  · rw [step.phase_eq]
    exact ran_le

/-- A thread that starts a callback was inside of no submission, and is inside of none. -/
theorem WriterStep.uncounted_eq {shared shared' : Shared Data Value}
    {thread thread' : Thread Data Value} {notice : Notice}
    (step : WriterStep pool shared thread shared' thread' notice)
    (rest : shared.phase.isCalling = false → thread.AtRest) :
    thread'.unannounced = thread.unannounced ∧ thread'.rejecting = thread.rejecting := by
  rcases step.thread_cases rest with rfl | ⟨⟨⟨outcome, ended⟩, -⟩, body, rfl⟩
  · exact ⟨rfl, rfl⟩
  · simp [Thread.unannounced, Thread.rejecting, Thread.goesOn, ended]

theorem Counted.writer_step {shared shared' : Shared Data Value}
    {clients : List (Thread Data Value)} {thread thread' : Thread Data Value}
    {notice : Notice} {next : System Data Value}
    (counted : Counted ⟨shared, thread :: clients⟩)
    (rest : shared.phase.isCalling = false → thread.AtRest)
    (step : WriterStep pool shared thread shared' thread' notice)
    (notified : Notified notice ⟨shared', thread' :: clients⟩ next) : Counted next := by
  obtain ⟨sameAdmitted, sameRefused, -, -⟩ := step.records_eq
  obtain ⟨sameUnannounced, sameRejecting⟩ := step.uncounted_eq rest
  obtain ⟨submitted, rejected, completed⟩ := step.counts_jobs
  apply Counted.notified _ notified
  constructor
  · rw [submitted, sameAdmitted]
    simp only [System.total, List.map_cons, sameUnannounced]
    exact counted.submitted
  · have before := counted.completed
    dsimp only at before ⊢
    omega
  · rw [rejected, sameRefused]
    simp only [System.total, List.map_cons, sameRejecting]
    exact counted.rejected
  · exact step.ran_le counted.ran_le

/-- Every move keeps the counters. -/
theorem Counted.move {identities : List (Bool × List Nat)} {state next : System Data Value}
    (counted : Counted state) (ordered : Ordered pool identities state)
    (move : Move pool state next) : Counted next := by
  cases move with
  | disturbance disturbance =>
      have woken := disturbance.woken
      cases disturbance with
      | reader thread => exact counted.woken woken rfl (.inl rfl)
      | submitter thread => exact counted.woken woken rfl (.inl rfl)
      | writer => exact counted.woken woken rfl (.inr rfl)
      | closes => exact counted.woken woken rfl (.inr rfl)
  | step step =>
      cases step with
      | thread step notified => exact counted.thread_step step notified
      | writer step notified =>
          exact counted.writer_step (ordered.rests _ _ rfl) step notified

/-- In every interleaving the counters count. -/
theorem Counted.reaches {identities : List (Bool × List Nat)}
    {state next : System Data Value} (counted : Counted state)
    (ordered : Ordered pool identities state) (run : Reaches pool state next) :
    Counted next := by
  induction run with
  | refl => exact counted
  | tail earlier move inductionHypothesis =>
      exact inductionHypothesis.move (ordered.reaches earlier) move

theorem Counted.initial {options : WalMaintenanceOptions} {connection : Connection Data}
    {clients : List (Thread Data Value)} {idle : Value}
    (fresh : ∀ thread ∈ clients, thread.IsClient) :
    Counted (System.initial pool (.new options connection) clients idle) where
  submitted := by
    rw [total_initial fresh Thread.unannounced fun _ _ _ => rfl]
    rfl
  completed := rfl
  rejected := by
    rw [total_initial fresh Thread.rejecting fun _ _ _ => rfl]
    rfl
  ran_le := Nat.le_refl 0

/-! ## The account -/

/-- The jobs that are dequeued and not yet counted as completed. -/
def WriterPhase.uncounted (phase : WriterPhase Data Value) : Nat :=
  phase.inFlight.length + phase.ran

/-- The counters of jobs in a state of a run. -/
structure WriteAccounting (state : System Data Value) : Prop where
  /-- What was pushed was completed, or is queued, or is in the hands of the writer. -/
  balance : state.shared.writer.metrics.writeJobsSubmitted +
      state.total Thread.unannounced =
    state.shared.writer.metrics.writeJobsCompleted + state.shared.queue.jobs.length +
      state.shared.phase.uncounted
  /-- The completed jobs are the first ones of those that were run, and the job of every
  call that has returned an answer is one of them. -/
  observed : state.shared.writer.metrics.writeJobsCompleted ≤ state.shared.handled.length ∧
    ∀ entry ∈ state.shared.returned,
      entry.1 ∈ state.shared.admitted.map WriteJob.response →
        ∃ place < state.shared.writer.metrics.writeJobsCompleted, ∃ job,
          state.shared.handled[place]? = some (job, entry.2) ∧ job.response = entry.1
  rejected : state.shared.writer.metrics.writeJobsRejected +
      state.total Thread.rejecting =
    state.shared.refused.countP fun entry => overCapacity entry.2
  /-- Between calls everything that was submitted is completed. -/
  idle : (∀ thread ∈ state.threads, thread.control.place ≠ .submission) →
    state.shared.writer.metrics.writeJobsSubmitted =
        state.shared.writer.metrics.writeJobsCompleted ∧
      state.shared.queue.jobs = []

theorem Counted.balance {state : System Data Value} (counted : Counted state)
    (recorded : Recorded state) :
    state.shared.writer.metrics.writeJobsSubmitted + state.total Thread.unannounced =
      state.shared.writer.metrics.writeJobsCompleted + state.shared.queue.jobs.length +
        state.shared.phase.uncounted := by
  have submitted := counted.submitted
  have completed := counted.completed
  have jobs := congrArg List.length recorded.jobs
  simp only [List.length_append, List.length_map] at jobs
  unfold WriterPhase.uncounted
  omega

/-- Answers are sent only for jobs that are counted. -/
theorem Counted.sent_le {state : System Data Value} (counted : Counted state)
    (recorded : Recorded state) :
    state.shared.sent.length ≤ state.shared.writer.metrics.writeJobsCompleted := by
  have completed := counted.completed
  have unsent := counted.ran_le
  have answers := congrArg List.length recorded.answers
  simp only [List.length_append, List.length_map] at answers
  omega

/-- Whoever finds an answer finds its job among the counted ones. -/
theorem Counted.answered_counted {state : System Data Value} (counted : Counted state)
    (recorded : Recorded state) {entry : Nat × Result (Response Value)}
    (sent : entry ∈ state.shared.sent) :
    ∃ place < state.shared.writer.metrics.writeJobsCompleted, ∃ job,
      state.shared.handled[place]? = some (job, entry.2) ∧ job.response = entry.1 := by
  obtain ⟨place, inSent, found⟩ := List.getElem_of_mem sent
  refine ⟨place, Nat.lt_of_lt_of_le inSent (counted.sent_le recorded), ?_⟩
  have answer : (state.shared.handled.map fun handled =>
      (handled.1.response, handled.2))[place]? = some entry := by
    rw [← recorded.answers, List.getElem?_append_left inSent, List.getElem?_eq_getElem inSent,
      found]
  rw [List.getElem?_map, Option.map_eq_some_iff] at answer
  obtain ⟨⟨job, response⟩, handled, rfl⟩ := answer
  exact ⟨job, handled, rfl⟩

/-- When no thread is inside of a submission, every admitted job was run. -/
theorem Recorded.all_handled {state : System Data Value} (recorded : Recorded state)
    (outside : ∀ thread ∈ state.threads, thread.control.place ≠ .submission) :
    state.shared.phase.inFlight = [] ∧ state.shared.phase.unsent = [] ∧
      state.shared.queue.jobs = [] := by
  have distinct := recorded.admitted_nodup
  have answered : state.shared.sent.map Prod.fst ++ state.shared.phase.unsent.map Prod.fst =
      (state.shared.handled.map Prod.fst).map WriteJob.response := by
    rw [← List.map_append, recorded.answers, List.map_map, List.map_map]
    rfl
  rw [← recorded.jobs, List.append_assoc, List.map_append, ← answered,
    List.append_assoc] at distinct
  -- Every admitted channel was sent an answer, and channels occur once.
  have noneLeft : ∀ channel, channel ∉ state.shared.phase.unsent.map Prod.fst ++
      (state.shared.phase.inFlight ++ state.shared.queue.jobs).map WriteJob.response := by
    intro channel left
    have admitted : channel ∈ state.shared.admitted.map WriteJob.response := by
      rw [← recorded.jobs, List.append_assoc, List.map_append, ← answered,
        List.append_assoc]
      exact List.mem_append_right _ left
    obtain ⟨job, member, rfl⟩ := List.mem_map.mp admitted
    obtain ⟨response, -, returned⟩ := recorded.complete outside job member
    have sent : (job.response, response) ∈ state.shared.sent := by
      rcases recorded.results _ returned with sent | ⟨error, -, refused⟩
      · exact sent
      · exact absurd admitted (recorded.refused_not_admitted refused)
    exact (List.nodup_append.mp distinct).2.2 _ (List.mem_map_of_mem sent) _ left rfl
  have empty := List.eq_nil_iff_forall_not_mem.mpr noneLeft
  obtain ⟨noAnswer, noJob⟩ := List.append_eq_nil_iff.mp empty
  obtain ⟨noneInFlight, noneQueued⟩ := List.append_eq_nil_iff.mp (List.map_eq_nil_iff.mp noJob)
  exact ⟨noneInFlight, List.map_eq_nil_iff.mp noAnswer, noneQueued⟩

theorem Counted.idle {state : System Data Value} (counted : Counted state)
    (recorded : Recorded state)
    (outside : ∀ thread ∈ state.threads, thread.control.place ≠ .submission) :
    state.shared.writer.metrics.writeJobsSubmitted =
        state.shared.writer.metrics.writeJobsCompleted ∧
      state.shared.queue.jobs = [] := by
  obtain ⟨noneInFlight, noAnswer, noneQueued⟩ := recorded.all_handled outside
  have balance := counted.balance recorded
  have noneUnannounced : state.total Thread.unannounced = 0 :=
    total_eq_zero fun thread member => thread.unannounced_eq_zero (outside thread member)
  have noneRan := counted.ran_le
  rw [noAnswer, List.length_nil] at noneRan
  rw [noneUnannounced, noneQueued, WriterPhase.uncounted, noneInFlight, List.length_nil] at balance
  exact ⟨by omega, noneQueued⟩

/-- In every interleaving of any number of submitters with the writer, whatever becomes of
their jobs, the counters of the pool account for every job. -/
theorem write_jobs_accounted (pool : PoolConfiguration Data)
    (options : WalMaintenanceOptions) (connection : Connection Data) (idle : Value)
    (clients : List (Thread Data Value)) (fresh : ∀ thread ∈ clients, thread.IsClient)
    (state : System Data Value)
    (run : Reaches pool (System.initial pool (.new options connection) clients idle) state) :
    WriteAccounting state := by
  have ordered : Ordered pool _ (System.initial pool (.new options connection) clients idle) :=
    Ordered.initial fresh
  have recorded := ((@Recorded.initial _ _ pool) fresh).reaches ordered run
  have counted := ((@Counted.initial _ _ pool options connection _ idle)
    fresh).reaches ordered run
  refine ⟨counted.balance recorded, ⟨?_, ?_⟩, counted.rejected, counted.idle recorded⟩
  · exact Nat.le.intro counted.completed
  · intro entry returned admitted
    rcases recorded.results entry returned with sent | ⟨error, -, refused⟩
    · exact counted.answered_counted recorded sent
    · exact absurd admitted (recorded.refused_not_admitted refused)

theorem stored_rows_are_accounted :
    ∃ state, Reaches smallPool storingPool state ∧
      state.shared.returned = [(0, .ok (.value 5))] ∧ WriteAccounting state := by
  obtain ⟨state, run, returned, -, -⟩ := storingPool_runs
  exact ⟨state, run, returned, write_jobs_accounted smallPool _ _ 0 writingClients
    writingClients_areClients state run⟩

end Csgdb.Pool
