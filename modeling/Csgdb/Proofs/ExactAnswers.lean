/-
Module: Csgdb.Proofs.ExactAnswers
Purpose: The answers of a pool that runs no callbacks are exact: a job that was answered
  `Ok` was applied and counted its rows, and one that was answered with an error was not
  applied.
Trusted boundary: none
Main exports: Applied, groupTransaction_applied, AppliedSoFar, AppliedSoFar.reaches
-/
import Csgdb.Proofs.SerialWrites

namespace Csgdb.Pool

open Storage

variable {Data Value Channel : Type}

/-! ## Jobs with their answers -/

/-- Jobs one after another, with the answers that they were given. -/
inductive Applied : List (PoolJob Data Value × Result (Response Value)) → Data → Data → Prop
  | nil (data : Data) : Applied [] data data
  | statements {job : GroupableWrite Data Nat} {changes : List Nat}
      {rest : List (PoolJob Data Value × Result (Response Value))} {before middle after : Data}
      (effect : jobEffect job.statements before = .finished changes middle)
      (others : Applied rest middle after) :
      Applied ((.groupable job, .ok (.changes changes)) :: rest) before after
  | maintenance (operation : Maintenance) (channel : Nat) (answer : MaintenanceAnswer)
      {rest : List (PoolJob Data Value × Result (Response Value))} {before after : Data}
      (others : Applied rest before after) :
      Applied ((.exclusive (.maintenance operation) channel, .ok (.maintenance answer)) :: rest)
        before after
  | refused (job : PoolJob Data Value) (error : Error)
      {rest : List (PoolJob Data Value × Result (Response Value))} {before after : Data}
      (others : Applied rest before after) :
      Applied ((job, .error error) :: rest) before after

namespace Applied

variable {first second : List (PoolJob Data Value × Result (Response Value))}
  {before middle after : Data}

theorem append (earlier : Applied first before middle) (later : Applied second middle after) :
    Applied (first ++ second) before after := by
  induction earlier with
  | nil => exact later
  | statements effect _ inductionHypothesis => exact .statements effect (inductionHypothesis later)
  | maintenance operation channel answer _ inductionHypothesis =>
      exact .maintenance operation channel answer (inductionHypothesis later)
  | refused job error _ inductionHypothesis => exact .refused job error (inductionHypothesis later)

/-- Jobs that are all refused. -/
theorem of_errors {entries : List (PoolJob Data Value × Result (Response Value))}
    (errors : ∀ entry ∈ entries, ∃ error, entry.2 = .error error) (data : Data) :
    Applied entries data data := by
  induction entries with
  | nil => exact .nil data
  | cons entry rest inductionHypothesis =>
      rw [List.forall_mem_cons] at errors
      obtain ⟨⟨error, failed⟩, others⟩ := errors
      obtain ⟨job, answer⟩ := entry
      obtain rfl : answer = .error error := failed
      exact .refused job error (inductionHypothesis others)

end Applied

/-! ## Groups -/

section Groups

/-- The jobs of a group with their answers. -/
def entries (jobs : List (GroupableWrite Data Nat)) (responses : List (GroupWriteResponse Nat)) :
    List (PoolJob Data Value × Result (Response Value)) :=
  (jobs.map .groupable).zip ((groupResponses responses).map Prod.snd)

theorem entries_errors {jobs : List (GroupableWrite Data Nat)}
    {responses : List (GroupWriteResponse Nat)}
    (errors : ∀ response ∈ responses, ∃ error, response.2 = .error error) (data : Data) :
    @Applied Data Value (entries jobs responses) data data := by
  refine Applied.of_errors (fun entry member => ?_) data
  obtain ⟨response, inResponses, same⟩ :=
    List.mem_map.mp (List.of_mem_zip (show (entry.1, entry.2) ∈ _ from member)).2
  obtain ⟨answer, inAnswers, rfl⟩ := List.mem_map.mp inResponses
  obtain ⟨error, failed⟩ := errors answer inAnswers
  exact ⟨error, by rw [← same, failed]; rfl⟩

/-- The serial answers are exact. -/
theorem entries_serial (jobs : List (GroupableWrite Data Nat)) (data : Data) :
    @Applied Data Value (entries jobs (serialAnswers jobEffect jobs data)) data
      (serialState jobEffect jobs data) := by
  induction jobs generalizing data with
  | nil => exact .nil data
  | cons job rest inductionHypothesis =>
      have others := inductionHypothesis ((jobEffect job.statements data).stateFrom data)
      unfold serialAnswers serialState
      cases effect : jobEffect job.statements data with
      | finished changes after =>
          rw [effect] at others
          exact .statements effect others
      | failed error =>
          rw [effect] at others
          exact .refused _ error others
      | aborted error =>
          rw [effect] at others
          exact .refused _ error others

variable {engine : TransactionEngine Data}

/-- A group is answered exactly. -/
theorem groupTransaction_applied (noDeferred : ∀ data, engine.pending data = false)
    {jobs : List (GroupableWrite Data Nat)} (ordinary : ∀ job ∈ jobs, job.isOrdinary)
    {connection : Connection Data} (autocommit : connection.transaction = none) :
    (groupTransaction engine jobs connection).1.transaction = none ∧
      @Applied Data Value
        (entries jobs (groupTransaction engine jobs connection).2.responses)
        connection.committed (groupTransaction engine jobs connection).1.committed := by
  unfold groupTransaction
  cases faultyBegin : engine.fault connection.controls with
  | some fault =>
      obtain ⟨next, ran, committed, closed, -⟩ := begin_fault autocommit faultyBegin
      rw [ran]
      refine ⟨closed, ?_⟩
      rw [committed]
      refine entries_errors ?_ _
      rintro response member
      obtain ⟨job, -, rfl⟩ := List.mem_map.mp member
      exact ⟨fault.error, rfl⟩
  | none =>
      rw [beginTransaction_ok autocommit faultyBegin]
      obtain ⟨last, responses, fatal, ran, committed, -, run⟩ :=
        (@runGroupJobs_ordinary _ _ engine _ connection.committed { connection with
            transaction := some (between connection.committed)
            controls := connection.controls + 1 }) ordinary rfl
      simp only [ran]
      unfold finishGroup
      cases run with
      | @fatal _ error =>
          refine ⟨rfl, ?_⟩
          have same : (dropTransaction last).committed = connection.committed := committed
          dsimp only
          rw [same]
          refine entries_errors ?_ _
          rintro response member
          obtain ⟨own, -, rfl⟩ := List.mem_map.mp member
          exact ⟨error, rfl⟩
      | completed noAbort isOpen clean =>
          cases faultyCommit : engine.fault last.controls with
          | none =>
              simp only [commit_ok isOpen faultyCommit (noDeferred _)]
              exact ⟨trivial, entries_serial jobs connection.committed⟩
          | some fault =>
              obtain ⟨next, ranCommit, committedCommit, closed, -⟩ :=
                commit_fault faultyCommit
              simp only [ranCommit]
              refine ⟨closed, ?_⟩
              rw [committedCommit, committed]
              refine entries_errors ?_ _
              rintro response member
              obtain ⟨own, -, rfl⟩ := List.mem_map.mp member
              unfold failSuccess
              cases own.2 with
              | ok changes => exact ⟨fault.error, rfl⟩
              | error ownError => exact ⟨ownError, rfl⟩

end Groups

/-! ## Pools without callbacks -/

section Runs

variable {pool : PoolConfiguration Data}

/-- A job of ordinary statements, or one that maintains the log. -/
def IsPlain : PoolJob Data Value → Prop
  | .exclusive (.callback _) _ => False
  | .exclusive (.maintenance _) _ => True
  | .groupable job => job.isOrdinary

/-- What is committed is what the answers say. -/
structure AppliedSoFar (initial : Data) (shared : Shared Data Value) : Prop where
  quiet : shared.phase.isCalling = false
  closed : shared.writer.connection.transaction = none
  applied : Applied shared.handled initial shared.writer.connection.committed

namespace AppliedSoFar

variable {initial : Data} {shared shared' : Shared Data Value}

/-- A step that neither starts nor ends a job. -/
theorem keeps (applied : AppliedSoFar initial shared)
    (phase : shared'.phase.isCalling = false)
    (connection : shared'.writer.connection = shared.writer.connection)
    (handled : shared'.handled = shared.handled) : AppliedSoFar initial shared' where
  quiet := phase
  closed := by rw [connection]; exact applied.closed
  applied := by rw [connection, handled]; exact applied.applied

theorem notified {notice : Notice} {state next : System Data Value}
    (applied : AppliedSoFar initial state.shared) (notified : Notified notice state next) :
    AppliedSoFar initial next.shared := by
  obtain ⟨same, phase⟩ := notified.shared_eq
  refine applied.keeps ?_ (by rw [same]) (by rw [same])
  rcases phase with still | woken
  · rw [still]
    exact applied.quiet
  · rw [woken, WriterPhase.wake_isCalling]
    exact applied.quiet

/-- One step of the writer thread. -/
theorem writer_step (noDeferred : ∀ data, pool.engine.pending data = false)
    (applied : AppliedSoFar initial shared)
    (before : ∀ job ∈ shared.phase.inFlight, IsPlain job)
    (after : ∀ job ∈ shared'.phase.inFlight, IsPlain job)
    {thread thread' : Thread Data Value} {notice : Notice}
    (step : WriterStep pool shared thread shared' thread' notice) :
    AppliedSoFar initial shared' := by
  cases step with
  | @pops _ _ taken expired place awake popped =>
      refine applied.keeps ?_ (Writer.receives_connection _ _) rfl
      cases taken with
      | exclusive operation channel =>
          cases operation with
          | callback body =>
              exact absurd (after (.exclusive (.callback body) channel)
                (List.mem_singleton.mpr rfl)) id
          | maintenance operation => rfl
      | _ => rfl
  | @collects _ _ _ _ taken place resumes collected =>
      refine applied.keeps ?_ (Writer.receives_connection _ _) rfl
      rcases (WriteQueue.collectMore_queue collected).2.2 with ⟨jobs, rfl⟩ | ⟨jobs, rfl⟩
      · rfl
      · rfl
  | @called body channel outcome place ended outside =>
      have calling := applied.quiet
      rw [place] at calling
      cases calling
  | @maintained operation channel writer response checkpointed changed place performed =>
      have same : writer.connection = shared.writer.connection := by
        have kept := operation.perform_connection checkpointed changed shared.writer
        rwa [performed] at kept
      refine ⟨rfl, by rw [same]; exact applied.closed, ?_⟩
      rw [same]
      refine applied.applied.append ?_
      cases response with
      | ok answer => exact .maintenance operation channel answer (.nil _)
      | error error => exact .refused _ error (.nil _)
  | @committed group connection metrics completion place executed =>
      have ordinary : ∀ job ∈ group, job.isOrdinary := by
        intro job member
        exact before (.groupable job) (by rw [place]; exact List.mem_map_of_mem member)
      obtain ⟨closed, more⟩ := @groupTransaction_applied _ Value _ noDeferred _ ordinary _
        applied.closed
      rw [executeGroupCommit_transaction executed] at closed more
      exact ⟨rfl, closed, applied.applied.append more⟩
  | @maintains due uncounted responses automatic place =>
      refine applied.keeps rfl ?_ rfl
      cases due <;> rfl
  | counts place => exact applied.keeps rfl rfl rfl
  | answers place => exact applied.keeps rfl rfl rfl
  | finishes place => exact applied.keeps rfl rfl rfl

/-- One move of any thread, or a disturbance. -/
theorem move {identities : List (Bool × List Nat)} {state next : System Data Value}
    (noDeferred : ∀ data, pool.engine.pending data = false)
    (applied : AppliedSoFar initial state.shared)
    (ordered : Ordered pool ((true, []) :: identities) state)
    (clients : ∀ entry ∈ identities, entry.1 = false)
    (before : ∀ job ∈ state.shared.phase.inFlight, IsPlain job)
    (after : ∀ job ∈ next.shared.phase.inFlight, IsPlain job)
    (move : Move pool state next) : AppliedSoFar initial next.shared := by
  cases move with
  | step step =>
      cases step with
      | @thread _ _ others _ thread _ _ _ step notified =>
          refine AppliedSoFar.notified ?_ notified
          cases others with
          | nil =>
              have rest := ordered.rests thread _ rfl applied.quiet
              exact absurd step rest.no_step
          | cons first others =>
              have client : thread.inWriteWorker = false := by
                have roles := (List.cons.inj ordered.roles).2
                refine clients thread.identity ?_
                rw [← roles]
                exact List.mem_map_of_mem (by simp)
              refine applied.keeps (step.phase_eq ▸ applied.quiet) (step.connection_eq client) ?_
              cases step <;> rfl
      | writer step notified =>
          refine AppliedSoFar.notified (applied.writer_step noDeferred before ?_ step) notified
          obtain ⟨same, phase⟩ := notified.shared_eq
          rcases phase with still | woken
          · rwa [still] at after
          · rwa [woken, WriterPhase.wake_inFlight] at after
  | disturbance disturbance =>
      cases disturbance with
      | reader thread => exact applied
      | submitter thread => exact applied
      | writer =>
          exact applied.keeps ((WriterPhase.wake_isCalling _).trans applied.quiet) rfl rfl
      | closes =>
          exact applied.keeps ((WriterPhase.wake_isCalling _).trans applied.quiet) rfl rfl

/-- In every run in which only plain jobs are admitted. -/
theorem reaches {identities : List (Bool × List Nat)} {state next : System Data Value}
    (noDeferred : ∀ data, pool.engine.pending data = false)
    (applied : AppliedSoFar initial state.shared)
    (ordered : Ordered pool ((true, []) :: identities) state) (recorded : Recorded state)
    (clients : ∀ entry ∈ identities, entry.1 = false) (run : Reaches pool state next)
    (plain : ∀ job ∈ next.shared.admitted, IsPlain job) : AppliedSoFar initial next.shared := by
  induction run with
  | refl => exact applied
  | @tail middle last earlier move inductionHypothesis =>
      have before := fun job member => plain job (move.grows.admitted.subset member)
      have inFlight {state' : System Data Value} (further : Reaches pool state state') :
          ∀ job ∈ state'.shared.phase.inFlight, job ∈ state'.shared.admitted := by
        intro job member
        rw [← (recorded.reaches ordered further).jobs]
        exact List.mem_append_left _ (List.mem_append_right _ member)
      exact (inductionHypothesis before).move noDeferred (ordered.reaches earlier) clients
        (fun job member => before job (inFlight earlier job member))
        (fun job member => plain job (inFlight (earlier.tail move) job member)) move

end AppliedSoFar

end Runs

end Csgdb.Pool
