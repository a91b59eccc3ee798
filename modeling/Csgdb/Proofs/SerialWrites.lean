/-
Module: Csgdb.Proofs.SerialWrites
Purpose: Whole-run correctness of pool writes: the committed database is that of the
  jobs answered `Ok`, one after another in the order of their admission.
Trusted boundary: none
Main exports: Runs, AtomicCallback, WellBehaved, JobApplied, Serial, SerialWrites,
  pool_writes_are_serial
-/
import Csgdb.Proofs.Acknowledgement
import Csgdb.Proofs.DeadlockFreedom
import Mathlib.Data.List.Nodup

namespace Csgdb.Pool

open Storage

variable {Data Value : Type} {pool : PoolConfiguration Data}

/-! ## Callbacks on the writer -/

/-- A callback runs on the connection of the writer, with any answers to its nested
reads; its nested submissions are refused. -/
inductive Runs : Program Data Value → Connection Data → Connection Data →
    Outcome Value → Prop
  | ends (outcome : Outcome Value) (connection : Connection Data) :
      Runs (.ends outcome) connection connection outcome
  | database {operation : Connection Data → Connection Data × Value}
      {next : Value → Program Data Value} {before after : Connection Data}
      {outcome : Outcome Value}
      (rest : Runs (next (operation before).2) (operation before).1 after outcome) :
      Runs (.database operation next) before after outcome
  | read {program body : Program Data Value} {resume : Resume Data Value}
      {blocking : Bool} {before after : Connection Data} {outcome : Outcome Value}
      (reads : program.reading = some (blocking, body, resume))
      (answer : Outcome (Response Value))
      (rest : Runs (resume answer) before after outcome) :
      Runs program before after outcome
  | submission {program : Program Data Value} {submission : Submission Data Value}
      {before after : Connection Data} {outcome : Outcome Value}
      (submits : program.submission = some submission)
      (rest : Runs (submission.resume (.returned (.error reentrantWrite))) before after
        outcome) :
      Runs program before after outcome

/-- The callback ends every transaction that it begins, and commits nothing unless it
returns `Ok`. -/
def AtomicCallback (body : Program Data Value) : Prop :=
  ∀ before after outcome, before.transaction = none → Runs body before after outcome →
    after.transaction = none ∧
      (outcome.response.isOk = false → after.committed = before.committed)

/-- The jobs that the pool's contract is about: groups whose statements stay in their
job, and exclusive callbacks that are transactions. -/
def WellBehaved : PoolJob Data Value → Prop
  | .exclusive (.callback body) _ => AtomicCallback body
  | .exclusive (.maintenance _) _ => True
  | .groupable job => ∀ statement ∈ job.statements, staysInJob statement = true

/-! ## Serial application -/

/-- One job, applied when its answer is `Ok` and not applied when it is not. -/
inductive JobApplied (engine : TransactionEngine Data) :
    PoolJob Data Value → Result (Response Value) → Data → Data → Prop
  | failed (job : PoolJob Data Value) (error : Error) (data : Data) :
      JobApplied engine job (.error error) data data
  | callback {body : Program Data Value} {channel : Nat} {value : Value}
      {before after : Connection Data} (opened : before.transaction = none)
      (runs : Runs body before after (.returned (.ok value)))
      (closed : after.transaction = none) :
      JobApplied engine (.exclusive (.callback body) channel) (.ok (.value value))
        before.committed after.committed
  | maintenance (operation : Maintenance) (channel : Nat) (answer : MaintenanceAnswer)
      (data : Data) :
      JobApplied engine (.exclusive (.maintenance operation) channel)
        (.ok (.maintenance answer)) data data
  | statements {job : GroupableWrite Data Nat} {changes : List Nat} {before after : Data}
      (all : rowChanges engine job.statements before = some after) :
      JobApplied engine (.groupable job) (.ok (.changes changes)) before after

/-- Jobs one after another. -/
inductive Serial (engine : TransactionEngine Data) :
    List (PoolJob Data Value × Result (Response Value)) → Data → Data → Prop
  | nil (data : Data) : Serial engine [] data data
  | cons {job : PoolJob Data Value} {response : Result (Response Value)}
      {rest : List (PoolJob Data Value × Result (Response Value))}
      {before middle after : Data} (first : JobApplied engine job response before middle)
      (others : Serial engine rest middle after) :
      Serial engine ((job, response) :: rest) before after

theorem Serial.append {engine : TransactionEngine Data}
    {first second : List (PoolJob Data Value × Result (Response Value))}
    {before middle after : Data} (earlier : Serial engine first before middle)
    (later : Serial engine second middle after) :
    Serial engine (first ++ second) before after := by
  induction earlier with
  | nil => exact later
  | cons head rest inductionHypothesis => exact .cons head (inductionHypothesis later)

theorem Serial.snoc {engine : TransactionEngine Data}
    {handled : List (PoolJob Data Value × Result (Response Value))}
    {job : PoolJob Data Value} {response : Result (Response Value)}
    {before middle after : Data} (earlier : Serial engine handled before middle)
    (last : JobApplied engine job response middle after) :
    Serial engine (handled ++ [(job, response)]) before after :=
  earlier.append (.cons last (.nil after))

/-- The answers of a group are a serial application of its jobs. -/
theorem Acknowledged.serial {engine : TransactionEngine Data}
    {group : List (GroupableWrite Data Nat)} {responses : List (GroupWriteResponse Nat)}
    {before after : Data} (acknowledged : Acknowledged engine group responses before after) :
    (@Serial _ Value) engine
      ((group.map .groupable).zip ((groupResponses responses).map Prod.snd)) before
      after := by
  induction acknowledged with
  | nil data => exact .nil data
  | ok all rest inductionHypothesis =>
      exact .cons (.statements all) inductionHypothesis
  | error rest inductionHypothesis => exact .cons (.failed _ _ _) inductionHypothesis

/-! ## The running callback -/

/-- What may be left to run of the callback of the writer thread. -/
def Thread.Remaining (thread : Thread Data Value) (program : Program Data Value) : Prop :=
  match thread.stack with
  | [] =>
      match thread.control with
      | .running own => program = own
      | .checkout _ _ resume => ∃ answer, program = resume answer
      | .tryCheckout _ resume => ∃ answer, program = resume answer
      | _ => False
  | frame :: _ => ∃ answer, program = frame.resume answer

/-- Every way to end what is left is a run of the whole callback. -/
def Continues (body : Program Data Value) (start : Connection Data)
    (thread : Thread Data Value) (connection : Connection Data) : Prop :=
  ∀ program, thread.Remaining program → ∀ after outcome,
    Runs program connection after outcome → Runs body start after outcome

theorem Remaining_goesOn {thread : Thread Data Value} {next program : Program Data Value}
    (remaining : (thread.goesOn next).Remaining program) :
    (thread.stack = [] ∧ program = next) ∨
      (thread.stack ≠ [] ∧ thread.Remaining program) := by
  cases stack : thread.stack with
  | nil =>
      simp only [Thread.Remaining, Thread.goesOn, stack] at remaining
      exact .inl ⟨rfl, remaining⟩
  | cons frame frames =>
      simp only [Thread.Remaining, Thread.goesOn, stack] at remaining
      exact .inr ⟨List.cons_ne_nil _ _, by simpa only [Thread.Remaining, stack] using remaining⟩

theorem Remaining_running {thread : Thread Data Value} {program : Program Data Value}
    (place : thread.control = .running program) (stack : thread.stack = []) :
    thread.Remaining program := by
  simp only [Thread.Remaining, stack, place]

theorem Remaining_reader {thread : Thread Data Value} {body : Program Data Value}
    {resume : Resume Data Value} (wants : thread.wantsReader = some (body, resume))
    (stack : thread.stack = []) (answer : Outcome (Response Value)) :
    thread.Remaining (resume answer) := by
  unfold Thread.wantsReader at wants
  split at wants
  case h_4 => cases wants
  all_goals
    rename_i control
    obtain ⟨rfl, rfl⟩ := Prod.mk.inj (Option.some.inj wants)
    simp only [Thread.Remaining, stack, control]
    exact ⟨answer, rfl⟩

/-- A step of the writer thread inside of its callback goes on with a run of it. -/
theorem ThreadStep.continues {shared shared' : Shared Data Value}
    {thread thread' : Thread Data Value} {notice : Notice} {body : Program Data Value}
    {start : Connection Data}
    (step : ThreadStep pool shared thread shared' thread' notice)
    (disciplined : Disciplined pool.identity thread)
    (worker : thread.inWriteWorker = true)
    (before : Continues body start thread shared.writer.connection) :
    Continues body start thread' shared'.writer.connection := by
  have noSubmission := disciplined.of_worker worker
  intro program remaining after outcome runs
  cases step with
  | writes place isWorker outside =>
      rcases Remaining_goesOn remaining with ⟨-, rfl⟩ | ⟨inside, -⟩
      · exact before _ (Remaining_running place outside) after outcome (.database runs)
      · exact absurd outside inside
  | queries view place other =>
      rcases Remaining_goesOn remaining with ⟨outside, -⟩ | ⟨-, same⟩
      · rcases other with client | inside
        · rw [worker] at client
          cases client
        · exact absurd outside inside
      · exact before program same after outcome runs
  | readRefused place reads nested =>
      rcases Remaining_goesOn remaining with ⟨outside, rfl⟩ | ⟨-, same⟩
      · exact before _ (Remaining_running place outside) after outcome (.read reads _ runs)
      · exact before program same after outcome runs
  | @readEntered _ _ resume blocking pools place reads entered =>
      rcases disciplined.program (by rw [place]; rfl) with ⟨outside, -⟩ | ⟨frame, -, same⟩
      · have answered : ∃ answer, program = resume answer := by
          cases blocking <;> simpa [Thread.Remaining, outside] using remaining
        obtain ⟨answer, rfl⟩ := answered
        exact before _ (Remaining_running place outside) after outcome
          (.read reads answer runs)
      · have fresh := (ReadCallbackGuard.enter_ok entered).1
        rw [same] at fresh
        simp at fresh
  | checkedOut wants taken =>
      obtain ⟨outside, -⟩ := disciplined.reader (Thread.wantsReader_place wants)
      simp only [Thread.Remaining] at remaining
      obtain ⟨answer, rfl⟩ := remaining
      exact before _ (Remaining_reader wants outside answer) after outcome runs
  | checkoutSleeps place awake empty =>
      obtain ⟨outside, -⟩ := disciplined.reader (by rw [place]; rfl)
      simp only [Thread.Remaining, outside] at remaining
      exact before program (by simpa only [Thread.Remaining, outside, place] using remaining)
        after outcome runs
  | exhausted place empty =>
      obtain ⟨outside, -⟩ := disciplined.reader (by rw [place]; rfl)
      simp only [Thread.Remaining, outside] at remaining
      subst remaining
      exact before _ (Remaining_reader (by rw [Thread.wantsReader, place]) outside _) after
        outcome runs
  | @returns _ frame frames place inside =>
      rcases disciplined.program (by rw [place]; rfl) with ⟨outside, -⟩ | ⟨only, stack, -⟩
      · rw [outside] at inside
        cases inside
      · rw [stack] at inside
        obtain ⟨rfl, rfl⟩ := List.cons.inj inside
        simp only [Thread.Remaining] at remaining
        subst remaining
        refine before _ ?_ after outcome runs
        simp only [Thread.Remaining, stack]
        exact ⟨_, rfl⟩
  | submitRefused place submits nested =>
      rcases Remaining_goesOn remaining with ⟨outside, rfl⟩ | ⟨-, same⟩
      · exact before _ (Remaining_running place outside) after outcome
          (.submission submits runs)
      · exact before program same after outcome runs
  | submits place submits client outside =>
      rw [worker] at client
      cases client
  | accepted place attempt pushed => exact absurd (by rw [place]; rfl) noSubmission
  | pushSleeps place attempt pushed => exact absurd (by rw [place]; rfl) noSubmission
  | refused place attempt pushed => exact absurd (by rw [place]; rfl) noSubmission
  | refusedReturns place => exact absurd (by rw [place]; rfl) noSubmission
  | countsSubmitted place => exact absurd (by rw [place]; rfl) noSubmission
  | notifiesWriter place => exact absurd (by rw [place]; rfl) noSubmission
  | receives place arrived => exact absurd (by rw [place]; rfl) noSubmission
  | disconnected place silent dropped => exact absurd (by rw [place]; rfl) noSubmission

theorem Woken.remaining {thread thread' : Thread Data Value} (woken : Woken thread thread')
    {program : Program Data Value} (remaining : thread'.Remaining program) :
    thread.Remaining program := by
  cases woken with
  | untouched => exact remaining
  | reader =>
      unfold Thread.wakeReader at remaining
      split at remaining
      · next place => simpa only [Thread.Remaining, place] using remaining
      · exact remaining
  | submitter =>
      unfold Thread.wakeSubmitter at remaining
      split at remaining
      · next place => simpa only [Thread.Remaining, place] using remaining
      · exact remaining

/-- Only the writer thread touches the connection of the writer. -/
theorem ThreadStep.connection_eq {shared shared' : Shared Data Value}
    {thread thread' : Thread Data Value} {notice : Notice}
    (step : ThreadStep pool shared thread shared' thread' notice)
    (client : thread.inWriteWorker = false) :
    shared'.writer.connection = shared.writer.connection := by
  cases step with
  | writes place worker outside =>
      rw [client] at worker
      cases worker
  | _ => rfl

/-! ## The committed database -/

/-- Between two jobs the connection is in autocommit mode, and what is committed is
the serial application of the jobs run so far; inside of a callback this holds of the
connection from which the callback was started. -/
structure Consistent (engine : TransactionEngine Data) (initial : Data)
    (state : System Data Value) : Prop where
  between : state.shared.phase.isCalling = false →
    state.shared.writer.connection.transaction = none ∧
      Serial engine state.shared.handled initial state.shared.writer.connection.committed
  inside : ∀ body channel, state.shared.phase = .calling body channel →
    ∃ start, start.transaction = none ∧
      Serial engine state.shared.handled initial start.committed ∧
      ∀ worker clients, state.threads = worker :: clients →
        Continues body start worker state.shared.writer.connection

/-- Waking threads changes nothing. -/
theorem Consistent.woken {engine : TransactionEngine Data} {initial : Data}
    {state next : System Data Value} (consistent : Consistent engine initial state)
    (woken : List.Forall₂ Woken state.threads next.threads)
    (writer : next.shared.writer = state.shared.writer)
    (handled : next.shared.handled = state.shared.handled)
    (phase : next.shared.phase = state.shared.phase ∨
      next.shared.phase = state.shared.phase.wake) : Consistent engine initial next := by
  constructor
  · intro elsewhere
    rw [writer, handled]
    refine consistent.between ?_
    rcases phase with same | woken
    · rw [← same, elsewhere]
    · rw [← WriterPhase.wake_isCalling, ← woken, elsewhere]
  · intro body channel calling
    have before : state.shared.phase = .calling body channel := by
      rcases phase with same | woken
      · rw [← same, calling]
      · rw [woken] at calling
        unfold WriterPhase.wake at calling
        split at calling
        · cases calling
        · cases calling
        · exact calling
    obtain ⟨start, opened, serial, continues⟩ := consistent.inside body channel before
    refine ⟨start, opened, by rw [handled]; exact serial, ?_⟩
    intro worker clients same
    rw [writer]
    rw [same] at woken
    cases threads : state.threads with
    | nil => rw [threads] at woken; cases woken
    | cons first rest =>
        rw [threads] at woken
        cases woken with
        | cons head tail =>
            exact fun program remaining =>
              continues first rest threads program (head.remaining remaining)

theorem Consistent.notified {engine : TransactionEngine Data} {initial : Data}
    {notice : Notice} {state next : System Data Value}
    (consistent : Consistent engine initial state)
    (notified : Notified notice state next) : Consistent engine initial next := by
  obtain ⟨same, phase⟩ := notified.shared_eq
  exact consistent.woken notified.woken (by rw [same]) (by rw [same]) phase

theorem Consistent.thread_step {initial : Data} {identities : List (Bool × List Nat)}
    {shared shared' : Shared Data Value} {before after : List (Thread Data Value)}
    {thread thread' : Thread Data Value} {notice : Notice} {next : System Data Value}
    (consistent : Consistent pool.engine initial ⟨shared, before ++ thread :: after⟩)
    (ordered : Ordered pool ((true, []) :: identities) ⟨shared, before ++ thread :: after⟩)
    (clients : ∀ entry ∈ identities, entry.1 = false)
    (step : ThreadStep pool shared thread shared' thread' notice)
    (notified : Notified notice ⟨shared', before ++ thread' :: after⟩ next) :
    Consistent pool.engine initial next := by
  have sameHandled : shared'.handled = shared.handled := by cases step <;> rfl
  refine Consistent.notified ?_ notified
  cases before with
  | nil =>
      -- The writer thread itself takes the step, so it is inside of a callback.
      have worker : thread.inWriteWorker = true :=
        congrArg Prod.fst (List.cons.inj ordered.roles).1
      constructor
      · intro elsewhere
        have rest := ordered.rests thread after rfl (step.phase_eq ▸ elsewhere)
        exact absurd step rest.no_step
      · intro body channel calling
        obtain ⟨start, opened, serial, continues⟩ :=
          consistent.inside body channel (step.phase_eq ▸ calling)
        refine ⟨start, opened, by rw [sameHandled]; exact serial, ?_⟩
        intro first rest same
        obtain ⟨rfl, -⟩ := List.cons.inj same
        exact step.continues (ordered.disciplined thread (by simp)) worker
          (continues thread after rfl)
  | cons first others =>
      have client : thread.inWriteWorker = false := by
        have roles := (List.cons.inj ordered.roles).2
        refine clients thread.identity ?_
        rw [← roles]
        exact List.mem_map_of_mem (by simp)
      have sameConnection := step.connection_eq client
      constructor
      · intro elsewhere
        rw [sameConnection, sameHandled]
        exact consistent.between (step.phase_eq ▸ elsewhere)
      · intro body channel calling
        obtain ⟨start, opened, serial, continues⟩ :=
          consistent.inside body channel (step.phase_eq ▸ calling)
        refine ⟨start, opened, by rw [sameHandled]; exact serial, ?_⟩
        intro worker rest same
        obtain ⟨rfl, -⟩ := List.cons.inj same
        rw [sameConnection]
        exact continues first _ rfl

theorem Writer.receives_connection (writer : Writer Data)
    (taken : WriteQueue.Taken (ExclusiveOperation Data Value) Data Nat) :
    (writer.receives taken).connection = writer.connection := by
  cases taken <;> rfl

/-- The end of a callback is the end of its run. -/
theorem callback_applied {engine : TransactionEngine Data} {body : Program Data Value}
    {channel : Nat} {start connection : Connection Data} {outcome : Outcome Value}
    (atomic : AtomicCallback body) (opened : start.transaction = none)
    (runs : Runs body start connection outcome) :
    connection.transaction = none ∧
      JobApplied engine (.exclusive (.callback body) channel)
        (outcome.response.map .value) start.committed connection.committed := by
  obtain ⟨closed, unchanged⟩ := atomic start connection outcome opened runs
  refine ⟨closed, ?_⟩
  cases outcome with
  | panicked =>
      rw [unchanged rfl]
      exact .failed _ _ _
  | returned result =>
      cases result with
      | ok value => exact .callback opened runs closed
      | error error =>
          rw [unchanged rfl]
          exact .failed _ _ _

/-- A step of the writer that neither starts nor ends a job. -/
theorem Consistent.writer_waits {engine : TransactionEngine Data} {initial : Data}
    {shared shared' : Shared Data Value} {threads threads' : List (Thread Data Value)}
    (consistent : Consistent engine initial ⟨shared, threads⟩)
    (before : shared.phase.isCalling = false) (after : shared'.phase.isCalling = false)
    (connection : shared'.writer.connection = shared.writer.connection)
    (handled : shared'.handled = shared.handled) :
    Consistent engine initial ⟨shared', threads'⟩ where
  between := by
    intro _
    rw [connection, handled]
    exact consistent.between before
  inside := by
    intro body channel calling
    have calls : shared'.phase = .calling body channel := calling
    rw [calls] at after
    cases after

theorem Consistent.writer_step {initial : Data} {shared shared' : Shared Data Value}
    {clients : List (Thread Data Value)} {thread thread' : Thread Data Value}
    {notice : Notice} {next : System Data Value}
    (consistent : Consistent pool.engine initial ⟨shared, thread :: clients⟩)
    (rest : shared.phase.isCalling = false → thread.AtRest)
    (wellBehaved : ∀ job ∈ shared.phase.inFlight, WellBehaved job)
    (step : WriterStep pool shared thread shared' thread' notice)
    (notified : Notified notice ⟨shared', thread' :: clients⟩ next) :
    Consistent pool.engine initial next := by
  refine Consistent.notified ?_ notified
  cases step with
  | @pops _ _ taken expired place awake popped =>
      have elsewhere : shared.phase.isCalling = false := by rw [place]; rfl
      cases taken with
      | exclusive operation channel =>
          cases operation with
          | callback body =>
              obtain ⟨opened, serial⟩ := consistent.between elsewhere
              obtain ⟨-, outside⟩ := rest elsewhere
              refine ⟨nofun, fun _ _ calling => ?_⟩
              obtain ⟨rfl, -⟩ := WriterPhase.calling.inj calling
              refine ⟨shared.writer.connection, opened, serial, ?_⟩
              intro worker others same program remaining after outcome runs
              obtain ⟨rfl, -⟩ := List.cons.inj same
              rcases Remaining_goesOn remaining with ⟨-, rfl⟩ | ⟨inside, -⟩
              · exact runs
              · exact absurd outside inside
          | maintenance operation =>
              exact consistent.writer_waits elsewhere rfl rfl rfl
      | _ =>
          exact consistent.writer_waits elsewhere rfl
            (Writer.receives_connection _ _) rfl
  | @collects _ _ _ _ taken place resumes collected =>
      have elsewhere : shared.phase.isCalling = false := by rw [place]; rfl
      refine consistent.writer_waits elsewhere ?_ (Writer.receives_connection _ _) rfl
      rcases (WriteQueue.collectMore_queue collected).2.2 with ⟨jobs, rfl⟩ | ⟨jobs, rfl⟩
      · rfl
      · rfl
  | @called body channel outcome place ended outside =>
      obtain ⟨start, opened, serial, continues⟩ := consistent.inside body channel place
      have atomic : AtomicCallback body :=
        wellBehaved (.exclusive (.callback body) channel)
          (by rw [place]; exact List.mem_singleton.mpr rfl)
      have runs := continues thread clients rfl _ (Remaining_running ended outside) _ _
        (.ends outcome _)
      obtain ⟨closed, applied⟩ :=
        (@callback_applied _ _ pool.engine _ channel) atomic opened runs
      exact ⟨fun _ => ⟨closed, serial.snoc applied⟩, nofun⟩
  | @maintained operation channel writer response checkpointed changed place performed =>
      obtain ⟨closed, serial⟩ := consistent.between (by rw [place]; rfl)
      have same : writer.connection = shared.writer.connection := by
        have kept := operation.perform_connection checkpointed changed shared.writer
        rwa [performed] at kept
      have applied : JobApplied pool.engine
          (.exclusive (.maintenance operation) channel : PoolJob Data Value)
          (response.map .maintenance)
          writer.connection.committed writer.connection.committed := by
        cases response with
        | ok answer => exact .maintenance operation channel answer _
        | error error => exact .failed _ error _
      refine ⟨fun _ => ⟨by rw [same]; exact closed, ?_⟩, nofun⟩
      rw [← same] at serial
      exact serial.snoc applied
  | @committed group connection metrics completion place executed =>
      obtain ⟨closed, serial⟩ := consistent.between (by rw [place]; rfl)
      have stays : ∀ job ∈ group, ∀ statement ∈ job.statements,
          staysInJob statement = true := by
        intro job member
        exact wellBehaved (.groupable job)
          (by rw [place]; exact List.mem_map_of_mem member)
      obtain ⟨autocommit, acknowledged⟩ :=
        (@groupTransaction_acknowledged _ _ pool.engine) stays closed
      rw [executeGroupCommit_transaction executed] at autocommit acknowledged
      exact ⟨fun _ => ⟨autocommit, serial.append acknowledged.serial⟩, nofun⟩
  | @maintains due uncounted responses automatic place =>
      refine consistent.writer_waits (by rw [place]; rfl) rfl ?_ rfl
      cases due <;> rfl
  | counts place => exact consistent.writer_waits (by rw [place]; rfl) rfl rfl rfl
  | answers place => exact consistent.writer_waits (by rw [place]; rfl) rfl rfl rfl
  | finishes place => exact consistent.writer_waits (by rw [place]; rfl) rfl rfl rfl

/-- Every move keeps the committed database serial, as long as the jobs in the hands of
the writer are well behaved. -/
theorem Consistent.move {initial : Data} {identities : List (Bool × List Nat)}
    {state next : System Data Value} (consistent : Consistent pool.engine initial state)
    (ordered : Ordered pool ((true, []) :: identities) state)
    (clients : ∀ entry ∈ identities, entry.1 = false)
    (wellBehaved : ∀ job ∈ state.shared.phase.inFlight, WellBehaved job)
    (move : Move pool state next) : Consistent pool.engine initial next := by
  cases move with
  | step step =>
      cases step with
      | thread step notified => exact consistent.thread_step ordered clients step notified
      | writer step notified =>
          exact consistent.writer_step (ordered.rests _ _ rfl) wellBehaved step notified
  | disturbance disturbance =>
      have woken := disturbance.woken
      cases disturbance with
      | reader thread => exact consistent.woken woken rfl rfl (.inl rfl)
      | submitter thread => exact consistent.woken woken rfl rfl (.inl rfl)
      | writer => exact consistent.woken woken rfl rfl (.inr rfl)
      | closes => exact consistent.woken woken rfl rfl (.inr rfl)

/-! ## Whole runs -/

/-- What clients may rely on in a state of a run that began with `initial`. -/
structure SerialWrites (pool : PoolConfiguration Data) (initial : Data)
    (state : System Data Value) : Prop where
  /-- Between two jobs, what is committed is the result of the jobs answered `Ok`. -/
  committed : state.shared.phase.isCalling = false →
    state.shared.writer.connection.transaction = none ∧
      Serial pool.engine state.shared.handled initial
        state.shared.writer.connection.committed
  /-- Jobs are run in the order in which they were admitted, and none is lost. -/
  order : state.shared.handled.map Prod.fst ++ state.shared.phase.inFlight ++
    state.shared.queue.jobs = state.shared.admitted
  /-- Channels belong to one job each. -/
  distinct : (state.shared.admitted.map WriteJob.response).Nodup
  /-- Answers are sent once each, after their jobs were run, on their own channels. -/
  answers : state.shared.sent <+:
    state.shared.handled.map fun entry => (entry.1.response, entry.2)
  /-- A call returns once, and an admitted one returns what was sent to it. -/
  returns : (state.shared.returned.map Prod.fst).Nodup ∧
    ∀ entry ∈ state.shared.returned,
      entry.1 ∈ state.shared.admitted.map WriteJob.response → entry ∈ state.shared.sent
  /-- When no thread can go on, every admitted job has been run and its call has
  returned its answer. -/
  complete : (¬ ∃ next, Step pool state next) → ∀ job ∈ state.shared.admitted,
    ∃ response, (job, response) ∈ state.shared.handled ∧
      (job.response, response) ∈ state.shared.returned
  /-- A refused call is never admitted; a call that returned an error had no effect. -/
  refused : (∀ later, Reaches pool state later → ∀ entry ∈ state.shared.refused,
      entry.1 ∉ later.shared.admitted.map WriteJob.response) ∧
    ∀ channel error, (channel, .error error) ∈ state.shared.returned →
      ∀ job response, (job, .ok response) ∈ state.shared.handled →
        job.response ≠ channel
  /-- A job that was not yet admitted when another one had been answered is applied
  after it. -/
  realTime : ∀ later, Reaches pool state later → ∃ more,
    later.shared.handled = state.shared.handled ++ more ∧
      (∀ channel ∈ state.shared.sent.map Prod.fst,
        channel ∈ state.shared.handled.map fun entry => entry.1.response) ∧
      ∀ entry ∈ later.shared.handled,
        entry.1.response ∉ state.shared.admitted.map WriteJob.response → entry ∈ more

theorem initial_identities {writer : Writer Data} {clients : List (Thread Data Value)}
    {idle : Value} (fresh : ∀ thread ∈ clients, thread.IsClient) :
    ∃ identities, (System.initial pool writer clients idle).threads.map Thread.identity =
        (true, []) :: identities ∧ ∀ entry ∈ identities, entry.1 = false := by
  refine ⟨clients.map Thread.identity, rfl, ?_⟩
  intro entry member
  obtain ⟨thread, isClient, rfl⟩ := List.mem_map.mp member
  obtain ⟨outer, program, rfl⟩ := fresh thread isClient
  rfl

/-- The committed database along a run of well-behaved jobs. -/
theorem Consistent.reaches {initial : Data} {identities : List (Bool × List Nat)}
    {state next : System Data Value} (consistent : Consistent pool.engine initial state)
    (ordered : Ordered pool ((true, []) :: identities) state) (recorded : Recorded state)
    (clients : ∀ entry ∈ identities, entry.1 = false) (run : Reaches pool state next)
    (wellBehaved : ∀ job ∈ next.shared.admitted, WellBehaved job) :
    Consistent pool.engine initial next := by
  induction run with
  | refl => exact consistent
  | tail earlier move inductionHypothesis =>
      have before := fun job member => wellBehaved job (move.grows.admitted.subset member)
      refine (inductionHypothesis before).move (ordered.reaches earlier) clients ?_ move
      intro job inFlight
      refine before job ?_
      rw [← (recorded.reaches ordered earlier).jobs]
      exact List.mem_append_left _ (List.mem_append_right _ inFlight)

theorem Recorded.admitted_nodup {state : System Data Value} (recorded : Recorded state) :
    (state.shared.admitted.map WriteJob.response).Nodup := by
  refine List.nodup_iff_count_le_one.mpr fun channel => ?_
  have counted := recorded.admission channel
  have atMost := started_le_one state.shared.channels channel
  change jobCount channel state.shared.admitted ≤ 1
  omega

theorem Recorded.returned_nodup {state : System Data Value} (recorded : Recorded state) :
    (state.shared.returned.map Prod.fst).Nodup := by
  refine List.nodup_iff_count_le_one.mpr fun channel => ?_
  have counted := recorded.admission channel
  have returned := recorded.returns channel
  have atMost := started_le_one state.shared.channels channel
  change entryCount channel state.shared.returned ≤ 1
  omega

/-- A refused call was not admitted. -/
theorem Recorded.refused_not_admitted {state : System Data Value}
    (recorded : Recorded state) {entry : Nat × Error}
    (refused : entry ∈ state.shared.refused) :
    entry.1 ∉ state.shared.admitted.map WriteJob.response := by
  intro admitted
  have counted := recorded.admission entry.1
  have asRefused : 0 < entryCount entry.1 state.shared.refused :=
    List.count_pos_iff.mpr (List.mem_map_of_mem refused)
  have asAdmitted : 0 < jobCount entry.1 state.shared.admitted :=
    List.count_pos_iff.mpr admitted
  have atMost := started_le_one state.shared.channels entry.1
  omega

theorem Recorded.handled_admitted {state : System Data Value} (recorded : Recorded state)
    {entry : PoolJob Data Value × Result (Response Value)}
    (handled : entry ∈ state.shared.handled) : entry.1 ∈ state.shared.admitted := by
  rw [← recorded.jobs]
  exact List.mem_append_left _ (List.mem_append_left _ (List.mem_map_of_mem handled))

theorem Recorded.sent_handled {state : System Data Value} (recorded : Recorded state)
    {entry : Nat × Result (Response Value)} (sent : entry ∈ state.shared.sent) :
    ∃ job, (job, entry.2) ∈ state.shared.handled ∧ job.response = entry.1 := by
  have handled : entry ∈ state.shared.handled.map fun entry => (entry.1.response, entry.2) := by
    rw [← recorded.answers]
    exact List.mem_append_left _ sent
  obtain ⟨⟨job, response⟩, inHandled, rfl⟩ := List.mem_map.mp handled
  exact ⟨job, inHandled, rfl⟩

/-- The answers of an admitted job are the same wherever they are recorded. -/
theorem Recorded.handled_unique {state : System Data Value} (recorded : Recorded state)
    {job other : PoolJob Data Value} {response result : Result (Response Value)}
    (first : (job, response) ∈ state.shared.handled)
    (second : (other, result) ∈ state.shared.handled)
    (sameChannel : job.response = other.response) : job = other ∧ response = result := by
  have distinct := recorded.admitted_nodup
  rw [← recorded.jobs, List.map_append, List.map_append] at distinct
  have channels := (List.nodup_append.mp (List.nodup_append.mp distinct).1).1
  rw [List.map_map] at channels
  have same := List.inj_on_of_nodup_map channels first second sameChannel
  exact ⟨congrArg Prod.fst same, congrArg Prod.snd same⟩

/-- When no thread is inside of a submission, every admitted call has returned. -/
theorem Recorded.complete {state : System Data Value} (recorded : Recorded state)
    (outside : ∀ thread ∈ state.threads, thread.control.place ≠ .submission) :
    ∀ job ∈ state.shared.admitted, ∃ response,
      (job, response) ∈ state.shared.handled ∧
        (job.response, response) ∈ state.shared.returned := by
  intro job admitted
  have noneAwaits : state.total (Thread.awaiting job.response) = 0 :=
    total_eq_zero fun thread member => thread.awaiting_eq_zero (outside thread member) _
  have noneRefusing : state.total (Thread.refusing job.response) = 0 :=
    total_eq_zero fun thread member => thread.refusing_eq_zero (outside thread member) _
  have isAdmitted : job.response ∈ state.shared.admitted.map WriteJob.response :=
    List.mem_map_of_mem admitted
  have counted := recorded.returns job.response
  have asAdmitted : 0 < jobCount job.response state.shared.admitted :=
    List.count_pos_iff.mpr isAdmitted
  have returned : job.response ∈ state.shared.returned.map Prod.fst := by
    refine List.count_pos_iff.mp ?_
    change 0 < entryCount job.response state.shared.returned
    omega
  obtain ⟨⟨channel, response⟩, inReturned, sameChannel⟩ := List.mem_map.mp returned
  have sameChannel : channel = job.response := sameChannel
  subst sameChannel
  rcases recorded.results _ inReturned with sent | ⟨error, -, refused⟩
  · obtain ⟨other, handled, channelOf⟩ := recorded.sent_handled sent
    have same : other = job :=
      List.inj_on_of_nodup_map recorded.admitted_nodup (recorded.handled_admitted handled)
        admitted channelOf
    subst same
    exact ⟨response, handled, inReturned⟩
  · exact absurd isAdmitted (recorded.refused_not_admitted refused)

/-- In every interleaving of any number of clients with the writer, as long as the
admitted jobs are well behaved, the writes of the pool are serial. -/
theorem pool_writes_are_serial (pool : PoolConfiguration Data) (writer : Writer Data)
    (idle : Value) (clients : List (Thread Data Value))
    (fresh : ∀ thread ∈ clients, thread.IsClient)
    (autocommit : writer.connection.transaction = none) (state : System Data Value)
    (run : Reaches pool (System.initial pool writer clients idle) state)
    (wellBehaved : ∀ job ∈ state.shared.admitted, WellBehaved job) :
    SerialWrites pool writer.connection.committed state := by
  have startOrdered : Ordered pool _ (System.initial pool writer clients idle) :=
    Ordered.initial fresh
  have startRecorded : Recorded (System.initial pool writer clients idle) :=
    (@Recorded.initial _ _ pool) fresh
  obtain ⟨identities, sameIdentities, areClients⟩ :=
    (@initial_identities _ _ pool writer _ idle) fresh
  rw [sameIdentities] at startOrdered
  have ordered := startOrdered.reaches run
  have recorded := startRecorded.reaches startOrdered run
  have attentive := ((@Attentive.initial _ _ pool writer _ idle)
    fresh).reaches startOrdered run
  have start : Consistent pool.engine writer.connection.committed
      (System.initial pool writer clients idle) :=
    ⟨fun _ => ⟨autocommit, .nil _⟩, nofun⟩
  have consistent := start.reaches startOrdered startRecorded areClients run wellBehaved
  refine ⟨consistent.between, recorded.jobs, recorded.admitted_nodup, ?_, ?_, ?_, ?_, ?_⟩
  · rw [← recorded.answers]
    exact List.prefix_append _ _
  · refine ⟨recorded.returned_nodup, fun entry returned admitted => ?_⟩
    rcases recorded.results entry returned with sent | ⟨error, -, refused⟩
    · exact sent
    · exact absurd admitted (recorded.refused_not_admitted refused)
  · intro stuck
    have rest := all_at_rest_of_stuck stuck ordered attentive recorded
    exact recorded.complete fun thread member => (rest thread member).outside
  · constructor
    · intro later onwards entry refused
      exact (recorded.reaches ordered onwards).refused_not_admitted
        ((Grows.reaches onwards).refused.subset refused)
    · intro channel error returned job response handled sameChannel
      rcases recorded.results _ returned with sent | ⟨other, -, refused⟩
      · obtain ⟨sender, sentHandled, channelOf⟩ := recorded.sent_handled sent
        have same := (recorded.handled_unique handled sentHandled
          (sameChannel.trans channelOf.symm)).2
        cases same
      · refine recorded.refused_not_admitted refused ?_
        rw [← sameChannel]
        exact List.mem_map_of_mem (recorded.handled_admitted handled)
  · intro later onwards
    obtain ⟨more, grown⟩ := (Grows.reaches onwards).handled
    refine ⟨more, grown.symm, ?_, ?_⟩
    · intro channel sent
      obtain ⟨entry, inSent, rfl⟩ := List.mem_map.mp sent
      obtain ⟨job, handled, channelOf⟩ := recorded.sent_handled inSent
      rw [← channelOf]
      exact List.mem_map.mpr ⟨_, handled, rfl⟩
    · intro entry handled notAdmitted
      rw [← grown] at handled
      rcases List.mem_append.mp handled with early | late
      · exact absurd (List.mem_map_of_mem (recorded.handled_admitted early)) notAdmitted
      · exact late

/-- A callback that stores five rows. -/
def storingCallback : Program Nat Nat :=
  .database
    (fun connection => ({ connection with committed := connection.committed + 5 }, 5))
    fun rows => .ends (.returned (.ok rows))

theorem storingCallback_atomic : AtomicCallback storingCallback := by
  intro before after outcome opened runs
  cases runs with
  | database rest =>
      cases rest with
      | ends => exact ⟨opened, nofun⟩
      | read reads => cases reads
      | submission submits => cases submits
  | read reads => cases reads
  | submission submits => cases submits

def writingClients : List (Thread Nat Nat) :=
  [.start false [] (.write storingCallback fun _ => .ends (.returned (.ok 1))),
    .start false [] (.execute (insertRows 1) fun _ => .ends (.returned (.ok 2)))]

def storingPool : System Nat Nat :=
  System.initial smallPool
    (.new { enabled := false, checkpointIntervalCommits := 1, walSoftLimitFrames := 0 }
      (idleConnection 0)) writingClients 0

/-- A step of the thread behind the threads `before`. -/
theorem Move.ofThread {pool : PoolConfiguration Nat} {shared shared' : Shared Nat Nat}
    {after : List (Thread Nat Nat)} {thread thread' : Thread Nat Nat} {notice : Notice}
    {next : System Nat Nat} (before : List (Thread Nat Nat))
    (step : ThreadStep pool shared thread shared' thread' notice)
    (notified : Notified notice ⟨shared', before ++ thread' :: after⟩ next) :
    Move pool ⟨shared, before ++ thread :: after⟩ next :=
  .step (.thread step notified)

/-- One client writes with a callback and has returned; the group of the other one is
committed and not answered yet. -/
theorem storingPool_runs :
    ∃ state, Reaches smallPool storingPool state ∧
      state.shared.returned = [(0, .ok (.value 5))] ∧
      state.shared.writer.connection.committed = 6 ∧
      ∀ job ∈ state.shared.admitted, WellBehaved job := by
  refine ⟨?state, ?run, ?returned, ?committed, ?wellBehaved⟩
  case run =>
    refine .head (Move.ofThread [_] (.submits rfl rfl rfl nofun) (.nothing _)) ?_
    refine .head (Move.ofThread [_] (.accepted rfl (.first _) rfl) (.nothing _)) ?_
    refine .head (Move.ofThread [_] (.countsSubmitted rfl) (.nothing _)) ?_
    refine .head (Move.ofThread [_] (.notifiesWriter rfl) (.writer _)) ?_
    refine .head (.step (.writer (.pops false rfl nofun rfl) (.submitters _))) ?_
    refine .head (Move.ofThread [] (.writes rfl rfl rfl) (.nothing _)) ?_
    refine .head (.step (.writer (.called rfl rfl rfl) (.nothing _))) ?_
    refine .head (.step (.writer (.maintains (.error storageFailed) rfl) (.nothing _))) ?_
    refine .head (.step (.writer (.counts rfl) (.nothing _))) ?_
    refine .head (.step (.writer (.answers rfl) (.nothing _))) ?_
    refine .head (.step (.writer (.finishes rfl) (.nothing _))) ?_
    refine .head (Move.ofThread [_] (@ThreadStep.receives _ _ _ _ _ _ _ (.ok (.value 5))
      rfl (List.mem_singleton.mpr rfl)) (.nothing _)) ?_
    -- The other client, whose job fills a group of its own.
    refine .head (Move.ofThread [_, _] (.submits rfl rfl rfl nofun) (.nothing _)) ?_
    refine .head (Move.ofThread [_, _] (.accepted rfl (.first _) rfl) (.nothing _)) ?_
    refine .head (Move.ofThread [_, _] (.countsSubmitted rfl) (.nothing _)) ?_
    refine .head (Move.ofThread [_, _] (.notifiesWriter rfl) (.writer _)) ?_
    refine .head (.step (.writer (@WriterStep.pops _ _ _ _ _ _ ⟨[], true⟩
      (.group [⟨[insertRows 1], 1⟩]) true rfl nofun rfl) (.submitters _))) ?_
    refine .head (.step (.writer (.committed rfl (Prod.ext rfl (Prod.ext rfl rfl)))
      (.nothing _))) ?_
    exact .refl
  case returned => rfl
  case committed => decide
  case wellBehaved =>
    intro job member
    rcases List.mem_append.mp member with first | second
    · obtain rfl := List.mem_singleton.mp first
      exact storingCallback_atomic
    · obtain rfl := List.mem_singleton.mp second
      intro statement inJob
      obtain rfl := List.mem_singleton.mp inJob
      rfl

theorem writingClients_areClients : ∀ thread ∈ writingClients, thread.IsClient := by
  intro thread member
  simp only [writingClients, List.mem_cons, List.not_mem_nil, or_false] at member
  rcases member with rfl | rfl
  · exact ⟨_, _, rfl⟩
  · exact ⟨_, _, rfl⟩

theorem stored_rows_are_serial :
    ∃ state, Reaches smallPool storingPool state ∧
      state.shared.returned = [(0, .ok (.value 5))] ∧
      state.shared.writer.connection.committed = 6 ∧ SerialWrites smallPool 0 state := by
  obtain ⟨state, run, returned, committed, wellBehaved⟩ := storingPool_runs
  exact ⟨state, run, returned, committed, pool_writes_are_serial smallPool _ 0 writingClients
    writingClients_areClients rfl state run wellBehaved⟩

end Csgdb.Pool
