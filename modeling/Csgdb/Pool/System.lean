/-
Module: Csgdb.Pool.System
Purpose: A pool with its writer thread and any number of client threads, as a step
  relation: every interleaving of what they do outside and inside its locks.
Trusted boundary: what a thread does while it holds a lock is one step.  A condition
  variable wakes any one sleeper, or all, or one spuriously.  Timeouts and deadlines
  may pass at any time, the engine answers checkpoints, and reads see any database.
Main exports: PoolConfiguration, WriterPhase, Shared, System, ThreadStep, WriterStep,
  Step, Disturbance, Move, Reaches
-/
import Csgdb.Pool.Program
import Mathlib.Logic.Relation

namespace Csgdb.Pool

open Storage

variable {Data Value : Type}

/-! ## The state -/

/-- The validated options of a pool, its identity and its engine. -/
structure PoolConfiguration (Data : Type) where
  engine : TransactionEngine Data
  identity : Nat
  readConnections : Nat
  writeQueueCapacity : Nat
  maxJobs : Nat
  readConnections_pos : 0 < readConnections
  writeQueueCapacity_pos : 0 < writeQueueCapacity
  maxJobs_pos : 0 < maxJobs

/-- Answers on their way to their channels. -/
abbrev Responses (Value : Type) := List (Nat × Result (Response Value))

/-- Where the writer thread is.  After a job, `written` holds its answers until the
log was maintained, if that is due, and `counting` until the job is counted. -/
inductive WriterPhase (Data Value : Type) where
  | popping (wait : Wait)
  | collecting (wait : Wait) (group : List (GroupableWrite Data Nat))
  | calling (body : Program Data Value) (channel : Nat)
  | maintaining (operation : Maintenance) (channel : Nat)
  | committing (group : List (GroupableWrite Data Nat))
  | written (due : Bool) (uncounted : Nat) (responses : Responses Value)
  | counting (uncounted : Nat) (responses : Responses Value)
  | answering (responses : Responses Value)
  | exited

/-- Everything that the threads share.  Calls that submit a job are numbered by
`channels`; `admitted`, `refused`, `handled`, `sent` and `returned` record the jobs
that entered the queue, the calls that did not, the jobs that have been run with
their answers, the answers sent, and the results of calls, each in its order. -/
structure Shared (Data Value : Type) where
  queue : WriteQueueState (ExclusiveOperation Data Value) Data Nat
  readers : ReadPool
  phase : WriterPhase Data Value
  writer : Writer Data
  channels : Nat
  admitted : List (PoolJob Data Value)
  refused : List (Nat × Error)
  handled : List (PoolJob Data Value × Result (Response Value))
  sent : Responses Value
  returned : Responses Value

/-- The pool and its threads; the writer thread comes first. -/
structure System (Data Value : Type) where
  shared : Shared Data Value
  threads : List (Thread Data Value)

namespace WriterPhase

/-- The jobs that the writer has dequeued and not run to their end. -/
def inFlight : WriterPhase Data Value → List (PoolJob Data Value)
  | .collecting _ group => group.map .groupable
  | .calling body channel => [.exclusive (.callback body) channel]
  | .maintaining operation channel => [.exclusive (.maintenance operation) channel]
  | .committing group => group.map .groupable
  | _ => []

/-- The answers that the writer has not sent yet. -/
def unsent : WriterPhase Data Value → Responses Value
  | .written _ _ responses => responses
  | .counting _ responses => responses
  | .answering responses => responses
  | _ => []

/-- `not_empty` is notified. -/
def wake : WriterPhase Data Value → WriterPhase Data Value
  | .popping .asleep => .popping .notified
  | .collecting .asleep group => .collecting .notified group
  | phase => phase

end WriterPhase

/-- The channels that somebody can still send to. -/
def Shared.senders (shared : Shared Data Value) : List Nat :=
  shared.queue.jobs.map WriteJob.response ++
    shared.phase.inFlight.map WriteJob.response ++ shared.phase.unsent.map Prod.fst

/-! ## Notifications -/

/-- The condition variable that a step notifies: one reader, the writer, or all
submitters. -/
inductive Notice where
  | nothing
  | reader
  | writer
  | submitters

/-- A notification; one that finds nobody asleep is lost. -/
inductive Notified : Notice → System Data Value → System Data Value → Prop
  | nothing (state : System Data Value) : Notified .nothing state state
  | reader {shared : Shared Data Value} {before after : List (Thread Data Value)}
      {thread : Thread Data Value} {body : Program Data Value} {resume : Resume Data Value}
      (asleep : thread.control = .checkout .asleep body resume) :
      Notified .reader ⟨shared, before ++ thread :: after⟩
        ⟨shared, before ++ thread.wakeReader .notified :: after⟩
  | noReader {state : System Data Value}
      (awake : ∀ thread ∈ state.threads, ∀ body resume,
        thread.control ≠ .checkout .asleep body resume) : Notified .reader state state
  | writer (state : System Data Value) :
      Notified .writer state
        { state with shared := { state.shared with phase := state.shared.phase.wake } }
  | submitters (state : System Data Value) :
      Notified .submitters state
        { state with threads := state.threads.map Thread.wakeSubmitter }

/-! ## Threads -/

def reentrantWrite : Error :=
  { code := .reentrantWrite
    message := "a database callback cannot synchronously submit a nested write" }

def writerStopped : Error :=
  { code := .connectionManagerClosed
    message := "database writer stopped before returning a result" }

def Outcome.map {Other : Type} (convert : Value → Other) : Outcome Value → Outcome Other
  | .returned result => .returned (result.map convert)
  | .panicked => .panicked

/-- A submitter that gets the lock: for the first time, after it was woken, or when
its timeout has passed. -/
inductive Attempt : Wait → WriteBackpressure → Option Bool → Prop
  | first (policy : WriteBackpressure) : Attempt .entering policy none
  | woken (policy : WriteBackpressure) (expired : Bool) :
      Attempt .notified policy (some expired)
  | expired : Attempt .asleep .timeout (some true)

/-- The counter of rejected jobs. -/
def PoolMetrics.rejected (error : Error) (metrics : PoolMetrics) : PoolMetrics :=
  if error.code = .writeQueueFull ∨ error.code = .writeQueueTimeout then
    { metrics with writeJobsRejected := metrics.writeJobsRejected + 1 }
  else metrics

/-- The counter of submitted jobs. -/
def PoolMetrics.submitted (metrics : PoolMetrics) : PoolMetrics :=
  { metrics with writeJobsSubmitted := metrics.writeJobsSubmitted + 1 }

def Shared.updateMetrics (change : PoolMetrics → PoolMetrics) (shared : Shared Data Value) :
    Shared Data Value :=
  { shared with writer := { shared.writer with metrics := change shared.writer.metrics } }

variable (pool : PoolConfiguration Data)

/-- One step of a thread, with what it changes in the pool. -/
inductive ThreadStep : Shared Data Value → Thread Data Value → Shared Data Value →
    Thread Data Value → Notice → Prop
  /-- A callback of the writer uses its connection. -/
  | writes {shared : Shared Data Value} {thread : Thread Data Value}
      {operation : Connection Data → Connection Data × Value}
      {next : Value → Program Data Value}
      (place : thread.control = .running (.database operation next))
      (worker : thread.inWriteWorker = true) (outside : thread.stack = []) :
      ThreadStep shared thread
        { shared with writer := { shared.writer with
            connection := (operation shared.writer.connection).1 } }
        (thread.goesOn (next (operation shared.writer.connection).2)) .nothing
  /-- Any other program uses its own connection, which may see any database. -/
  | queries {shared : Shared Data Value} {thread : Thread Data Value}
      {operation : Connection Data → Connection Data × Value}
      {next : Value → Program Data Value} (view : Connection Data)
      (place : thread.control = .running (.database operation next))
      (other : thread.inWriteWorker = false ∨ thread.stack ≠ []) :
      ThreadStep shared thread shared (thread.goesOn (next (operation view).2)) .nothing
  | readRefused {shared : Shared Data Value} {thread : Thread Data Value}
      {program body : Program Data Value} {resume : Resume Data Value} {blocking : Bool}
      {error : Error} (place : thread.control = .running program)
      (reads : program.reading = some (blocking, body, resume))
      (nested : ReadCallbackGuard.enter pool.identity thread.readCallbackPools =
        .error error) :
      ThreadStep shared thread shared
        (thread.goesOn (resume (.returned (.error error)))) .nothing
  | readEntered {shared : Shared Data Value} {thread : Thread Data Value}
      {program body : Program Data Value} {resume : Resume Data Value} {blocking : Bool}
      {pools : List Nat} (place : thread.control = .running program)
      (reads : program.reading = some (blocking, body, resume))
      (entered : ReadCallbackGuard.enter pool.identity thread.readCallbackPools =
        .ok pools) :
      ThreadStep shared thread shared
        { thread with
          readCallbackPools := pools
          control :=
            if blocking then .checkout .entering body resume
            else .tryCheckout body resume } .nothing
  | checkedOut {shared : Shared Data Value} {thread : Thread Data Value}
      {body : Program Data Value} {resume : Resume Data Value} {connection : Nat}
      {readers : ReadPool} (wants : thread.wantsReader = some (body, resume))
      (taken : shared.readers.checkout = some (connection, readers)) :
      ThreadStep shared thread { shared with readers := readers }
        { thread with
          control := .running body
          stack := { lease := connection, resume := resume } :: thread.stack } .nothing
  | checkoutSleeps {shared : Shared Data Value} {thread : Thread Data Value}
      {wait : Wait} {body : Program Data Value} {resume : Resume Data Value}
      (place : thread.control = .checkout wait body resume) (awake : wait ≠ .asleep)
      (empty : shared.readers.checkout = none) :
      ThreadStep shared thread shared
        { thread with control := .checkout .asleep body resume } .nothing
  | exhausted {shared : Shared Data Value} {thread : Thread Data Value}
      {body : Program Data Value} {resume : Resume Data Value}
      (place : thread.control = .tryCheckout body resume)
      (empty : shared.readers.checkout = none) :
      ThreadStep shared thread { shared with readers := shared.readers.rejected }
        { thread with
          readCallbackPools :=
            ReadCallbackGuard.drop pool.identity thread.readCallbackPools
          control := .running (resume (.returned (.error readPoolExhausted))) } .nothing
  /-- A read callback returns or panics: the lease and then the guard are dropped. -/
  | returns {shared : Shared Data Value} {thread : Thread Data Value}
      {outcome : Outcome Value} {frame : Frame Data Value}
      {frames : List (Frame Data Value)}
      (place : thread.control = .running (.ends outcome))
      (inside : thread.stack = frame :: frames) :
      ThreadStep shared thread
        { shared with readers := shared.readers.release frame.lease }
        { thread with
          readCallbackPools :=
            ReadCallbackGuard.drop pool.identity thread.readCallbackPools
          control := .running (frame.resume (outcome.map .value))
          stack := frames } .reader
  | submitRefused {shared : Shared Data Value} {thread : Thread Data Value}
      {program : Program Data Value} {submission : Submission Data Value}
      (place : thread.control = .running program)
      (submits : program.submission = some submission)
      (nested : thread.inWriteWorker = true ∨ pool.identity ∈ thread.readCallbackPools) :
      ThreadStep shared thread
        { shared with
          channels := shared.channels + 1
          refused := shared.refused ++ [(shared.channels, reentrantWrite)]
          returned := shared.returned ++ [(shared.channels, .error reentrantWrite)] }
        (thread.goesOn (submission.resume (.returned (.error reentrantWrite)))) .nothing
  | submits {shared : Shared Data Value} {thread : Thread Data Value}
      {program : Program Data Value} {submission : Submission Data Value}
      (place : thread.control = .running program)
      (submits : program.submission = some submission)
      (client : thread.inWriteWorker = false)
      (outside : pool.identity ∉ thread.readCallbackPools) :
      ThreadStep shared thread { shared with channels := shared.channels + 1 }
        { thread with
          control := .push .entering submission.policy
            (submission.job shared.channels) submission.resume } .nothing
  | accepted {shared : Shared Data Value} {thread : Thread Data Value} {wait : Wait}
      {policy : WriteBackpressure} {resumed : Option Bool} {job : PoolJob Data Value}
      {resume : Resume Data Value}
      {queue : WriteQueueState (ExclusiveOperation Data Value) Data Nat}
      (place : thread.control = .push wait policy job resume)
      (attempt : Attempt wait policy resumed)
      (pushed : WriteQueue.push pool.writeQueueCapacity policy resumed job shared.queue =
        .accepted queue) :
      ThreadStep shared thread
        { shared with queue := queue, admitted := shared.admitted ++ [job] }
        { thread with control := .accepted job.response resume } .nothing
  | pushSleeps {shared : Shared Data Value} {thread : Thread Data Value} {wait : Wait}
      {policy : WriteBackpressure} {resumed : Option Bool} {job : PoolJob Data Value}
      {resume : Resume Data Value}
      (place : thread.control = .push wait policy job resume)
      (attempt : Attempt wait policy resumed)
      (pushed : WriteQueue.push pool.writeQueueCapacity policy resumed job shared.queue =
        .sleeps) :
      ThreadStep shared thread shared
        { thread with control := .push .asleep policy job resume } .nothing
  | refused {shared : Shared Data Value} {thread : Thread Data Value} {wait : Wait}
      {policy : WriteBackpressure} {resumed : Option Bool} {job : PoolJob Data Value}
      {resume : Resume Data Value} {error : Error}
      (place : thread.control = .push wait policy job resume)
      (attempt : Attempt wait policy resumed)
      (pushed : WriteQueue.push pool.writeQueueCapacity policy resumed job shared.queue =
        .refused error) :
      ThreadStep shared thread
        { shared with refused := shared.refused ++ [(job.response, error)] }
        { thread with control := .refused job.response error resume } .nothing
  | refusedReturns {shared : Shared Data Value} {thread : Thread Data Value}
      {channel : Nat} {error : Error} {resume : Resume Data Value}
      (place : thread.control = .refused channel error resume) :
      ThreadStep shared thread
        { shared.updateMetrics (.rejected error) with
          returned := shared.returned ++ [(channel, .error error)] }
        (thread.goesOn (resume (.returned (.error error)))) .nothing
  | countsSubmitted {shared : Shared Data Value} {thread : Thread Data Value}
      {channel : Nat} {resume : Resume Data Value}
      (place : thread.control = .accepted channel resume) :
      ThreadStep shared thread (shared.updateMetrics .submitted)
        { thread with control := .notifying channel resume } .nothing
  | notifiesWriter {shared : Shared Data Value} {thread : Thread Data Value}
      {channel : Nat} {resume : Resume Data Value}
      (place : thread.control = .notifying channel resume) :
      ThreadStep shared thread shared
        { thread with control := .receiving channel resume } .writer
  | receives {shared : Shared Data Value} {thread : Thread Data Value}
      {channel : Nat} {resume : Resume Data Value} {response : Result (Response Value)}
      (place : thread.control = .receiving channel resume)
      (arrived : (channel, response) ∈ shared.sent) :
      ThreadStep shared thread
        { shared with returned := shared.returned ++ [(channel, response)] }
        (thread.goesOn (resume (.returned response))) .nothing
  /-- `recv` fails when nothing was sent and no sender is left. -/
  | disconnected {shared : Shared Data Value} {thread : Thread Data Value}
      {channel : Nat} {resume : Resume Data Value}
      (place : thread.control = .receiving channel resume)
      (silent : channel ∉ shared.sent.map Prod.fst)
      (dropped : channel ∉ shared.senders) :
      ThreadStep shared thread
        { shared with returned := shared.returned ++ [(channel, .error writerStopped)] }
        (thread.goesOn (resume (.returned (.error writerStopped)))) .nothing

/-! ## The writer -/

/-- The writer after it gave the queue's lock back. -/
def WriterPhase.ofTaken :
    WriteQueue.Taken (ExclusiveOperation Data Value) Data Nat → WriterPhase Data Value
  | .sleeps => .popping .asleep
  | .closed => .exited
  | .exclusive (.callback body) channel => .calling body channel
  | .exclusive (.maintenance operation) channel => .maintaining operation channel
  | .group jobs => .committing jobs
  | .waitsForMore jobs => .collecting .asleep jobs

/-- The writer thread starts the callback of an exclusive job. -/
def Thread.starts (taken : WriteQueue.Taken (ExclusiveOperation Data Value) Data Nat)
    (thread : Thread Data Value) : Thread Data Value :=
  match taken with
  | .exclusive (.callback body) _ => thread.goesOn body
  | _ => thread

/-- `writer_active` is set when a job was dequeued. -/
def Writer.receives (taken : WriteQueue.Taken (ExclusiveOperation Data Value) Data Nat)
    (writer : Writer Data) : Writer Data :=
  match taken with
  | .exclusive _ _ => { writer with metrics := { writer.metrics with writerActive := true } }
  | .group _ => { writer with metrics := { writer.metrics with writerActive := true } }
  | _ => writer

/-- The end of a job, before its answers are sent. -/
def Writer.leavesJob (uncounted : Nat) (writer : Writer Data) : Writer Data :=
  { writer with
    metrics := { writer.metrics.completed uncounted with writerActive := false } }

/-- Every job that leaves the queue is announced to the submitters. -/
def takeNotice (before after : WriteQueueState (ExclusiveOperation Data Value) Data Nat) :
    Notice :=
  if after.jobs.length < before.jobs.length then .submitters else .nothing

/-- The writer wakes up while it collects: notified, or at its deadline. -/
inductive Collects : Wait → Bool → Prop
  | woken {wait : Wait} (awake : wait ≠ .asleep) (expired : Bool) : Collects wait expired
  | expired : Collects .asleep true

/-- The answers of a group, on their channels. -/
def groupResponses (responses : List (GroupWriteResponse Nat)) : Responses Value :=
  responses.map fun response => (response.1, response.2.map .changes)

/-- One step of the writer thread outside of callbacks. -/
inductive WriterStep : Shared Data Value → Thread Data Value → Shared Data Value →
    Thread Data Value → Notice → Prop
  | pops {shared : Shared Data Value} {thread : Thread Data Value} {wait : Wait}
      {queue : WriteQueueState (ExclusiveOperation Data Value) Data Nat}
      {taken : WriteQueue.Taken (ExclusiveOperation Data Value) Data Nat} (expired : Bool)
      (place : shared.phase = .popping wait) (awake : wait ≠ .asleep)
      (popped : WriteQueue.pop pool.maxJobs expired shared.queue = (queue, taken)) :
      WriterStep shared thread
        { shared with
          queue := queue
          phase := .ofTaken taken
          writer := shared.writer.receives taken }
        (thread.starts taken) (takeNotice shared.queue queue)
  | collects {shared : Shared Data Value} {thread : Thread Data Value} {wait : Wait}
      {group : List (GroupableWrite Data Nat)} {expired : Bool}
      {queue : WriteQueueState (ExclusiveOperation Data Value) Data Nat}
      {taken : WriteQueue.Taken (ExclusiveOperation Data Value) Data Nat}
      (place : shared.phase = .collecting wait group) (resumes : Collects wait expired)
      (collected : WriteQueue.collectMore pool.maxJobs expired group shared.queue =
        (queue, taken)) :
      WriterStep shared thread
        { shared with
          queue := queue
          phase := .ofTaken taken
          writer := shared.writer.receives taken }
        thread (takeNotice shared.queue queue)
  /-- The callback of an exclusive job has ended; a panic is caught here. -/
  | called {shared : Shared Data Value} {thread : Thread Data Value}
      {body : Program Data Value} {channel : Nat} {outcome : Outcome Value}
      (place : shared.phase = .calling body channel)
      (ended : thread.control = .running (.ends outcome)) (outside : thread.stack = []) :
      WriterStep shared thread
        { shared with
          phase := .written true 1 [(channel, outcome.response.map .value)]
          handled := shared.handled ++
            [(.exclusive (.callback body) channel, outcome.response.map .value)] }
        thread .nothing
  | maintained {shared : Shared Data Value} {thread : Thread Data Value}
      {operation : Maintenance} {channel : Nat} {writer : Writer Data}
      {response : Result MaintenanceAnswer}
      (checkpointed : Result CheckpointResult) (changed : Result Unit)
      (place : shared.phase = .maintaining operation channel)
      (performed : operation.perform checkpointed changed shared.writer =
        (writer, response)) :
      WriterStep shared thread
        { shared with
          writer := writer
          phase := .written false 1 [(channel, response.map .maintenance)]
          handled := shared.handled ++
            [(.exclusive (.maintenance operation) channel, response.map .maintenance)] }
        thread .nothing
  | committed {shared : Shared Data Value} {thread : Thread Data Value}
      {group : List (GroupableWrite Data Nat)} {connection : Connection Data}
      {metrics : PoolMetrics} {completion : GroupCommitCompletion Nat}
      (place : shared.phase = .committing group)
      (executed : executeGroupCommit pool.engine group shared.writer.connection
        shared.writer.metrics = (connection, metrics, completion)) :
      WriterStep shared thread
        { shared with
          writer := { shared.writer with connection := connection, metrics := metrics }
          phase := .written completion.committed 0 (groupResponses completion.responses)
          handled := shared.handled ++
            (group.map .groupable).zip
              ((groupResponses completion.responses).map Prod.snd) }
        thread .nothing
  | maintains {shared : Shared Data Value} {thread : Thread Data Value} {due : Bool}
      {uncounted : Nat} {responses : Responses Value} (automatic : Result CheckpointResult)
      (place : shared.phase = .written due uncounted responses) :
      WriterStep shared thread
        { shared with
          writer := if due then shared.writer.afterWrite automatic else shared.writer
          phase := .counting uncounted responses } thread .nothing
  | counts {shared : Shared Data Value} {thread : Thread Data Value} {uncounted : Nat}
      {responses : Responses Value}
      (place : shared.phase = .counting uncounted responses) :
      WriterStep shared thread
        { shared with
          writer := shared.writer.leavesJob uncounted
          phase := .answering responses } thread .nothing
  | answers {shared : Shared Data Value} {thread : Thread Data Value} {channel : Nat}
      {response : Result (Response Value)} {responses : Responses Value}
      (place : shared.phase = .answering ((channel, response) :: responses)) :
      WriterStep shared thread
        { shared with
          sent := shared.sent ++ [(channel, response)]
          phase := .answering responses } thread .nothing
  | finishes {shared : Shared Data Value} {thread : Thread Data Value}
      (place : shared.phase = .answering []) :
      WriterStep shared thread { shared with phase := .popping .entering } thread .nothing

/-! ## The system -/

/-- One thread takes a step. -/
inductive Step : System Data Value → System Data Value → Prop
  | thread {shared shared' : Shared Data Value} {before after : List (Thread Data Value)}
      {thread thread' : Thread Data Value} {notice : Notice} {next : System Data Value}
      (step : ThreadStep pool shared thread shared' thread' notice)
      (notified : Notified notice ⟨shared', before ++ thread' :: after⟩ next) :
      Step ⟨shared, before ++ thread :: after⟩ next
  | writer {shared shared' : Shared Data Value} {clients : List (Thread Data Value)}
      {thread thread' : Thread Data Value} {notice : Notice} {next : System Data Value}
      (step : WriterStep pool shared thread shared' thread' notice)
      (notified : Notified notice ⟨shared', thread' :: clients⟩ next) :
      Step ⟨shared, thread :: clients⟩ next

/-- What happens without any thread: spurious wake-ups, and the end of the pool. -/
inductive Disturbance : System Data Value → System Data Value → Prop
  | reader {shared : Shared Data Value} {before after : List (Thread Data Value)}
      (thread : Thread Data Value) :
      Disturbance ⟨shared, before ++ thread :: after⟩
        ⟨shared, before ++ thread.wakeReader .entering :: after⟩
  | submitter {shared : Shared Data Value} {before after : List (Thread Data Value)}
      (thread : Thread Data Value) :
      Disturbance ⟨shared, before ++ thread :: after⟩
        ⟨shared, before ++ thread.wakeSubmitter :: after⟩
  | writer (state : System Data Value) :
      Disturbance state
        { state with shared := { state.shared with phase := state.shared.phase.wake } }
  | closes (state : System Data Value) :
      Disturbance state
        { shared := { state.shared with
            queue := WriteQueue.close state.shared.queue, phase := state.shared.phase.wake }
          threads := state.threads.map Thread.wakeSubmitter }

inductive Move : System Data Value → System Data Value → Prop
  | step {state next : System Data Value} (step : Step pool state next) : Move state next
  | disturbance {state next : System Data Value} (disturbance : Disturbance state next) :
      Move state next

/-- Any interleaving. -/
def Reaches : System Data Value → System Data Value → Prop :=
  Relation.ReflTransGen (Move pool)

/-- A new pool over a writer that has done nothing yet, and the clients that come to
it. -/
def System.initial (writer : Writer Data) (clients : List (Thread Data Value))
    (idle : Value) : System Data Value where
  shared :=
    { queue := { jobs := [], accepting := true }
      readers :=
        { connections := List.range pool.readConnections
          active := 0
          rejectedCheckouts := 0 }
      phase := .popping .entering
      writer := writer
      channels := 0
      admitted := []
      refused := []
      handled := []
      sent := []
      returned := [] }
  threads := Thread.start true [] (.ends (.returned (.ok idle))) :: clients

end Csgdb.Pool
