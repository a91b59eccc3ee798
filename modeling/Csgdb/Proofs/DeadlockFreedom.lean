/-
Module: Csgdb.Proofs.DeadlockFreedom
Purpose: Threads that call one pool, nested in any way, never wait for each other in a
  circle.
Trusted boundary: none
Main exports: Blocked, thread_steps_or_blocked, writer_steps_or_waits,
  same_pool_deadlock_free
-/
import Csgdb.Proofs.History
import Csgdb.Proofs.GroupCommit

namespace Csgdb.Pool

open Storage

variable {Data Value : Type} {pool : PoolConfiguration Data}

/-! ## Threads that cannot go on by themselves -/

/-- A thread that waits: for a reader, for room in the queue, or for an answer. -/
inductive Blocked (shared : Shared Data Value) (thread : Thread Data Value) : Prop
  | reader {body : Program Data Value} {resume : Resume Data Value}
      (place : thread.control = .checkout .asleep body resume)
  | submitter {policy : WriteBackpressure} {job : PoolJob Data Value}
      {resume : Resume Data Value}
      (place : thread.control = .push .asleep policy job resume)
  | receiver {channel : Nat} {resume : Resume Data Value}
      (place : thread.control = .receiving channel resume)
      (silent : channel ∉ shared.sent.map Prod.fst)

/-- Some step of the thread is possible. -/
def CanStep (pool : PoolConfiguration Data) (shared : Shared Data Value)
    (thread : Thread Data Value) : Prop :=
  ∃ shared' thread' notice, ThreadStep pool shared thread shared' thread' notice

theorem canStep_submission {shared : Shared Data Value} {thread : Thread Data Value}
    {program : Program Data Value} {submission : Submission Data Value}
    (place : thread.control = .running program)
    (submits : program.submission = some submission) : CanStep pool shared thread := by
  by_cases nested : thread.inWriteWorker = true ∨
      pool.identity ∈ thread.readCallbackPools
  · exact ⟨_, _, _, .submitRefused place submits nested⟩
  · obtain ⟨client, outside⟩ := not_or.mp nested
    exact ⟨_, _, _, .submits place submits (Bool.eq_false_iff.mpr client) outside⟩

theorem canStep_reading {shared : Shared Data Value} {thread : Thread Data Value}
    {program body : Program Data Value} {resume : Resume Data Value} {blocking : Bool}
    (place : thread.control = .running program)
    (reads : program.reading = some (blocking, body, resume)) :
    CanStep pool shared thread := by
  cases entered : ReadCallbackGuard.enter pool.identity thread.readCallbackPools with
  | ok pools => exact ⟨_, _, _, .readEntered place reads entered⟩
  | error error => exact ⟨_, _, _, .readRefused place reads entered⟩

theorem canStep_push {shared : Shared Data Value} {thread : Thread Data Value}
    {wait : Wait} {policy : WriteBackpressure} {resumed : Option Bool}
    {job : PoolJob Data Value} {resume : Resume Data Value}
    (place : thread.control = .push wait policy job resume)
    (attempt : Attempt wait policy resumed) : CanStep pool shared thread := by
  cases pushed : WriteQueue.push pool.writeQueueCapacity policy resumed job
      shared.queue with
  | accepted queue => exact ⟨_, _, _, .accepted place attempt pushed⟩
  | refused error => exact ⟨_, _, _, .refused place attempt pushed⟩
  | sleeps => exact ⟨_, _, _, .pushSleeps place attempt pushed⟩

/-- A program goes on, or it has ended outside of any read. -/
theorem running_steps {shared : Shared Data Value} {thread : Thread Data Value}
    {program : Program Data Value} (place : thread.control = .running program) :
    thread.AtRest ∨ CanStep pool shared thread := by
  cases program with
  | ends outcome =>
      cases stack : thread.stack with
      | nil => exact .inl ⟨⟨outcome, place⟩, stack⟩
      | cons frame frames => exact .inr ⟨_, _, _, .returns place stack⟩
  | database operation next =>
      by_cases own : thread.inWriteWorker = true ∧ thread.stack = []
      · exact .inr ⟨_, _, _, .writes place own.1 own.2⟩
      · refine .inr ⟨_, _, _, .queries shared.writer.connection place ?_⟩
        cases worker : thread.inWriteWorker with
        | false => exact .inl rfl
        | true => exact .inr fun outside => own ⟨worker, outside⟩
  | read body resume => exact .inr (canStep_reading place rfl)
  | tryRead body resume => exact .inr (canStep_reading place rfl)
  | writeWithPolicy policy body resume => exact .inr (canStep_submission place rfl)
  | executeTransaction statements resume => exact .inr (canStep_submission place rfl)
  | maintain operation resume => exact .inr (canStep_submission place rfl)

/-- A thread rests, or waits, or can take a step. -/
theorem thread_steps_or_blocked (shared : Shared Data Value) (thread : Thread Data Value) :
    thread.AtRest ∨ Blocked shared thread ∨ CanStep pool shared thread := by
  cases place : thread.control with
  | running program => exact (running_steps place).imp_right .inr
  | checkout wait body resume =>
      cases wait with
      | asleep => exact .inr (.inl (.reader place))
      | entering =>
          cases taken : shared.readers.checkout with
          | none => exact .inr (.inr ⟨_, _, _, .checkoutSleeps place (by decide) taken⟩)
          | some lease =>
              exact .inr (.inr ⟨_, _, _, .checkedOut (by rw [Thread.wantsReader, place]) taken⟩)
      | notified =>
          cases taken : shared.readers.checkout with
          | none => exact .inr (.inr ⟨_, _, _, .checkoutSleeps place (by decide) taken⟩)
          | some lease =>
              exact .inr (.inr ⟨_, _, _, .checkedOut (by rw [Thread.wantsReader, place]) taken⟩)
  | tryCheckout body resume =>
      cases taken : shared.readers.checkout with
      | none => exact .inr (.inr ⟨_, _, _, .exhausted place taken⟩)
      | some lease =>
          exact .inr (.inr ⟨_, _, _, .checkedOut (by rw [Thread.wantsReader, place]) taken⟩)
  | push wait policy job resume =>
      cases wait with
      | entering => exact .inr (.inr (canStep_push place (.first policy)))
      | notified => exact .inr (.inr (canStep_push place (.woken policy true)))
      | asleep => exact .inr (.inl (.submitter place))
  | refused channel error resume => exact .inr (.inr ⟨_, _, _, .refusedReturns place⟩)
  | accepted channel resume => exact .inr (.inr ⟨_, _, _, .countsSubmitted place⟩)
  | notifying channel resume => exact .inr (.inr ⟨_, _, _, .notifiesWriter place⟩)
  | receiving channel resume =>
      by_cases arrived : channel ∈ shared.sent.map Prod.fst
      · obtain ⟨⟨sender, response⟩, sent, rfl⟩ := List.mem_map.mp arrived
        exact .inr (.inr ⟨_, _, _, .receives place sent⟩)
      · exact .inr (.inl (.receiver place arrived))

/-! ## Steps of the system -/

theorem exists_notified (notice : Notice) (state : System Data Value) :
    ∃ next, Notified notice state next := by
  cases notice with
  | nothing => exact ⟨_, .nothing state⟩
  | writer => exact ⟨_, .writer state⟩
  | submitters => exact ⟨_, .submitters state⟩
  | reader =>
      by_cases asleep : ∃ thread ∈ state.threads, ∃ body resume,
          thread.control = .checkout .asleep body resume
      · obtain ⟨thread, member, body, resume, place⟩ := asleep
        obtain ⟨before, after, split⟩ := List.append_of_mem member
        obtain ⟨shared, threads⟩ := state
        obtain rfl : threads = before ++ thread :: after := split
        exact ⟨_, .reader place⟩
      · exact ⟨_, .noReader fun thread member body resume place =>
          asleep ⟨thread, member, body, resume, place⟩⟩

theorem step_of_canStep {state : System Data Value} {thread : Thread Data Value}
    (member : thread ∈ state.threads) (steps : CanStep pool state.shared thread) :
    ∃ next, Step pool state next := by
  obtain ⟨shared', thread', notice, step⟩ := steps
  obtain ⟨before, after, split⟩ := List.append_of_mem member
  obtain ⟨shared, threads⟩ := state
  obtain rfl : threads = before ++ thread :: after := split
  obtain ⟨next, notified⟩ := exists_notified notice ⟨shared', before ++ thread' :: after⟩
  exact ⟨next, .thread step notified⟩

/-- The writer goes on, unless it sleeps in front of the queue, has stopped, or runs a
callback that has not ended. -/
theorem writer_steps_or_waits (shared : Shared Data Value) (thread : Thread Data Value) :
    (∃ shared' thread' notice, WriterStep pool shared thread shared' thread' notice) ∨
      shared.phase = .popping .asleep ∨ shared.phase = .exited ∨
      (shared.phase.isCalling = true ∧ ¬ thread.AtRest) := by
  cases place : shared.phase with
  | popping wait =>
      by_cases asleep : wait = .asleep
      · subst asleep
        exact .inr (.inl rfl)
      · exact .inl ⟨_, _, _, .pops true place asleep rfl⟩
  | collecting wait group =>
      by_cases asleep : wait = .asleep
      · subst asleep
        exact .inl ⟨_, _, _, .collects place .expired rfl⟩
      · exact .inl ⟨_, _, _, .collects place (.woken asleep true) rfl⟩
  | calling body channel =>
      by_cases rest : thread.AtRest
      · obtain ⟨⟨outcome, ended⟩, outside⟩ := rest
        exact .inl ⟨_, _, _, .called place ended outside⟩
      · exact .inr (.inr (.inr ⟨rfl, rest⟩))
  | maintaining operation channel =>
      exact .inl ⟨_, _, _, .maintained (.error storageFailed) (.ok ()) place rfl⟩
  | committing group => exact .inl ⟨_, _, _, .committed place rfl⟩
  | written due uncounted responses =>
      exact .inl ⟨_, _, _, .maintains (.error storageFailed) place⟩
  | counting uncounted responses => exact .inl ⟨_, _, _, .counts place⟩
  | answering responses =>
      cases responses with
      | nil => exact .inl ⟨_, _, _, .finishes place⟩
      | cons response rest => exact .inl ⟨_, _, _, .answers place⟩
  | exited => exact .inr (.inr (.inl rfl))

/-! ## Progress -/

theorem total_eq_zero {state : System Data Value} {score : Thread Data Value → Nat}
    (zero : ∀ thread ∈ state.threads, score thread = 0) : state.total score = 0 := by
  refine List.sum_eq_zero_iff_forall_eq_nat.mpr fun count member => ?_
  obtain ⟨thread, inThreads, rfl⟩ := List.mem_map.mp member
  exact zero thread inThreads

/-- Threads of which none can take a step, as they are in a stuck state. -/
def AllWait (state : System Data Value) : Prop :=
  ∀ thread ∈ state.threads, thread.AtRest ∨ Blocked state.shared thread

theorem allWait_of_stuck {state : System Data Value}
    (stuck : ¬ ∃ next, Step pool state next) : AllWait state := by
  intro thread member
  rcases (@thread_steps_or_blocked _ _ pool) state.shared thread with
    rest | blocked | steps
  · exact .inl rest
  · exact .inr blocked
  · exact absurd (step_of_canStep member steps) stuck

theorem AllWait.no_lease {identities : List (Bool × List Nat)} {state : System Data Value}
    (waits : AllWait state) (ordered : Ordered pool identities state)
    {thread : Thread Data Value} (member : thread ∈ state.threads) : thread.stack = [] := by
  have disciplined := ordered.disciplined thread member
  rcases waits thread member with rest | blocked
  · exact rest.2
  · cases blocked with
    | reader place => exact (disciplined.reader (by rw [place]; rfl)).1
    | submitter place => exact (disciplined.submission (by rw [place]; rfl)).1
    | receiver place silent => exact (disciplined.submission (by rw [place]; rfl)).1

/-- Nobody waits for a reader: no lease is out, so every connection is free, and a
sleeping reader would have been woken for one. -/
theorem AllWait.no_reader {identities : List (Bool × List Nat)} {state : System Data Value}
    (waits : AllWait state) (ordered : Ordered pool identities state)
    (attentive : Attentive pool state) {thread : Thread Data Value}
    (member : thread ∈ state.threads) {body : Program Data Value}
    {resume : Resume Data Value} :
    thread.control ≠ .checkout .asleep body resume := by
  intro place
  have noLease : state.total Thread.leases = 0 := total_eq_zero fun other inThreads => by
    rw [Thread.leases, waits.no_lease ordered inThreads]
    rfl
  have noneNotified : state.total Thread.notifiedReader = 0 :=
    total_eq_zero fun other inThreads => by
      rcases waits other inThreads with ⟨⟨outcome, ended⟩, -⟩ | blocked
      · simp [Thread.notifiedReader, ended]
      · cases blocked with
        | reader place => simp [Thread.notifiedReader, place]
        | submitter place => simp [Thread.notifiedReader, place]
        | receiver place silent => simp [Thread.notifiedReader, place]
  have someAsleep : 0 < state.total Thread.asleepReader := by
    refine Nat.pos_of_ne_zero fun zero => ?_
    have own := List.sum_eq_zero_iff_forall_eq_nat.mp zero thread.asleepReader
      (List.mem_map_of_mem member)
    simp [Thread.asleepReader, place] at own
  have served := attentive.readers someAsleep
  have conserved := attentive.leases
  have some := pool.readConnections_pos
  omega

/-- The writer waits in front of an empty queue with nothing in its hands. -/
theorem AllWait.writer_idle {identities : List (Bool × List Nat)}
    {state : System Data Value} (stuck : ¬ ∃ next, Step pool state next)
    (waits : AllWait state) (ordered : Ordered pool ((true, []) :: identities) state)
    (attentive : Attentive pool state) (recorded : Recorded state) :
    state.shared.queue.jobs = [] ∧ state.shared.senders = [] := by
  obtain ⟨shared, threads⟩ := state
  cases threads with
  | nil => cases ordered.roles
  | cons worker clients =>
      have isWorker : worker.inWriteWorker = true :=
        congrArg Prod.fst (List.cons.inj ordered.roles).1
      rcases (@writer_steps_or_waits _ _ pool) shared worker with
        ⟨shared', worker', notice, step⟩ | asleep | exited | ⟨calling, busy⟩
      · obtain ⟨next, notified⟩ := exists_notified notice ⟨shared', worker' :: clients⟩
        exact absurd ⟨next, .writer step notified⟩ stuck
      · have silent : System.total Thread.announcing ⟨shared, worker :: clients⟩ = 0 :=
          total_eq_zero fun thread member => by
            rcases waits thread member with ⟨⟨outcome, ended⟩, -⟩ | blocked
            · simp [Thread.announcing, ended]
            · cases blocked with
              | reader place => simp [Thread.announcing, place]
              | submitter place => simp [Thread.announcing, place]
              | receiver place silent => simp [Thread.announcing, place]
        have announced := (attentive.writer asleep).2
        rw [silent] at announced
        have empty : shared.queue.jobs = [] := List.length_eq_zero_iff.mp (Nat.le_zero.mp announced)
        exact ⟨empty, by simp [Shared.senders, empty, asleep, WriterPhase.inFlight,
          WriterPhase.unsent]⟩
      · have empty : shared.queue.jobs = [] := (recorded.exits exited).2
        exact ⟨empty, by simp [Shared.senders, empty, exited, WriterPhase.inFlight,
          WriterPhase.unsent]⟩
      · -- The writer thread itself can only wait for a reader, which nobody does.
        have member : worker ∈ worker :: clients := List.mem_cons_self
        rcases waits worker member with rest | blocked
        · exact absurd rest busy
        · have never := (ordered.disciplined worker member).of_worker isWorker
          cases blocked with
          | reader place => exact absurd place (waits.no_reader ordered attentive member)
          | submitter place => exact absurd (by rw [place]; rfl) never
          | receiver place silent => exact absurd (by rw [place]; rfl) never

/-- In a stuck state every call has returned. -/
theorem all_at_rest_of_stuck {identities : List (Bool × List Nat)}
    {state : System Data Value} (stuck : ¬ ∃ next, Step pool state next)
    (ordered : Ordered pool ((true, []) :: identities) state)
    (attentive : Attentive pool state) (recorded : Recorded state) :
    ∀ thread ∈ state.threads, thread.AtRest := by
  have waits := allWait_of_stuck stuck
  obtain ⟨empty, noSender⟩ := waits.writer_idle stuck ordered attentive recorded
  intro thread member
  rcases waits thread member with rest | blocked
  · exact rest
  · cases blocked with
    | reader place => exact absurd place (waits.no_reader ordered attentive member)
    | submitter place =>
        have full := attentive.submitters thread member (by
          rw [Thread.asleepSubmitter, place])
        have some := pool.writeQueueCapacity_pos
        rw [empty] at full
        exact absurd full.2 (by simpa using Nat.pos_iff_ne_zero.mp some)
    | @receiver channel resume place silent =>
        have admitted := recorded.waits thread member channel (by
          rw [Thread.awaiting, place]
          simp)
        rcases recorded.answered_or_sender admitted with sent | sender
        · exact absurd sent silent
        · rw [noSender] at sender
          cases sender

/-- The list of pools being read depends only on where the thread is. -/
theorem Disciplined.pools_eq {identity : Nat} {thread thread' : Thread Data Value}
    (before : Disciplined identity thread) (after : Disciplined identity thread')
    (sameOuter : thread'.outer = thread.outer)
    (place : thread.control.place = .program) (place' : thread'.control.place = .program)
    (sameDepth : thread'.stack.length = thread.stack.length) :
    thread'.readCallbackPools = thread.readCallbackPools := by
  rcases before.program place with ⟨stack, pools⟩ | ⟨frame, stack, pools⟩ <;>
    rcases after.program place' with ⟨stack', pools'⟩ | ⟨frame', stack', pools'⟩
  · rw [pools, pools', sameOuter]
  · rw [stack, stack'] at sameDepth
    cases sameDepth
  · rw [stack, stack'] at sameDepth
    cases sameDepth
  · rw [pools, pools', sameOuter]

/-- Threads with any nesting of calls of one pool do not deadlock.  A thread with a
lease runs its callback and can take its next step; the writer thread is never inside
a submission; unless every thread has run its program to the end, some thread can
take a step; and whenever a thread is again in a program at the same depth of reads,
as it is before and after each of its reads, its list of pools being read is the
same. -/
theorem same_pool_deadlock_free (pool : PoolConfiguration Data) (writer : Writer Data)
    (idle : Value) (clients : List (Thread Data Value))
    (fresh : ∀ thread ∈ clients, thread.IsClient) (state : System Data Value)
    (run : Reaches pool (System.initial pool writer clients idle) state) :
    (∀ thread ∈ state.threads, thread.stack ≠ [] →
      thread.control.place = .program ∧ ¬ Blocked state.shared thread ∧
        CanStep pool state.shared thread) ∧
    (∀ thread ∈ state.threads, thread.inWriteWorker = true →
      thread.control.place ≠ .submission) ∧
    ((∃ thread ∈ state.threads, ¬ thread.AtRest) → ∃ next, Step pool state next) ∧
    (∀ later, Reaches pool state later →
      ∀ (index : Nat) (thread thread' : Thread Data Value),
      state.threads[index]? = some thread → later.threads[index]? = some thread' →
        thread.control.place = .program → thread'.control.place = .program →
          thread'.stack.length = thread.stack.length →
            thread'.readCallbackPools = thread.readCallbackPools) := by
  have ordered := ((@Ordered.initial _ _ pool writer _ idle)
    fresh).reaches run
  have attentive := ((@Attentive.initial _ _ pool writer _ idle)
    fresh).reaches (Ordered.initial fresh) run
  have recorded := ((@Recorded.initial _ _ pool writer _ idle)
    fresh).reaches (Ordered.initial fresh) run
  refine ⟨?_, ?_, ?_, ?_⟩
  · intro thread member lease
    have place := (ordered.disciplined thread member).of_lease lease
    have free : ¬ Blocked state.shared thread := by
      intro blocked
      cases blocked with
      | reader waits => rw [waits] at place; cases place
      | submitter waits => rw [waits] at place; cases place
      | receiver waits => rw [waits] at place; cases place
    rcases (@thread_steps_or_blocked _ _ pool) state.shared thread with
      rest | blocked | steps
    · exact absurd rest.2 lease
    · exact absurd blocked free
    · exact ⟨place, free, steps⟩
  · exact fun thread member worker => (ordered.disciplined thread member).of_worker worker
  · rintro ⟨thread, member, unfinished⟩
    by_contra stuck
    exact unfinished (all_at_rest_of_stuck stuck ordered attentive recorded thread member)
  · intro later onwards index thread thread' atIndex atIndex' place place' sameDepth
    have orderedLater := ordered.reaches onwards
    have sameIdentity : thread'.identity = thread.identity := by
      have roles := orderedLater.roles.trans ordered.roles.symm
      have own := congrArg (fun threads => threads[index]?) roles
      simpa [atIndex, atIndex'] using own
    exact (ordered.disciplined thread (List.mem_of_getElem? atIndex)).pools_eq
      (orderedLater.disciplined thread' (List.mem_of_getElem? atIndex'))
      (congrArg Prod.snd sameIdentity) place place' sameDepth

/-- A pool with one reader and room for one job. -/
def smallPool : PoolConfiguration Nat where
  engine := faultAt 99 storageFailed
  identity := 7
  readConnections := 1
  writeQueueCapacity := 1
  maxJobs := 2
  readConnections_pos := by decide
  writeQueueCapacity_pos := by decide
  maxJobs_pos := by decide

/-- A read callback that submits a write. -/
def nestingCallback : Program Nat Nat :=
  .write (.ends (.returned (.ok 1))) fun _ => .ends .panicked

def nestingClient : Thread Nat Nat :=
  .start false [3] (.read nestingCallback fun _ => .ends (.returned (.ok 2)))

/-- The pool when the client has asked for a reader, and when it has its lease. -/
def nestingPool (client : Thread Nat Nat) : System Nat Nat :=
  System.initial smallPool
    (.new { enabled := false, checkpointIntervalCommits := 1, walSoftLimitFrames := 0 }
      (idleConnection 0)) [client] 0

def leasedPool : System Nat Nat where
  shared := { (nestingPool nestingClient).shared with readers := ⟨[], 1, 0⟩ }
  threads :=
    [.start true [] (.ends (.returned (.ok 0))),
      { nestingClient with
        readCallbackPools := [3, 7]
        control := .running nestingCallback
        stack := [⟨0, fun _ => .ends (.returned (.ok 2))⟩] }]

theorem leasedPool_reached : Reaches smallPool (nestingPool nestingClient) leasedPool := by
  have entered := (@Step.thread _ _ smallPool _ _ [.start true [] (.ends (.returned (.ok 0)))] [])
    ((@ThreadStep.readEntered _ _ _ ((nestingPool nestingClient).shared) nestingClient)
      rfl rfl rfl) (.nothing _)
  have leased := (@Step.thread _ _ smallPool _ _ [.start true [] (.ends (.returned (.ok 0)))] [])
    ((@ThreadStep.checkedOut _ _ _ ((nestingPool nestingClient).shared) { nestingClient with
        readCallbackPools := [3, 7]
        control := .checkout .entering nestingCallback
          fun _ => .ends (.returned (.ok 2)) }) rfl rfl) (.nothing _)
  exact (Relation.ReflTransGen.single (Move.step entered)).tail (Move.step leased)

/-- The client has the only lease and is about to submit a write: it is not blocked,
and some thread can go on. -/
theorem nested_write_not_blocked :
    (∀ client ∈ leasedPool.threads, client.stack ≠ [] →
      ¬ Blocked leasedPool.shared client) ∧
    ∃ next, Step smallPool leasedPool next := by
  have free := same_pool_deadlock_free smallPool _ 0 [nestingClient]
    (by
      intro thread isClient
      obtain rfl := List.mem_singleton.mp isClient
      exact ⟨_, _, rfl⟩) leasedPool leasedPool_reached
  refine ⟨fun client member lease => (free.1 client member lease).2.1, free.2.2.1 ?_⟩
  exact ⟨_, List.mem_cons_of_mem _ List.mem_cons_self, fun rest => nomatch rest.2⟩

end Csgdb.Pool
