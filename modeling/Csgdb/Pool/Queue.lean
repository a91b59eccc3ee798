/-
Module: Csgdb.Pool.Queue
Purpose: The bounded write queue: what a submitter and the writer do with it while
  they hold its lock.
Trusted boundary: time is not modelled; whether a timeout or a deadline has passed
  is passed in.  A thread that would sleep on a condition variable gives the lock
  back, and runs the same code again when it has been woken.
Main exports: WriteBackpressure, WriteJob, WriteQueueState, WriteQueue.push,
  WriteQueue.pop, WriteQueue.collectMore, WriteQueue.close
-/
import Csgdb.Pool.GroupCommit

namespace Csgdb.Pool

open Storage

/-- Behavior when the write queue is full. -/
inductive WriteBackpressure where
  | wait
  | reject
  | timeout
deriving Repr, DecidableEq

/-- A queued job: an exclusive operation with the channel of its answer, or a job
that may share a transaction with its neighbours. -/
inductive WriteJob (Operation Data Channel : Type) where
  | exclusive (operation : Operation) (response : Channel)
  | groupable (job : GroupableWrite Data Channel)

structure WriteQueueState (Operation Data Channel : Type) where
  jobs : List (WriteJob Operation Data Channel)
  accepting : Bool

variable {Operation Data Channel : Type}

/-- The channel on which the client of a job waits. -/
def WriteJob.response : WriteJob Operation Data Channel → Channel
  | .exclusive _ response => response
  | .groupable job => job.response

namespace WriteQueue

/-! ## Submitters -/

def writeQueueFull : Error :=
  { code := .writeQueueFull, message := "write queue has reached its configured capacity" }

def writeQueueTimeout : Error :=
  { code := .writeQueueTimeout, message := "timed out waiting for write queue capacity" }

def connectionManagerClosed : Error :=
  { code := .connectionManagerClosed
    message := "database connection manager is closed" }

/-- What a submitter that holds the lock does. -/
inductive PushStep (Operation Data Channel : Type) where
  | accepted (state : WriteQueueState Operation Data Channel)
  | refused (error : Error)
  | sleeps

/-- The end of `WriteQueue::push`. -/
def enqueue (job : WriteJob Operation Data Channel)
    (state : WriteQueueState Operation Data Channel) : PushStep Operation Data Channel :=
  if !state.accepting then .refused connectionManagerClosed
  else .accepted { state with jobs := state.jobs ++ [job] }

/-- `WriteQueue::push` from the moment at which it has the lock.  A submitter that
was asleep on `not_full` passes whether its timeout had expired when it woke up. -/
def push (capacity : Nat) (policy : WriteBackpressure) (resumed : Option Bool)
    (job : WriteJob Operation Data Channel)
    (state : WriteQueueState Operation Data Channel) : PushStep Operation Data Channel :=
  let full := decide (state.jobs.length ≥ capacity)
  match policy, resumed with
  | .wait, _ => if state.accepting && full then .sleeps else enqueue job state
  | .reject, _ => if full then .refused writeQueueFull else enqueue job state
  | .timeout, none => if state.accepting && full then .sleeps else enqueue job state
  | .timeout, some expired =>
      if !full then enqueue job state
      else if expired then .refused writeQueueTimeout
      else if state.accepting then .sleeps
      else enqueue job state

/-! ## The writer -/

/-- Adjacent groupable jobs at the front of the queue, as long as there is room. -/
def collect (maxJobs : Nat) : List (GroupableWrite Data Channel) →
    List (WriteJob Operation Data Channel) →
      List (GroupableWrite Data Channel) × List (WriteJob Operation Data Channel)
  | group, .groupable job :: rest =>
      if group.length < maxJobs then collect maxJobs (group ++ [job]) rest
      else (group, .groupable job :: rest)
  | group, jobs => (group, jobs)

/-- What the writer does while it holds the lock. -/
inductive Taken (Operation Data Channel : Type) where
  | sleeps
  | closed
  | exclusive (operation : Operation) (response : Channel)
  | group (jobs : List (GroupableWrite Data Channel))
  | waitsForMore (jobs : List (GroupableWrite Data Channel))

/-- The collecting loop of `WriteQueue::pop`, up to its end or its next wait;
`expired` tells whether the deadline of the group has passed. -/
def collectMore (maxJobs : Nat) (expired : Bool)
    (group : List (GroupableWrite Data Channel))
    (state : WriteQueueState Operation Data Channel) :
    WriteQueueState Operation Data Channel × Taken Operation Data Channel :=
  let (jobs, rest) := collect maxJobs group state.jobs
  let left := { state with jobs := rest }
  if jobs.length < maxJobs && rest.isEmpty && state.accepting && !expired then
    (left, .waitsForMore jobs)
  else
    (left, .group jobs)

/-- `WriteQueue::pop` from the moment at which it has the lock. -/
def pop (maxJobs : Nat) (expired : Bool)
    (state : WriteQueueState Operation Data Channel) :
    WriteQueueState Operation Data Channel × Taken Operation Data Channel :=
  match state.jobs with
  | [] => if !state.accepting then (state, .closed) else (state, .sleeps)
  | .exclusive operation response :: rest =>
      ({ state with jobs := rest }, .exclusive operation response)
  | .groupable first :: rest =>
      collectMore maxJobs expired [first] { state with jobs := rest }

/-- `WriteQueue::close`; both condition variables are notified with it. -/
def close (state : WriteQueueState Operation Data Channel) :
    WriteQueueState Operation Data Channel :=
  { state with accepting := false }

end WriteQueue

end Csgdb.Pool
