/-
Module: Csgdb.Pool.Program
Purpose: What a thread of a pool does: finite programs with nested calls of the pool,
  and the places inside a call at which a thread can be.
Trusted boundary: between two calls a program may do anything with the connection
  that it borrows; a thread blocks only through the pool.  A panic reaches the
  caller as the outcome of a call, which may catch it or go on with it.
Main exports: Program, Response, ExclusiveOperation, PoolJob, Submission, Control,
  Thread
-/
import Csgdb.Pool.Queue
import Csgdb.Pool.ReadPool
import Csgdb.Pool.Writer

namespace Csgdb.Pool

open Storage

variable {Data Value : Type}

/-! ## Programs -/

/-- What a call of the pool returns when it succeeds. -/
inductive Response (Value : Type) where
  | value (value : Value)
  | changes (counts : List Nat)
  | maintenance (answer : MaintenanceAnswer)

/-- A callback, or the main program of a client. -/
inductive Program (Data Value : Type) : Type where
  | ends (outcome : Outcome Value)
  | database (operation : Connection Data → Connection Data × Value)
      (next : Value → Program Data Value)
  | read (body : Program Data Value) (resume : Outcome (Response Value) → Program Data Value)
  | tryRead (body : Program Data Value)
      (resume : Outcome (Response Value) → Program Data Value)
  | writeWithPolicy (policy : WriteBackpressure) (body : Program Data Value)
      (resume : Outcome (Response Value) → Program Data Value)
  | executeTransaction (statements : List (Command Data))
      (resume : Outcome (Response Value) → Program Data Value)
  | maintain (operation : Maintenance)
      (resume : Outcome (Response Value) → Program Data Value)

/-- What runs after a call has returned. -/
abbrev Resume (Data Value : Type) := Outcome (Response Value) → Program Data Value

namespace Program

/-- `DatabasePool::write`. -/
def write (body : Program Data Value) (resume : Resume Data Value) : Program Data Value :=
  .writeWithPolicy .wait body resume

/-- `DatabasePool::try_write`. -/
def tryWrite (body : Program Data Value) (resume : Resume Data Value) :
    Program Data Value :=
  .writeWithPolicy .reject body resume

/-- `DatabasePool::execute`: a transaction of one statement, whose count is returned. -/
def execute (statement : Command Data) (resume : Resume Data Value) : Program Data Value :=
  .executeTransaction [statement] fun
    | .returned (.ok (.changes counts)) =>
        resume (.returned (.ok (.changes [counts.head?.getD 0])))
    | outcome => resume outcome

/-- `DatabasePool::checkpoint`. -/
def checkpoint (mode : CheckpointMode) (resume : Resume Data Value) : Program Data Value :=
  .maintain (.checkpointDatabase (some "main") mode) resume

/-- A program that is about to read: whether it waits for a reader, its callback, and
how it goes on. -/
def reading : Program Data Value →
    Option (Bool × Program Data Value × Resume Data Value)
  | .read body resume => some (true, body, resume)
  | .tryRead body resume => some (false, body, resume)
  | _ => none

end Program

/-! ## Jobs -/

inductive ExclusiveOperation (Data Value : Type) where
  | callback (body : Program Data Value)
  | maintenance (operation : Maintenance)

/-- A job in the queue; channels are numbered. -/
abbrev PoolJob (Data Value : Type) := WriteJob (ExclusiveOperation Data Value) Data Nat

/-- What `write_internal` and `submit_groupable` are called with. -/
structure Submission (Data Value : Type) where
  policy : WriteBackpressure
  job : Nat → PoolJob Data Value
  resume : Resume Data Value

def Program.submission : Program Data Value → Option (Submission Data Value)
  | .writeWithPolicy policy body resume =>
      some { policy := policy, job := .exclusive (.callback body), resume := resume }
  | .executeTransaction statements resume =>
      some { policy := .wait, job := fun channel => .groupable ⟨statements, channel⟩,
             resume := resume }
  | .maintain operation resume =>
      some { policy := .wait, job := .exclusive (.maintenance operation),
             resume := resume }
  | _ => none

theorem Program.submission_response {program : Program Data Value}
    {submission : Submission Data Value} (submits : program.submission = some submission)
    (channel : Nat) : (submission.job channel).response = channel := by
  cases program <;> cases submits <;> rfl

/-! ## Threads -/

/-- A thread at a condition variable: on its way there for the first time, asleep, or
woken and not yet running. -/
inductive Wait where
  | entering
  | asleep
  | notified
deriving Repr, DecidableEq

/-- Where a thread is: in a program, or inside a call of the pool. -/
inductive Control (Data Value : Type) where
  | running (program : Program Data Value)
  | checkout (wait : Wait) (body : Program Data Value) (resume : Resume Data Value)
  | tryCheckout (body : Program Data Value) (resume : Resume Data Value)
  | push (wait : Wait) (policy : WriteBackpressure) (job : PoolJob Data Value)
      (resume : Resume Data Value)
  | refused (channel : Nat) (error : Error) (resume : Resume Data Value)
  | accepted (channel : Nat) (resume : Resume Data Value)
  | notifying (channel : Nat) (resume : Resume Data Value)
  | receiving (channel : Nat) (resume : Resume Data Value)

/-- A read in progress, below the program that its callback runs. -/
structure Frame (Data Value : Type) where
  lease : Nat
  resume : Resume Data Value

/-- A thread: its two thread-local markers, its place, and the reads that it is
inside of, the innermost first.  `outer` are the pools that it was reading when it
came to this pool. -/
structure Thread (Data Value : Type) where
  inWriteWorker : Bool
  outer : List Nat
  readCallbackPools : List Nat
  control : Control Data Value
  stack : List (Frame Data Value)

namespace Thread

/-- A thread that enters the pool. -/
def start (inWriteWorker : Bool) (outer : List Nat) (program : Program Data Value) :
    Thread Data Value where
  inWriteWorker := inWriteWorker
  outer := outer
  readCallbackPools := outer
  control := .running program
  stack := []

/-- The thread goes on with a program. -/
def goesOn (program : Program Data Value) (thread : Thread Data Value) :
    Thread Data Value :=
  { thread with control := .running program }

/-- The thread asks for a reader and does not sleep. -/
def wantsReader (thread : Thread Data Value) :
    Option (Program Data Value × Resume Data Value) :=
  match thread.control with
  | .checkout .entering body resume => some (body, resume)
  | .checkout .notified body resume => some (body, resume)
  | .tryCheckout body resume => some (body, resume)
  | _ => none

/-- A thread that sleeps on `available` is woken: notified, or spuriously, to come to
the lock once more as if it was entering. -/
def wakeReader (wait : Wait) (thread : Thread Data Value) : Thread Data Value :=
  match thread.control with
  | .checkout .asleep body resume =>
      { thread with control := .checkout wait body resume }
  | _ => thread

/-- A thread that sleeps on `not_full` is woken. -/
def wakeSubmitter (thread : Thread Data Value) : Thread Data Value :=
  match thread.control with
  | .push .asleep policy job resume =>
      { thread with control := .push .notified policy job resume }
  | _ => thread

end Thread

end Csgdb.Pool
