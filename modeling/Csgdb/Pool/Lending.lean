/-
Module: Csgdb.Pool.Lending
Purpose: The read pool at the grain of its lock: reads that check connections out and give
  them back, the counts of the pool, and the end of its handles, step by step.  Runs of a
  pool whose handles are all given up by `close`, and what closing it once means.
Trusted boundary: a lock has one holder at a time.  The language keeps a handle alive
  while a call borrows it, and drops the lease of a read when its callback has returned or
  while a panic unwinds.  A sleeping read may be woken at any time.  Whether the guard of
  its thread lets a read in is left open; a read that it refuses does not reach the pool.
  Closing the write queue is a part of the step that joins the writer.
Main exports: CallPhase, Pass, PoolHandle, Lending, CallStep, HandleStep, LendingStep,
  Lending.Reachable, ClosingRun, ClosedOnce
-/
import Csgdb.Pool.ReadPool
import Csgdb.Pool.Writer

namespace Csgdb.Pool

variable {Value : Type}

/-! ## Reads -/

/-- How far a call has come.  A read is `entered` until it has the lock, on its first try
or when it was woken; `blocking` tells `checkout` from `try_checkout`.  From `dropping` on
its lease is empty.  `counting` to `counted` is a call of `counts`. -/
inductive CallPhase (Value : Type) where
  | entered (blocking : Bool)
  | asleep
  | looking (blocking : Bool)
  | popped (connection : Nat)
  | exhausted
  | leased (connection : Nat)
  | dropping (connection : Nat) (outcome : Outcome Value)
  | returning (connection : Nat) (outcome : Outcome Value)
  | pushed (outcome : Outcome Value)
  | notifying (outcome : Outcome Value)
  | counting
  | measuring
  | measured (available : Nat)
  | finished (outcome : Outcome Value)
  | counted (available active : Nat)

namespace CallPhase

/-- The call holds the lock of the connections. -/
def holdsLock : CallPhase Value → Bool
  | .looking _ => true
  | .popped _ => true
  | .exhausted => true
  | .returning _ _ => true
  | .pushed _ => true
  | .notifying _ => true
  | .measuring => true
  | _ => false

/-- The connection that the call owns, in its lease or on the way into or out of it. -/
def connection : CallPhase Value → Option Nat
  | .popped connection => some connection
  | .leased connection => some connection
  | .dropping connection _ => some connection
  | .returning connection _ => some connection
  | _ => none

def isOver : CallPhase Value → Bool
  | .finished _ => true
  | .counted _ _ => true
  | _ => false

end CallPhase

/-- A call of the pool, and the handle that it was made on. -/
structure Call (Value : Type) where
  handle : Nat
  phase : CallPhase Value

/-! ## Handles -/

def connectionManagerInUse : Error :=
  { code := .connectionManagerInUse
    message := "database pool cannot close while shared handles remain" }

def writerThreadStopped : Error :=
  { code := .storage, message := "database writer thread stopped unexpectedly" }

/-- A run of `shutdown`: the one of `close`, after which the pool is dropped, or the one
when the pool is dropped, with what `close` returns if it was called. -/
inductive Pass where
  | closes
  | drops (answer : Option (Result Unit))

/-- How far a handle has come.  `keeping` is a `close` that found other handles; the last
handle shuts the pool down: it joins the writer, waits for the lock, and closes the
connections that it has drained. -/
inductive PoolHandle where
  | live
  | keeping
  | joining (pass : Pass)
  | locking (pass : Pass) (writerResult : Result Unit)
  | draining (pass : Pass) (writerResult : Result Unit) (left : List Nat)
      (result : Result Unit)
  | released

namespace PoolHandle

/-- The handle has a share of the pool. -/
def sharesPool : PoolHandle → Bool
  | .live => true
  | .keeping => true
  | _ => false

/-- The handle was the last one and shuts the pool down. -/
def shutsDown : PoolHandle → Bool
  | .joining _ => true
  | .locking _ _ => true
  | .draining _ _ _ _ => true
  | _ => false

def holdsLock : PoolHandle → Bool
  | .draining _ _ _ _ => true
  | _ => false

/-- The connections that it has drained and not closed yet. -/
def drained : PoolHandle → List Nat
  | .draining _ _ left _ => left
  | _ => []

end PoolHandle

/-- The handle after a run of `shutdown`, and what `close` returned if it has. -/
def Pass.next : Pass → Result Unit → PoolHandle × List (Result Unit)
  | .closes, result => (.joining (.drops (some result)), [])
  | .drops answer, _ => (.released, answer.toList)

/-! ## The pool -/

/-- The connections behind their lock.  `foundEmpty` counts the `try_checkout` calls that
found none. -/
structure LentReaders where
  readers : ReadPool
  locked : Bool
  foundEmpty : Nat

/-- The pool with all calls and handles.  `strong` counts the shares of the handles;
`writerTaken` tells that the writer thread was joined; `closed` records the connections
that were closed, and `returned` what the calls of `close` returned. -/
structure Lending (Value : Type) where
  lent : LentReaders
  calls : List (Call Value)
  handles : List PoolHandle
  strong : Nat
  writerTaken : Bool
  closed : List Nat
  returned : List (Result Unit)

namespace LentReaders

variable (lent : LentReaders)

def lock : LentReaders := { lent with locked := true }

def unlock : LentReaders := { lent with locked := false }

def setConnections (connections : List Nat) : LentReaders :=
  { lent with readers := { lent.readers with connections := connections } }

def setActive (active : Nat) : LentReaders :=
  { lent with readers := { lent.readers with active := active } }

end LentReaders

/-- One step of a call. -/
inductive CallStep : LentReaders → CallPhase Value → LentReaders → CallPhase Value → Prop
  | locks {lent : LentReaders} {blocking : Bool} (free : lent.locked = false) :
      CallStep lent (.entered blocking) lent.lock (.looking blocking)
  | pops {lent : LentReaders} {blocking : Bool} {connection : Nat} {rest : List Nat}
      (available : lent.readers.connections = connection :: rest) :
      CallStep lent (.looking blocking) (lent.setConnections rest) (.popped connection)
  /-- The lease is counted, and the lock given back. -/
  | leases {lent : LentReaders} {connection : Nat} :
      CallStep lent (.popped connection)
        (lent.setActive (lent.readers.active + 1)).unlock (.leased connection)
  | sleeps {lent : LentReaders} (empty : lent.readers.connections = []) :
      CallStep lent (.looking true) lent.unlock .asleep
  | wakes {lent : LentReaders} : CallStep lent .asleep lent (.entered true)
  | findsNone {lent : LentReaders} (empty : lent.readers.connections = []) :
      CallStep lent (.looking false) { lent with foundEmpty := lent.foundEmpty + 1 } .exhausted
  | rejects {lent : LentReaders} :
      CallStep lent .exhausted { lent with readers := lent.readers.rejected }.unlock
        (.finished (.returned (.error readPoolExhausted)))
  /-- The callback returns or panics, and the lease is dropped. -/
  | drops {lent : LentReaders} {connection : Nat} (outcome : Outcome Value) :
      CallStep lent (.leased connection) lent (.dropping connection outcome)
  | locksAgain {lent : LentReaders} {connection : Nat} {outcome : Outcome Value}
      (free : lent.locked = false) :
      CallStep lent (.dropping connection outcome) lent.lock (.returning connection outcome)
  | pushes {lent : LentReaders} {connection : Nat} {outcome : Outcome Value} :
      CallStep lent (.returning connection outcome)
        (lent.setConnections (connection :: lent.readers.connections)) (.pushed outcome)
  | discounts {lent : LentReaders} {outcome : Outcome Value} :
      CallStep lent (.pushed outcome) (lent.setActive (lent.readers.active - 1))
        (.notifying outcome)
  | notifies {lent : LentReaders} {outcome : Outcome Value} :
      CallStep lent (.notifying outcome) lent.unlock (.finished outcome)
  | locksToCount {lent : LentReaders} (free : lent.locked = false) :
      CallStep lent .counting lent.lock .measuring
  | measures {lent : LentReaders} :
      CallStep lent .measuring lent.unlock (.measured lent.readers.connections.length)
  /-- `active` is loaded without the lock. -/
  | counts {lent : LentReaders} {available : Nat} :
      CallStep lent (.measured available) lent (.counted available lent.readers.active)

/-- What a read does under the lock that it finds a connection with is `checkout`. -/
theorem CallStep.checkout {lent between after : LentReaders} {blocking : Bool}
    {connection : Nat} {held phase : CallPhase Value} (looks : held = .popped connection)
    (pops : CallStep lent (.looking blocking) between held)
    (leases : CallStep between held after phase) :
    lent.readers.checkout = some (connection, after.readers) ∧ phase = .leased connection := by
  cases pops with
  | pops available =>
      obtain rfl := CallPhase.popped.inj looks
      cases leases with
      | leases =>
          constructor
          · unfold ReadPool.checkout
            rw [available]
            rfl
          · rfl
  | sleeps | findsNone => cases looks

/-- What a read does under the lock that it gives its connection back with is `release`. -/
theorem CallStep.release {lent pushed discounted after : LentReaders} {connection : Nat}
    {outcome : Outcome Value} {first second last : CallPhase Value}
    (pushes : CallStep lent (.returning connection outcome) pushed first)
    (discounts : CallStep pushed first discounted second)
    (notifies : CallStep discounted second after last) :
    after.readers = lent.readers.release connection ∧ last = .finished outcome := by
  cases pushes with
  | pushes =>
      cases discounts with
      | discounts =>
          cases notifies with
          | notifies => exact ⟨rfl, rfl⟩

/-! ## Handles -/

/-- No call that is not over borrows the handle. -/
def Lending.Unborrowed (lending : Lending Value) (number : Nat) : Prop :=
  ∀ call ∈ lending.calls, call.handle = number → call.phase.isOver = true

namespace Lending

variable (lending : Lending Value)

def setHandle (number : Nat) (handle : PoolHandle) : Lending Value :=
  { lending with handles := lending.handles.set number handle }

/-- A handle gives up its share; the last one drops the pool. -/
def dropShare (number : Nat) (answer : Option (Result Unit)) : Lending Value :=
  if lending.strong = 1 then
    { lending.setHandle number (.joining (.drops answer)) with strong := 0 }
  else
    { lending.setHandle number .released with
      strong := lending.strong - 1
      returned := lending.returned ++ answer.toList }

/-- `close` takes the pool out of the last handle. -/
def tryUnwrap (number : Nat) : Lending Value :=
  if lending.strong = 1 then
    { lending.setHandle number (.joining .closes) with strong := 0 }
  else
    lending.setHandle number .keeping

/-- A run of `shutdown` ends with a result. -/
def endPass (number : Nat) (pass : Pass) (result : Result Unit) : Lending Value :=
  { lending.setHandle number (pass.next result).1 with
    returned := lending.returned ++ (pass.next result).2 }

end Lending

/-- `Result::and`, which keeps the first error. -/
def firstError (first second : Result Unit) : Result Unit := first.bind fun _ => second

/-- One step of a handle. -/
inductive HandleStep : Lending Value → Lending Value → Prop
  | clones {lending : Lending Value} (live : .live ∈ lending.handles) :
      HandleStep lending
        { lending with handles := lending.handles ++ [.live], strong := lending.strong + 1 }
  | drops {lending : Lending Value} {number : Nat}
      (place : lending.handles[number]? = some .live)
      (unborrowed : lending.Unborrowed number) :
      HandleStep lending (lending.dropShare number none)
  | closes {lending : Lending Value} {number : Nat}
      (place : lending.handles[number]? = some .live)
      (unborrowed : lending.Unborrowed number) :
      HandleStep lending (lending.tryUnwrap number)
  | refuses {lending : Lending Value} {number : Nat}
      (place : lending.handles[number]? = some .keeping) :
      HandleStep lending (lending.dropShare number (some (.error connectionManagerInUse)))
  /-- The writer thread has ended with a result, or it is the thread of the handle, or it
  was joined before. -/
  | joins {lending : Lending Value} {number : Nat} {pass : Pass} (result : Result Unit)
      (place : lending.handles[number]? = some (.joining pass))
      (again : lending.writerTaken = true → result = .ok ()) :
      HandleStep lending
        { lending.setHandle number (.locking pass result) with writerTaken := true }
  /-- The writer thread has panicked; `shutdown` returns at once. -/
  | writerPanicked {lending : Lending Value} {number : Nat} {pass : Pass}
      (place : lending.handles[number]? = some (.joining pass))
      (first : lending.writerTaken = false) :
      HandleStep lending
        { lending.endPass number pass (.error writerThreadStopped) with writerTaken := true }
  /-- `close_connections` drains the connections from the first one on. -/
  | drains {lending : Lending Value} {number : Nat} {pass : Pass}
      {writerResult : Result Unit}
      (place : lending.handles[number]? = some (.locking pass writerResult))
      (free : lending.lent.locked = false) :
      HandleStep lending
        { lending.setHandle number
            (.draining pass writerResult lending.lent.readers.connections.reverse (.ok ()))
          with lent := (lending.lent.setConnections []).lock }
  | closesOne {lending : Lending Value} {number : Nat} {pass : Pass}
      {writerResult result : Result Unit} {connection : Nat} {left : List Nat}
      (answer : Result Unit)
      (place : lending.handles[number]? =
        some (.draining pass writerResult (connection :: left) result)) :
      HandleStep lending
        { lending.setHandle number
            (.draining pass writerResult left (firstError result answer))
          with closed := lending.closed ++ [connection] }
  | shutDown {lending : Lending Value} {number : Nat} {pass : Pass}
      {writerResult result : Result Unit}
      (place : lending.handles[number]? = some (.draining pass writerResult [] result)) :
      HandleStep lending
        { lending.endPass number pass (firstError writerResult result) with
          lent := lending.lent.unlock }

/-! ## The system -/

/-- One step of a call or of a handle; any of them may take the next one. -/
inductive LendingStep : Lending Value → Lending Value → Prop
  /-- `read`, `try_read` or `stats` begins on a handle. -/
  | begins {lending : Lending Value} {number : Nat} {phase : CallPhase Value}
      (place : lending.handles[number]? = some .live)
      (start : phase = .entered true ∨ phase = .entered false ∨ phase = .counting) :
      LendingStep lending
        { lending with calls := lending.calls ++ [{ handle := number, phase := phase }] }
  | call {lending : Lending Value} {before after : List (Call Value)} {number : Nat}
      {phase phase' : CallPhase Value} {lent : LentReaders}
      (place : lending.calls = before ++ { handle := number, phase := phase } :: after)
      (step : CallStep lending.lent phase lent phase') :
      LendingStep lending
        { lending with
          lent := lent
          calls := before ++ { handle := number, phase := phase' } :: after }
  | handle {lending next : Lending Value} (step : HandleStep lending next) :
      LendingStep lending next

/-- A pool that was just opened over its connections. -/
def Lending.opened (connections : List Nat) : Lending Value where
  lent :=
    { readers := { connections := connections, active := 0, rejectedCheckouts := 0 }
      locked := false
      foundEmpty := 0 }
  calls := []
  handles := [.live]
  strong := 1
  writerTaken := false
  closed := []
  returned := []

/-- What steps reach from a pool that was just opened. -/
inductive Lending.Reachable (connections : List Nat) : Lending Value → Prop
  | opened : Reachable connections (.opened connections)
  | step {lending next : Lending Value} (reached : Reachable connections lending)
      (step : LendingStep lending next) : Reachable connections next

/-- The connections that are lent out. -/
def Lending.leased (lending : Lending Value) : List Nat :=
  lending.calls.flatMap fun call => call.phase.connection.toList

/-- The connections that a shutdown has drained and not closed yet. -/
def Lending.drained (lending : Lending Value) : List Nat :=
  lending.handles.flatMap PoolHandle.drained

/-! ## Closing runs -/

/-- The run of `shutdown` that the handle is in. -/
def PoolHandle.pass : PoolHandle → Option Pass
  | .joining pass | .locking pass _ | .draining pass _ _ _ => some pass
  | .live | .keeping | .released => none

/-- No live handle is dropped: it stays, or `close` tests it. -/
def GivenUpByClose (lending next : Lending Value) : Prop :=
  ∀ number : Nat, lending.handles[number]? = some .live →
    next.handles[number]? = some .live ∨ next.handles[number]? = some .keeping ∨
      next.handles[number]? = some (.joining .closes)

/-- The steps of a run from a pool that was just opened.  Handles are cloned and used as
long as they are live, and every one of them is given up by `close`. -/
inductive ClosingRun (connections : List Nat) :
    List (Lending Value × Lending Value) → Lending Value → Prop
  | opened : ClosingRun connections [] (.opened connections)
  | step {steps : List (Lending Value × Lending Value)} {lending next : Lending Value}
      (run : ClosingRun connections steps lending) (step : LendingStep lending next)
      (closes : GivenUpByClose lending next) :
      ClosingRun connections (steps ++ [(lending, next)]) next

/-- The test of `close` on the last handle that was not tested. -/
def LastTest (lending next : Lending Value) : Prop :=
  ∃ number : Nat, lending.handles[number]? = some .live ∧ next.handles[number]? ≠ some .live ∧
    ∀ other, other ≠ number → lending.handles[other]? ≠ some .live

/-- The run of `shutdown` that a `close` makes ends with the result that the `close`
returns. -/
def Reports (lending next : Lending Value) (result : Result Unit) : Prop :=
  ∃ (number : Nat) (handle : PoolHandle), lending.handles[number]? = some handle ∧
    handle.pass = some .closes ∧
    next.handles[number]? = some (.joining (.drops (some result)))

/-- One handle shuts the pool down, which joins the writer and closes every reader once;
one `close` returns the result of that, and all others that the pool is in use. -/
structure ClosedOnce (connections : List Nat) (steps : List (Lending Value × Lending Value))
    (final : Lending Value) : Prop where
  shutdown : ∃! number : Nat, ∃ step ∈ steps, ∃ handle : PoolHandle,
    step.1.handles[number]? = some handle ∧ handle.shutsDown = true
  joined : final.writerTaken = true
  closed : final.closed.Perm connections
  reported : ∃ result, (∃ step ∈ steps, Reports step.1 step.2 result) ∧
    final.returned.Perm
      (result :: List.replicate (final.handles.length - 1) (.error connectionManagerInUse))

end Csgdb.Pool
