/-
Module: Csgdb.Pool.ReadConnection
Purpose: What a read callback may run on its leased connection, and the leases of all
  readers of a pool next to the commits of the writer.
Trusted boundary: `BEGIN` and an outermost `SAVEPOINT` open a transaction that lasts until
  it is ended; its first ordinary statement takes the snapshot, and a statement outside a
  transaction reads the latest committed state.  What an ordinary statement yields, and
  which control statements fail, are parameters.
Main exports: ReadCommand, Reader, Reader.run, ReadCallback, ReadScope, Lease,
  LeasedReaders, LeaseStep
-/
import Csgdb.Pool.ReadPool
import Csgdb.Pool.Writer
import Mathlib.Logic.Function.Basic

namespace Csgdb.Pool

open Storage

variable {Data Row Value : Type}

/-! ## Statements on a reader -/

/-- How an ordinary statement ends behind its rows: it is done, it fails, or it fails and
the engine rolls the transaction back. -/
inductive ReadEnding where
  | done
  | failed (error : Error)
  | aborted (error : Error)
deriving Repr, DecidableEq

/-- One compiled text: it was rejected, it reads, or it controls the transaction. -/
inductive ReadCommand (Data Row : Type) where
  | invalid (error : Error)
  | ordinary (behaviour : Data → List Row × ReadEnding)
  | begin
  | commit
  | rollback
  | savepoint (name : String)
  | release (name : String)
  | rollbackTo (name : String)

/-- The control text of a statement, if it is one. -/
def ReadCommand.text : ReadCommand Data Row → Option ControlText
  | .invalid _ => none
  | .ordinary _ => none
  | .begin => some .begin
  | .commit => some .commit
  | .rollback => some .rollback
  | .savepoint name => some (.savepoint name)
  | .release name => some (.release name)
  | .rollbackTo name => some (.rollbackTo name)

/-- The open transaction of a reader; the snapshot is a version of the database. -/
structure OpenReadTransaction where
  snapshot : Option Nat
  savepoints : List String
  explicit : Bool
deriving Repr, DecidableEq

structure Reader where
  transaction : Option OpenReadTransaction
  controls : Nat
deriving Repr, DecidableEq

/-- The version that the next statement reads. -/
def Reader.sees (latest : Nat) (reader : Reader) : Nat :=
  match reader.transaction with
  | none => latest
  | some opened => opened.snapshot.getD latest

/-- A transaction keeps the version that its first statement read. -/
def Reader.holding (latest : Nat) (reader : Reader) : Reader :=
  { reader with
    transaction := reader.transaction.map fun opened =>
      { opened with snapshot := some (opened.snapshot.getD latest) } }

def Reader.rolledBack (reader : Reader) : Reader :=
  { reader with transaction := none }

/-- A control statement that the engine does not fail. -/
def Reader.control (command : ReadCommand Data Row) (reader : Reader) :
    Reader × Result Bool :=
  match command, reader.transaction with
  | .begin, none =>
      ({ reader with
          transaction := some { snapshot := none, savepoints := [], explicit := true } },
        .ok true)
  | .commit, some _ | .rollback, some _ => (reader.rolledBack, .ok true)
  | .savepoint name, none =>
      ({ reader with
          transaction := some
            { snapshot := none, savepoints := [name], explicit := false } },
        .ok true)
  | .savepoint name, some opened =>
      ({ reader with
          transaction := some { opened with savepoints := name :: opened.savepoints } },
        .ok true)
  | .release name, some opened =>
      match savepointNames name opened.savepoints with
      | none => (reader, .error storageFailed)
      | some kept =>
          if kept.tail.isEmpty && !opened.explicit then (reader.rolledBack, .ok true)
          else
            ({ reader with transaction := some { opened with savepoints := kept.tail } },
              .ok true)
  | .rollbackTo name, some opened =>
      match savepointNames name opened.savepoints with
      | none => (reader, .error storageFailed)
      | some kept =>
          ({ reader with transaction := some { opened with savepoints := kept } },
            .ok true)
  | _, _ => (reader, .error storageFailed)

/-- What running a statement yields: its rows, whether it was run to its end, and whether
the engine rolled the transaction back. -/
structure StatementAnswer (Row : Type) where
  rows : List Row
  ending : Result Bool
  rolledBack : Bool
deriving Repr, DecidableEq

/-- So many steps of a statement, which is reset behind them.  A statement that is not
stepped does nothing. -/
def Reader.run (fault : Nat → Option Fault) (committed : Nat → Data) (latest steps : Nat)
    (command : ReadCommand Data Row) (reader : Reader) : Reader × StatementAnswer Row :=
  match command with
  | .invalid error => (reader, { rows := [], ending := .error error, rolledBack := false })
  | .ordinary behaviour =>
      if steps = 0 then
        (reader, { rows := [], ending := .ok false, rolledBack := false })
      else
        let (rows, ending) := behaviour (committed (reader.sees latest))
        let held := reader.holding latest
        if steps ≤ rows.length then
          (held, { rows := rows.take steps, ending := .ok false, rolledBack := false })
        else
          match ending with
          | .done => (held, { rows := rows, ending := .ok true, rolledBack := false })
          | .failed error =>
              (held, { rows := rows, ending := .error error, rolledBack := false })
          | .aborted error =>
              (held.rolledBack, { rows := rows, ending := .error error, rolledBack := true })
  | control =>
      if steps = 0 then
        (reader, { rows := [], ending := .ok false, rolledBack := false })
      else
        let counted := { reader with controls := reader.controls + 1 }
        match fault reader.controls with
        | some (.refused error) =>
            (counted, { rows := [], ending := .error error, rolledBack := false })
        | some (.aborted error) =>
            (counted.rolledBack, { rows := [], ending := .error error, rolledBack := true })
        | none =>
            let (next, ending) := counted.control control
            (next, { rows := [], ending := ending, rolledBack := false })

/-! ## Callbacks -/

mutual
/-- A program over a `ReadConnection`: it steps statements, opens transaction values, and
returns or panics. -/
inductive ReadCallback (Data Row Value : Type) : Type where
  | ends (outcome : Outcome Value)
  | statement (steps : Nat) (command : ReadCommand Data Row)
      (next : StatementAnswer Row → ReadCallback Data Row Value)
  | transaction (refused : Error → ReadCallback Data Row Value)
      (body : ReadScope Data Row Value)

/-- A program over a `ReadTransaction` value; the connection is borrowed by it until the
value is committed or dropped, or a panic unwinds through it. -/
inductive ReadScope (Data Row Value : Type) : Type where
  | statement (steps : Nat) (command : ReadCommand Data Row)
      (next : StatementAnswer Row → ReadScope Data Row Value)
  | commit (next : Result Unit → ReadCallback Data Row Value)
  | drop (next : ReadCallback Data Row Value)
  | panics
end

namespace StatementAnswer

/-- `query_row`: the first row, converted by the caller. -/
def firstRow (column : Row → Result Int) (answer : StatementAnswer Row) : Result Int :=
  match answer.rows, answer.ending with
  | row :: _, _ => column row
  | [], .error error => .error error
  | [], .ok _ => .error storageFailed

/-- `raw_execute`: a statement that yields a row is an error. -/
def executed (answer : StatementAnswer Row) : Result Nat :=
  match answer.ending with
  | .error error => .error error
  | .ok true => .ok 0
  | .ok false => .error storageFailed

def unit (answer : StatementAnswer Row) : Result Unit :=
  answer.ending.map fun _ => ()

end StatementAnswer

namespace ReadCallback

/-- `query_i64` and `query_i64_cached`. -/
def queryI64 (column : Row → Result Int) (command : ReadCommand Data Row)
    (next : Result Int → ReadCallback Data Row Value) : ReadCallback Data Row Value :=
  .statement 1 command fun answer => next (answer.firstRow column)

/-- `prepare` or `prepare_cached`, and `execute`. -/
def prepareExecute (command : ReadCommand Data Row)
    (next : Result Nat → ReadCallback Data Row Value) : ReadCallback Data Row Value :=
  .statement 1 command fun answer => next answer.executed

/-- `prepare` or `prepare_cached`, and `query` with so many calls of `next_row`. -/
def prepareQuery (steps : Nat) (command : ReadCommand Data Row)
    (next : StatementAnswer Row → ReadCallback Data Row Value) :
    ReadCallback Data Row Value :=
  .statement steps command next

end ReadCallback

/-! ## Leases -/

/-- Where a callback stands: outside of transaction values, or inside one. -/
inductive LeasePlace (Data Row Value : Type) where
  | callback (callback : ReadCallback Data Row Value)
  | scope (scope : ReadScope Data Row Value)

/-- A checked-out connection: the version at checkout, the texts that the callback has run
outside of transaction values, the newest first, and where it stands. -/
structure Lease (Data Row Value : Type) where
  number : Nat
  since : Nat
  texts : List (ReadCommand Data Row × StatementAnswer Row)
  place : LeasePlace Data Row Value

/-- One operation of a callback on its connection; none when it has ended. -/
def Lease.advance (fault : Nat → Option Fault) (committed : Nat → Data) (latest : Nat)
    (reader : Reader) (lease : Lease Data Row Value) :
    Option (Reader × Lease Data Row Value) :=
  match lease.place with
  | .callback (.ends _) => none
  | .callback (.statement steps command next) =>
      let (after, answer) := reader.run fault committed latest steps command
      some (after,
        { lease with
          texts := (command, answer) :: lease.texts, place := .callback (next answer) })
  | .callback (.transaction refused body) =>
      let (after, answer) :=
        reader.run fault committed latest 1 (.begin : ReadCommand Data Row)
      match answer.ending with
      | .error error =>
          some (after,
            { lease with
              texts := (.begin, answer) :: lease.texts, place := .callback (refused error) })
      | .ok _ => some (after, { lease with place := .scope body })
  | .scope (.statement steps command next) =>
      let (after, answer) := reader.run fault committed latest steps command
      some (after, { lease with place := .scope (next answer) })
  | .scope (.commit next) =>
      let (after, answer) :=
        reader.run fault committed latest 1 (.commit : ReadCommand Data Row)
      some (after.rolledBack, { lease with place := .callback (next answer.unit) })
  | .scope (.drop next) => some (reader.rolledBack, { lease with place := .callback next })
  | .scope .panics =>
      some (reader.rolledBack, { lease with place := .callback (.ends .panicked) })

/-- The readers of a pool with their connections and leases, and the committed versions
of the database up to the latest one. -/
structure LeasedReaders (Data Row Value : Type) where
  readers : ReadPool
  connection : Nat → Reader
  leases : List (Lease Data Row Value)
  committed : Nat → Data
  latest : Nat

/-- What a step is about. -/
inductive LeaseEvent (Data Row Value : Type) where
  | checkout (lease : Lease Data Row Value)
  | rejected
  | operation
  | finish (lease : Lease Data Row Value)
  | write

/-- One step: `read` or `try_read` checks a connection out, `try_read` finds none, a
callback runs an operation, a lease is dropped when its callback has returned or panicked,
or the writer commits and answers `Ok`. -/
inductive LeaseStep (fault : Nat → Nat → Option Fault) :
    LeaseEvent Data Row Value → LeasedReaders Data Row Value →
      LeasedReaders Data Row Value → Prop
  | checkout {state : LeasedReaders Data Row Value} {number : Nat} {after : ReadPool}
      (callback : ReadCallback Data Row Value)
      (free : state.readers.checkout = some (number, after)) :
      LeaseStep fault
        (.checkout
          { number := number, since := state.latest, texts := [],
            place := .callback callback })
        state
        { state with
          readers := after
          leases :=
            { number := number, since := state.latest, texts := [],
              place := .callback callback } :: state.leases }
  | rejected {state : LeasedReaders Data Row Value}
      (empty : state.readers.checkout = none) :
      LeaseStep fault .rejected state { state with readers := state.readers.rejected }
  | operation {state : LeasedReaders Data Row Value}
      {earlier later : List (Lease Data Row Value)} {lease next : Lease Data Row Value}
      {reader : Reader} (place : state.leases = earlier ++ lease :: later)
      (runs : lease.advance (fault lease.number) state.committed state.latest
        (state.connection lease.number) = some (reader, next)) :
      LeaseStep fault .operation state
        { state with
          connection := Function.update state.connection lease.number reader
          leases := earlier ++ next :: later }
  | finish {state : LeasedReaders Data Row Value}
      {earlier later : List (Lease Data Row Value)} {lease : Lease Data Row Value}
      {outcome : Outcome Value} (place : state.leases = earlier ++ lease :: later)
      (ended : lease.place = .callback (.ends outcome)) :
      LeaseStep fault (.finish lease) state
        { state with
          readers := state.readers.release lease.number
          leases := earlier ++ later }
  | write {state : LeasedReaders Data Row Value} (data : Data) :
      LeaseStep fault .write state
        { state with
          committed := Function.update state.committed (state.latest + 1) data
          latest := state.latest + 1 }

end Csgdb.Pool
