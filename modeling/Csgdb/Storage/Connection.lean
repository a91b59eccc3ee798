/-
Module: Csgdb.Storage.Connection
Purpose: One engine connection: the open transaction with its savepoints, the
  statements that control it, scripts, and transaction values.
Trusted boundary: what an ordinary statement does to the visible database, when a
  deferred constraint is violated, and which control statements fail are
  parameters; the stack discipline is the engine's documented one.
Main exports: Behaviour, Command, Connection, TransactionEngine, execute,
  executeBatch, commitTransaction, dropTransaction, ControlText, OpenText, afterText
-/
import Csgdb.Core.Basic

namespace Csgdb.Storage

variable {Data : Type}

/-- What an ordinary statement does: it changes rows; or it fails, usually undoing
itself, though `OR FAIL` keeps what it did; or the engine aborts the transaction. -/
inductive Behaviour (Data : Type) where
  | done (changes : Nat) (after : Data)
  | failed (error : Error) (after : Data)
  | aborted (error : Error)

/-- One SQL statement: an ordinary one, bound to its parameters, or one that
controls the transaction. -/
inductive Command (Data : Type) where
  | ordinary (behaviour : Data → Behaviour Data)
  | begin
  | commit
  | rollback
  | savepoint (name : String)
  | release (name : String)
  | rollbackTo (name : String)

def Command.isOrdinary : Command Data → Bool
  | .ordinary _ => true
  | _ => false

/-- The open transaction.  Savepoints are listed from the innermost one; a
transaction that a savepoint opened ends with it. -/
structure OpenTransaction (Data : Type) where
  data : Data
  savepoints : List (String × Data)
  explicit : Bool

/-- A connection.  Without an open transaction it is in autocommit mode. -/
structure Connection (Data : Type) where
  committed : Data
  transaction : Option (OpenTransaction Data)
  changes : Nat
  controls : Nat

/-- The failure of a control statement: the engine refuses it, or fails it and
rolls the transaction back. -/
inductive Fault where
  | refused (error : Error)
  | aborted (error : Error)
deriving Repr, DecidableEq

/-- What the failing statement answers. -/
def Fault.error : Fault → Error
  | .refused error => error
  | .aborted error => error

/-- What the engine decides: which contents violate a deferred constraint, and
which control statement, counted over the connection, fails. -/
structure TransactionEngine (Data : Type) where
  pending : Data → Bool
  fault : Nat → Option Fault

namespace Connection

def autocommit (connection : Connection Data) : Bool :=
  connection.transaction.isNone

/-- The database that the next statement sees. -/
def visible (connection : Connection Data) : Data :=
  match connection.transaction with
  | none => connection.committed
  | some current => current.data

def rolledBack (connection : Connection Data) : Connection Data :=
  { connection with transaction := none }

end Connection

/-! ## Ordinary statements -/

section Execute

variable (engine : TransactionEngine Data)

/-- The end of a statement in autocommit mode, which checks deferred constraints. -/
def autocommitStatement (after : Data) (answer : Result Nat)
    (connection : Connection Data) : Connection Data × Result Nat :=
  if engine.pending after then
    (connection, .error constraintViolation)
  else
    ({ connection with committed := after }, answer)

def executeOrdinary (behaviour : Data → Behaviour Data) (connection : Connection Data) :
    Connection Data × Result Nat :=
  match behaviour connection.visible, connection.transaction with
  | .done changes after, none =>
      autocommitStatement engine after (.ok changes) { connection with changes := changes }
  | .done changes after, some current =>
      ({ connection with
          transaction := some { current with data := after }, changes := changes },
        .ok changes)
  | .failed error after, none =>
      autocommitStatement engine after (.error error) connection
  | .failed error after, some current =>
      ({ connection with transaction := some { current with data := after } },
        .error error)
  | .aborted error, _ => (connection.rolledBack, .error error)

/-! ## Control statements -/

/-- The innermost savepoint of a name, with all older ones. -/
def savepointsFrom (name : String) : List (String × Data) → Option (List (String × Data))
  | [] => none
  | entry :: older =>
      if foldName entry.1 = foldName name then some (entry :: older)
      else savepointsFrom name older

/-- The end of a transaction: refused while a deferred violation is pending. -/
def commitOpen (current : OpenTransaction Data) (connection : Connection Data) :
    Connection Data × Result Nat :=
  if engine.pending current.data then
    (connection, .error constraintViolation)
  else
    ({ connection with committed := current.data, transaction := none },
      .ok connection.changes)

/-- Releasing a savepoint drops it and all newer ones; releasing the one that
opened the transaction commits. -/
def releaseOpen (name : String) (current : OpenTransaction Data)
    (connection : Connection Data) : Connection Data × Result Nat :=
  match savepointsFrom name current.savepoints with
  | none => (connection, .error storageFailed)
  | some kept =>
      if kept.tail.isEmpty && !current.explicit then
        commitOpen engine current connection
      else
        ({ connection with transaction := some { current with savepoints := kept.tail } },
          .ok connection.changes)

/-- Rolling back to a savepoint keeps it and drops all newer ones. -/
def rollbackToOpen (name : String) (current : OpenTransaction Data)
    (connection : Connection Data) : Connection Data × Result Nat :=
  match savepointsFrom name current.savepoints with
  | some ((saved, data) :: older) =>
      ({ connection with
          transaction := some { current with
            data := data, savepoints := (saved, data) :: older } },
        .ok connection.changes)
  | _ => (connection, .error storageFailed)

/-- A control statement that the engine does not fail. -/
def executeControl (command : Command Data) (connection : Connection Data) :
    Connection Data × Result Nat :=
  match command, connection.transaction with
  | .begin, none =>
      ({ connection with
          transaction := some
            { data := connection.committed, savepoints := [], explicit := true } },
        .ok connection.changes)
  | .commit, some current => commitOpen engine current connection
  | .rollback, some _ => (connection.rolledBack, .ok connection.changes)
  | .savepoint name, none =>
      ({ connection with
          transaction := some
            { data := connection.committed, savepoints := [(name, connection.committed)],
              explicit := false } },
        .ok connection.changes)
  | .savepoint name, some current =>
      ({ connection with
          transaction := some { current with
            savepoints := (name, current.data) :: current.savepoints } },
        .ok connection.changes)
  | .release name, some current => releaseOpen engine name current connection
  | .rollbackTo name, some current => rollbackToOpen name current connection
  | _, _ => (connection, .error storageFailed)

/-- One statement on a connection. -/
def execute (command : Command Data) (connection : Connection Data) :
    Connection Data × Result Nat :=
  match command with
  | .ordinary behaviour => executeOrdinary engine behaviour connection
  | _ =>
      let counted := { connection with controls := connection.controls + 1 }
      match engine.fault connection.controls with
      | some (.refused error) => (counted, .error error)
      | some (.aborted error) => (counted.rolledBack, .error error)
      | none => executeControl engine command counted

/-- A script stops at its first failing statement. -/
def executeBatch : List (Command Data) → Connection Data → Connection Data × Result Unit
  | [], connection => (connection, .ok ())
  | command :: rest, connection =>
      match execute engine command connection with
      | (next, .error error) => (next, .error error)
      | (next, .ok _) => executeBatch rest next

/-! ## Transaction values -/

/-- `Connection::transaction`. -/
def beginTransaction (connection : Connection Data) : Connection Data × Result Unit :=
  executeBatch engine [.begin] connection

/-- Dropping a transaction value rolls back what is still open. -/
def dropTransaction (connection : Connection Data) : Connection Data :=
  connection.rolledBack

/-- `Transaction::commit` consumes the value, which is dropped afterwards. -/
def commitTransaction (connection : Connection Data) : Connection Data × Result Unit :=
  let (next, answer) := executeBatch engine [.commit] connection
  (dropTransaction next, answer)

/-- `Transaction::rollback`. -/
def rollbackTransaction (connection : Connection Data) : Connection Data × Result Unit :=
  let (next, answer) := executeBatch engine [.rollback] connection
  (dropTransaction next, answer)

end Execute

/-! ## Transactions by their texts -/

/-- The text of a control statement, whatever connection runs it. -/
inductive ControlText where
  | begin
  | commit
  | rollback
  | savepoint (name : String)
  | release (name : String)
  | rollbackTo (name : String)

/-- The control text of a statement, if it is one. -/
def Command.text : Command Data → Option ControlText
  | .ordinary _ => none
  | .begin => some .begin
  | .commit => some .commit
  | .rollback => some .rollback
  | .savepoint name => some (.savepoint name)
  | .release name => some (.release name)
  | .rollbackTo name => some (.rollbackTo name)

/-- The transaction that successful statements leave open, by their texts alone: how
it was opened, and the names of its savepoints. -/
abbrev OpenText := Option (Bool × List String)

/-- The innermost savepoint of a name, with all older ones. -/
def savepointNames (name : String) : List String → Option (List String)
  | [] => none
  | saved :: older =>
      if foldName saved = foldName name then some (saved :: older)
      else savepointNames name older

/-- One successful control statement. -/
def ControlText.run (control : ControlText) (current : OpenText) : OpenText :=
  match control, current with
  | .begin, none => some (true, [])
  | .commit, _ => none
  | .rollback, _ => none
  | .savepoint name, none => some (false, [name])
  | .savepoint name, some (explicit, names) => some (explicit, name :: names)
  | .release name, some (explicit, names) =>
      match savepointNames name names with
      | none => some (explicit, names)
      | some kept =>
          if kept.tail.isEmpty && !explicit then none else some (explicit, kept.tail)
  | .rollbackTo name, some (explicit, names) =>
      some (explicit, (savepointNames name names).getD names)
  | _, current => current

/-- One successful statement; only control texts open or end a transaction. -/
def afterText (text : Option ControlText) (current : OpenText) : OpenText :=
  match text with
  | none => current
  | some control => control.run current

end Csgdb.Storage
