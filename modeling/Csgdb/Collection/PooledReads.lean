/-
Module: Csgdb.Collection.PooledReads
Purpose: Typed reads on the readers of a pool, next to the moves of its writer.
Trusted boundary: a typed read is one statement that is stepped to its end, together with
  the decoding of its rows; a reader sees the versions that the writer commits.
Main exports: CollectionRead, ReadConnection.read, ReadTransaction.read, RecordPool,
  RecordPoolStep
-/
import Csgdb.Collection.Session
import Csgdb.Pool.ReadConnection
import Csgdb.Pool.System

namespace Csgdb

open Derive Foundation Pool Query

/-! ## Typed reads -/

/-- What a program reads of its collection. -/
inductive CollectionRead (derived : DerivedCollection) (R V : Type) where
  | get (key : V)
  | query (draft : QueryDraft R) (limit : UInt32)
  | «exists» (draft : QueryDraft R)

def CollectionRead.command {derived : DerivedCollection} {R V : Type} :
    CollectionRead derived R V → CollectionCommand derived R V
  | .get key => .get key
  | .query draft limit => .query draft limit
  | .exists draft => .exists draft

/-- What a typed read returns. -/
abbrev ReadReply (V : Type) := StoreAnswer (List V) Error

section Reads

variable {R V Value : Type} [RealCarrier R] [EngineOrder R] [DecidableEq R]
variable (session : CollectionSession R V)

/-- The statement of a typed read, its one row being what the read returns. -/
def CollectionSession.selecting (read : CollectionRead session.crud.derived R V) :
    ReadCommand session.crud.Content (ReadReply V) :=
  .ordinary fun table => ([(session.execute table read.command).1], .done)

/-- What happens in front of the statement: the key is converted, the draft is compiled. -/
def CollectionSession.prepared : CollectionRead session.crud.derived R V → Result Unit
  | .get key =>
      ((session.crud.codec session.crud.derived.primaryKey).toValue key).map fun _ => ()
  | .query draft limit => (draft.take session.crud.derived.schema limit).map fun _ => ()
  | .exists draft => (draft.exists session.crud.derived.schema).map fun _ => ()

/-- The reply among the rows. -/
def replyOf (answer : StatementAnswer (ReadReply V)) : ReadReply V :=
  answer.rows.head?.getD (.refused Storage.storageFailed)

/-- `get`, `query_collection` and `collection_exists` of a `ReadConnection`. -/
def ReadConnection.read (read : CollectionRead session.crud.derived R V)
    (next : ReadReply V → ReadCallback session.crud.Content (ReadReply V) Value) :
    ReadCallback session.crud.Content (ReadReply V) Value :=
  match session.prepared read with
  | .error failure => next (.refused failure)
  | .ok () => .prepareQuery 2 (session.selecting read) fun answer => next (replyOf answer)

/-- The same of a `ReadTransaction`. -/
def ReadTransaction.read (read : CollectionRead session.crud.derived R V)
    (next : ReadReply V → ReadScope session.crud.Content (ReadReply V) Value) :
    ReadScope session.crud.Content (ReadReply V) Value :=
  match session.prepared read with
  | .error failure => next (.refused failure)
  | .ok () => .statement 2 (session.selecting read) fun answer => next (replyOf answer)

end Reads

/-! ## Readers next to the writer -/

/-- A pool with all states that it has been in, one for each version that readers may
see. -/
structure RecordPool (Data Row Answer Value : Type) where
  history : Nat → System Data Answer
  readers : LeasedReaders Data Row Value

namespace RecordPool

variable {Data Row Answer Value : Type}

def system (state : RecordPool Data Row Answer Value) : System Data Answer :=
  state.history state.readers.latest

/-- The pool behind one more move. -/
def moved (state : RecordPool Data Row Answer Value) (next : System Data Answer) :
    RecordPool Data Row Answer Value where
  history := Function.update state.history (state.readers.latest + 1) next
  readers :=
    { state.readers with
      committed := Function.update state.readers.committed (state.readers.latest + 1)
        next.shared.writer.connection.committed
      latest := state.readers.latest + 1 }

end RecordPool

/-- A thread of the pool moves, or an allowed event of the readers happens. -/
inductive RecordPoolStep {Data Row Answer Value : Type} (pool : PoolConfiguration Data)
    (fault : Nat → Nat → Option Storage.Fault) (allowed : LeaseEvent Data Row Value → Prop) :
    RecordPool Data Row Answer Value → RecordPool Data Row Answer Value → Prop
  | moves {state : RecordPool Data Row Answer Value} {next : System Data Answer}
      (move : Move pool state.system next) :
      RecordPoolStep pool fault allowed state (state.moved next)
  | reads {state : RecordPool Data Row Answer Value} {readers : LeasedReaders Data Row Value}
      {event : LeaseEvent Data Row Value} (step : LeaseStep fault event state.readers readers)
      (noWrite : event ≠ .write) (isAllowed : allowed event) :
      RecordPoolStep pool fault allowed state { state with readers := readers }

end Csgdb
