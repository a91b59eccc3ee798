/-
Module: Csgdb.Collection.Session
Purpose: A connection on which a program stores and queries the records of one typed
  collection.
Trusted boundary: the engine answers selections as its specification allows; a table keeps
  the constraints of its definition and of its unique indexes; what a column stores of a
  cell is the cell.
Main exports: declaredConstraints, CollectionSession, CollectionCommand,
  CollectionSession.execute
-/
import Csgdb.Collection.Crud
import Csgdb.Foundation.RecordStore
import Csgdb.Query.Execute

namespace Csgdb

open Derive Foundation Query

/-! ## The constraints of a declaration -/

section Constraints

variable {Cell : Type} [Sql.Scalar Cell] [DecidableEq Cell]

/-- `NOT NULL` of every column that is declared with it. -/
def keepsNotNull (derived : DerivedCollection) (row : Sql.Row Cell) : Bool :=
  derived.fields.all fun field => field.nullable || !Sql.Scalar.isNull (row field.column)

/-- Two rows differ in a column of an index, or one of them is `NULL` there. -/
def indexSeparates (index : DerivedIndex) (left right : Sql.Row Cell) : Bool :=
  index.columns.any fun column =>
    Sql.Scalar.isNull (left column) || Sql.Scalar.isNull (right column) ||
      left column != right column

/-- What the table and its indexes, created by `CREATE_TABLE_SQL` and `CREATE_INDEX_SQL`,
ask of their rows besides the key. -/
def declaredConstraints (derived : DerivedCollection) (rows : List (Sql.Row Cell)) : Bool :=
  rows.all (keepsNotNull derived) &&
    derived.indexes.all fun index =>
      !index.unique || decide (rows.Pairwise fun left right => indexSeparates index left right)

end Constraints

/-! ## A session -/

/-- A connection to the table of one collection: its typed operations, the engine of its
queries, and what runs them. -/
structure CollectionSession (R V : Type) [EngineOrder R] where
  crud : Crud V (Value R)
  engine : Sql.SelectEngine (Value R) rowCount
  cache : StatementCache
  /-- The connection itself, or a transaction on it. -/
  executor : QueryConnection R → QueryExecutor R
  executor_connection : ∀ connection, (executor connection).connection = .ok connection

/-- What a program does with its collection. -/
inductive CollectionCommand (derived : DerivedCollection) (R V : Type) where
  | insert (record : Record derived V)
  | get (key : V)
  | update (record : Record derived V)
  | delete (key : V)
  | query (draft : QueryDraft R) (limit : UInt32)
  | «exists» (draft : QueryDraft R)

namespace CollectionSession

variable {R V : Type} [RealCarrier R] [EngineOrder R] [DecidableEq R]
variable (session : CollectionSession R V)

/-- The connection over a content of the table. -/
def connection (table : session.crud.Content) : QueryConnection R where
  engine := session.engine
  tables name := if name = session.crud.derived.table then some table.rows else none
  cache := session.cache

/-- A change that fails leaves the table as it was. -/
def settle (table : session.crud.Content) :
    Result (Nat × session.crud.Content) →
      StoreAnswer (List V) Error × session.crud.Content
  | .ok (count, next) => (.changed count, next)
  | .error failure => (.refused failure, table)

/-- What a read returns. -/
def answer {α : Type} (reply : α → StoreAnswer (List V) Error) :
    Result α → StoreAnswer (List V) Error
  | .ok value => reply value
  | .error failure => .refused failure

/-- Runs one command. -/
def execute (table : session.crud.Content) :
    CollectionCommand session.crud.derived R V →
      StoreAnswer (List V) Error × session.crud.Content
  | .insert record => session.settle table (session.crud.insert record table)
  | .get key => (answer .found (session.crud.get key table), table)
  | .update record => session.settle table (session.crud.update record table)
  | .delete key => session.settle table (session.crud.delete key table)
  | .query draft limit =>
      (answer .listed (do
        let query ← draft.take session.crud.derived.schema limit
        (session.executor (session.connection table)).queryCollection
          session.crud.rawBindParameter (fromRow session.crud.codec session.crud.derived)
          query), table)
  | .exists draft =>
      (answer .present (do
        let query ← draft.exists session.crud.derived.schema
        (session.executor (session.connection table)).collectionExists
          session.crud.rawBindParameter query), table)

end CollectionSession

end Csgdb
