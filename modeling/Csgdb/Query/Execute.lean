/-
Module: Csgdb.Query.Execute
Purpose: Finalizing query drafts, and the executors of finalized queries: single
  connections, transactions, pooled readers, snapshots and the pool.
Trusted boundary: the engine answers a selection of an existing table, as its
  specification allows, and its wrapper stores a bound value or refuses it; a cached
  statement is one that was compiled from the same text.
Main exports: QueryDraft.filter, QueryDraft.take, QueryDraft.exists, QueryConnection,
  QueryExecutor, QueryExecutor.queryCollection, QueryExecutor.collectionExists
-/
import Csgdb.Query.Field
import Csgdb.Sql.Selection

namespace Csgdb.Query

open Storage

variable {R : Type}

/-! ## Drafts -/

namespace QueryDraft

def new : QueryDraft R where
  predicate := none
  order := []

/-- Adds a predicate. -/
def filter (draft : QueryDraft R) (predicate : PredicateNode R) : QueryDraft R :=
  { draft with
    predicate := some
      (match draft.predicate with
        | some existing => .and existing predicate
        | none => predicate) }

/-- Appends one ordering term. -/
def orderBy (draft : QueryDraft R) (order : QueryOrder) : QueryDraft R :=
  { draft with order := draft.order ++ [order] }

variable [RealCarrier R]

/-- Finalizes a draft with a result limit. -/
def take (draft : QueryDraft R) (schema : CollectionSchema) (limit : UInt32) :
    Result (CollectionQuery R) :=
  compileQuery schema draft.predicate draft.order limit

/-- Finalizes a draft as an existence query. -/
def «exists» (draft : QueryDraft R) (schema : CollectionSchema) :
    Result (CollectionExistsQuery R) :=
  compileExistsQuery schema draft.predicate draft.order

end QueryDraft

/-! ## Connections -/

/-- The statements that a connection keeps, each with what its text compiles to. -/
structure StatementCache where
  entries : List (String × Sql.Prepared)
  compiled : ∀ entry ∈ entries, Sql.prepare entry.1 = some entry.2

/-- Compiles a text through the cache. -/
def StatementCache.prepareCached (cache : StatementCache) (sql : String) :
    Result Sql.Prepared :=
  match cache.entries.lookup sql with
  | some prepared => .ok prepared
  | none => prepare sql

variable [EngineOrder R]

/-- A connection as a query sees it: its engine, the rows of every table that it sees,
and its cached statements. -/
structure QueryConnection (R : Type) [EngineOrder R] where
  engine : Sql.SelectEngine (Value R) rowCount
  tables : String → Option (List (Sql.Row (Value R)))
  cache : StatementCache

/-- The rows with which the engine answers a statement. -/
def QueryConnection.select (connection : QueryConnection R) (slots : List (Value R))
    (statement : Sql.Prepared) : Result (List (Sql.Row (Value R))) :=
  (connection.engine.select connection.tables slots statement.statement).mapError mapFailure

/-- The cells of a result row. -/
def resultCells (row : Sql.Row (Value R)) : Sql.Statement → List (Value R)
  | .select (.columns columns) _ _ _ _ => columns.map row
  | .select .one _ _ _ _ => [.integer 1]
  | _ => []

section Execution

variable (rawBindParameter : Nat → Value R → Result Unit) {Record : Type}

/-- Decodes every row of a query. -/
def executeQuery (decode : List (Value R) → Result Record)
    (connection : QueryConnection R) (statement : Sql.Prepared)
    (query : CollectionQuery R) : Result (List Record) := do
  let slots ← bindIter rawBindParameter statement query.values
  let rows ← connection.select slots statement
  rows.mapM fun row => decode (resultCells row statement.statement)

/-- Asks for the first row of a query. -/
def executeExistsQuery (connection : QueryConnection R) (statement : Sql.Prepared)
    (query : CollectionExistsQuery R) : Result Bool := do
  let slots ← bindIter rawBindParameter statement query.values
  let rows ← connection.select slots statement
  .ok rows.head?.isSome

/-! ## Executors -/

/-- What a finalized query runs on.  The pool checks a reader out first. -/
inductive QueryExecutor (R : Type) [EngineOrder R] where
  | database (connection : QueryConnection R)
  | transaction (connection : QueryConnection R)
  | readConnection (connection : QueryConnection R)
  | readTransaction (connection : QueryConnection R)
  | databasePool (checkout : Result (QueryConnection R))

namespace QueryExecutor

/-- The connection that an executor runs a query on. -/
def connection : QueryExecutor R → Result (QueryConnection R)
  | .database connection | .transaction connection | .readConnection connection
  | .readTransaction connection => .ok connection
  | .databasePool checkout => checkout

/-- Compiles the text of a query: transactions do so directly, connections through
their caches. -/
def compile (executor : QueryExecutor R) (connection : QueryConnection R) (sql : String) :
    Result Sql.Prepared :=
  match executor with
  | .database _ | .readConnection _ | .databasePool _ => connection.cache.prepareCached sql
  | .transaction _ | .readTransaction _ => prepare sql

def queryCollection (decode : List (Value R) → Result Record)
    (executor : QueryExecutor R) (query : CollectionQuery R) : Result (List Record) := do
  let connection ← executor.connection
  let statement ← executor.compile connection query.sql
  executeQuery rawBindParameter decode connection statement query

def collectionExists (executor : QueryExecutor R) (query : CollectionExistsQuery R) :
    Result Bool := do
  let connection ← executor.connection
  let statement ← executor.compile connection query.sql
  executeExistsQuery rawBindParameter connection statement query

end QueryExecutor

end Execution

/-! ## Every executor runs the text of the query -/

theorem StatementCache.prepareCached_eq (cache : StatementCache) (sql : String) :
    cache.prepareCached sql = prepare sql := by
  unfold StatementCache.prepareCached
  cases found : cache.entries.lookup sql with
  | none => rfl
  | some prepared =>
      obtain ⟨before, behind, entries, -⟩ := List.lookup_eq_some_iff.mp found
      have member : (sql, prepared) ∈ cache.entries := by simp [entries]
      simp only [prepare, cache.compiled _ member]

theorem QueryExecutor.compile_eq (executor : QueryExecutor R)
    (connection : QueryConnection R) (sql : String) :
    executor.compile connection sql = prepare sql := by
  cases executor with
  | transaction => rfl
  | readTransaction => rfl
  | database | readConnection | databasePool =>
      exact connection.cache.prepareCached_eq sql

end Csgdb.Query
