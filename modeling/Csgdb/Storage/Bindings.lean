/-
Module: Csgdb.Storage.Bindings
Purpose: A compiled statement that is used again and again: the values that stay bound to
  its parameters, the calls that bind others, and the rows that borrow it.
Trusted boundary: the operations of the engine's wrapper are a parameter; a statement records
  what was bound whenever it had the engine run it.
Main exports: StatementEngine, StatementEngine.Documented, Statement, Statement.bindIter,
  Statement.execute, Statement.query, StatementEvent, Statement.call, Statement.Accepts
-/
import Csgdb.Core.Basic
import Csgdb.Foundation.EventRun
import Csgdb.Foundation.Overwrite
import Csgdb.Storage.Open

namespace Csgdb.Storage

open Foundation

variable {R Raw Held Row : Type}

/-! ## The engine -/

/-- What the wrapper does with a raw statement, which is all that its answers depend on. -/
structure StatementEngine (R Raw Held Row : Type) where
  /-- What the engine holds for each parameter. -/
  bound : Raw → List Held
  /-- How the engine holds a value. -/
  held : Value R → Held
  /-- What it holds for a parameter without a value. -/
  unbound : Held
  parameterCount : Raw → Nat
  rawBindParameter : Nat → Value R → Raw → Except EngineError Unit × Raw
  clearBindings : Raw → Raw
  rawExecute : Raw → Except EngineError Nat × Raw
  rawQuery : Raw → Raw
  nextRow : Raw → Except EngineError (Option Row) × Raw
  dropRows : Raw → Raw

namespace StatementEngine

variable (engine : StatementEngine R Raw Held Row)

/-- Parameters are numbered from one. -/
def bindPlace (place : Nat) (value : Value R) (raw : Raw) : Except EngineError Unit × Raw :=
  engine.rawBindParameter (place + 1) value raw

/-- A bound value goes to its parameter and stays there, whatever else is done with the
statement, until another one is bound or all are cleared. -/
structure Documented : Prop where
  counted : ∀ raw, engine.parameterCount raw = (engine.bound raw).length
  binds : WritesSlots engine.bindPlace engine.bound engine.held
  clears : ∀ raw, engine.bound (engine.clearBindings raw) =
    List.replicate (engine.bound raw).length engine.unbound
  executes : ∀ raw, engine.bound (engine.rawExecute raw).2 = engine.bound raw
  queries : ∀ raw, engine.bound (engine.rawQuery raw) = engine.bound raw
  advances : ∀ raw, engine.bound (engine.nextRow raw).2 = engine.bound raw
  dropsRows : ∀ raw, engine.bound (engine.dropRows raw) = engine.bound raw

/-- The loop of `bind_iter`.  A value of any storage class is bound in the same way. -/
def bindFrom : Nat → List (Value R) → Raw → Result Unit × Raw
  | _, [], raw => (.ok (), raw)
  | offset, value :: rest, raw =>
      let index := offset + 1
      match engine.rawBindParameter index value raw with
      | (.ok (), raw) => bindFrom (offset + 1) rest raw
      | (.error error, raw) => (.error (mapStorageError error), engine.clearBindings raw)

end StatementEngine

/-! ## Statements -/

/-- A compiled statement.  It records what was bound at each run, the latest one last. -/
structure Statement (Raw Held : Type) where
  inner : Raw
  borrowed : Bool
  runs : List (List Held)
deriving Repr, DecidableEq

/-- The rest of a function behind `?`. -/
def andThen {State α β : Type} (first : Result α × State)
    (rest : State → Result β × State) : Result β × State :=
  match first with
  | (.ok _, state) => rest state
  | (.error error, state) => (.error error, state)

namespace Statement

/-- A statement that was compiled or taken from the cache of its connection. -/
def prepared (inner : Raw) : Statement Raw Held where
  inner := inner
  borrowed := false
  runs := []

variable (engine : StatementEngine R Raw Held Row) (statement : Statement Raw Held)

def parameterCount : Nat :=
  engine.parameterCount statement.inner

def bindIter (parameters : List (Value R)) : Result Unit × Statement Raw Held :=
  let expected := statement.parameterCount engine
  if parameters.length ≠ expected then
    (.error parameterCountMismatch, statement)
  else
    let (result, inner) := engine.bindFrom 0 parameters statement.inner
    (result, { statement with inner := inner })

/-- From borrowed values. -/
def bindAll (parameters : List (Value R)) : Result Unit × Statement Raw Held :=
  statement.bindIter engine parameters

/-- From owned values. -/
def bindOwnedAll (parameters : List (Value R)) : Result Unit × Statement Raw Held :=
  statement.bindIter engine parameters

def rawExecute : Result Nat × Statement Raw Held :=
  let (result, inner) := engine.rawExecute statement.inner
  (result.mapError mapStorageError,
    { statement with
      inner := inner
      runs := statement.runs ++ [engine.bound statement.inner] })

/-- Rows borrow their statement until they are dropped. -/
def rawQuery : Result Unit × Statement Raw Held :=
  (.ok (), { statement with inner := engine.rawQuery statement.inner, borrowed := true })

def execute (parameters : List (Value R)) : Result Nat × Statement Raw Held :=
  andThen (statement.bindAll engine parameters) fun statement => statement.rawExecute engine

def executeValues (parameters : List (Value R)) : Result Nat × Statement Raw Held :=
  andThen (statement.bindOwnedAll engine parameters) fun statement => statement.rawExecute engine

def query (parameters : List (Value R)) : Result Unit × Statement Raw Held :=
  andThen (statement.bindAll engine parameters) fun statement => statement.rawQuery engine

def queryValues (parameters : List (Value R)) : Result Unit × Statement Raw Held :=
  andThen (statement.bindOwnedAll engine parameters) fun statement => statement.rawQuery engine

def clearBindings : Statement Raw Held :=
  { statement with inner := engine.clearBindings statement.inner }

/-- `next_row` of the rows of the statement. -/
def nextRow : Result (Option Row) × Statement Raw Held :=
  let (result, inner) := engine.nextRow statement.inner
  (result.mapError mapStorageError,
    { statement with
      inner := inner
      runs := statement.runs ++ [engine.bound statement.inner] })

def dropRows : Statement Raw Held :=
  { statement with inner := engine.dropRows statement.inner, borrowed := false }

end Statement

/-! ## Runs -/

/-- What happens to a statement. -/
inductive StatementEvent (R Raw : Type) where
  | execute (parameters : List (Value R))
  | executeValues (parameters : List (Value R))
  | query (parameters : List (Value R))
  | queryValues (parameters : List (Value R))
  | clearBindings
  | nextRow
  | dropRows
  /-- Rows are leaked, so that nothing resets the statement. -/
  | forgetRows
  /-- Others use the connection, the database or the memory. -/
  | elsewhere (inner : Raw)
deriving Repr, DecidableEq

/-- The parameter list of a call that has one. -/
def StatementEvent.parameters : StatementEvent R Raw → Option (List (Value R))
  | .execute parameters | .executeValues parameters | .query parameters
  | .queryValues parameters => some parameters
  | .clearBindings | .nextRow | .dropRows | .forgetRows | .elsewhere _ => none

inductive StatementReply (Row : Type) where
  | executed (result : Result Nat)
  | queried (result : Result Unit)
  | row (result : Result (Option Row))
  | nothing

/-- The error that a call reports. -/
def StatementReply.error : StatementReply Row → Option Error
  | .executed (.error error) | .queried (.error error) | .row (.error error) => some error
  | .executed (.ok _) | .queried (.ok _) | .row (.ok _) | .nothing => none

namespace Statement

variable (engine : StatementEngine R Raw Held Row)

def call (statement : Statement Raw Held) :
    StatementEvent R Raw → StatementReply Row × Statement Raw Held
  | .execute parameters => (statement.execute engine parameters).map .executed id
  | .executeValues parameters => (statement.executeValues engine parameters).map .executed id
  | .query parameters => (statement.query engine parameters).map .queried id
  | .queryValues parameters => (statement.queryValues engine parameters).map .queried id
  | .clearBindings => (.nothing, statement.clearBindings engine)
  | .nextRow => (statement.nextRow engine).map .row id
  | .dropRows => (.nothing, statement.dropRows engine)
  | .forgetRows => (.nothing, { statement with borrowed := false })
  | .elsewhere inner => (.nothing, { statement with inner := inner })

def step (statement : Statement Raw Held) (event : StatementEvent R Raw) :
    Statement Raw Held :=
  (statement.call engine event).2

/-- A statement is used by its rows alone as long as they borrow it, and what others do
leaves its bindings alone. -/
def Accepts (statement : Statement Raw Held) : StatementEvent R Raw → Prop
  | .execute _ | .executeValues _ | .query _ | .queryValues _ | .clearBindings =>
      statement.borrowed = false
  | .nextRow | .dropRows | .forgetRows => statement.borrowed = true
  | .elsewhere inner => engine.bound inner = engine.bound statement.inner

end Statement

end Csgdb.Storage
