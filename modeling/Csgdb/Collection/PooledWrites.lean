/-
Module: Csgdb.Collection.PooledWrites
Purpose: Typed inserts, updates and deletes that clients submit to a pool.
Trusted boundary: a statement on the connection of the writer does what it does on any
  other connection.
Main exports: DatabasePool.insert, DatabasePool.update, DatabasePool.delete,
  CollectionWrite, CollectionSession.statement
-/
import Csgdb.Collection.Session
import Csgdb.Pool.System

namespace Csgdb

open Derive Foundation Pool Query Storage

variable {R V Answer : Type} [EngineOrder R] [DecidableEq R]
variable (session : CollectionSession R V)

namespace CollectionSession

/-- What a statement with its values does to the table. -/
def effect (sql : String) (values : List (Value R)) (table : session.crud.Content) :
    Behaviour session.crud.Content :=
  match session.crud.executeRecord sql values table with
  | .ok (changes, next) => .done changes next
  | .error error => .failed error table

/-- A statement with its values, on the connection of the writer. -/
def bound (sql : String) (values : List (Value R)) : Command session.crud.Content :=
  .ordinary (session.effect sql values)

end CollectionSession

/-! ## Calls of the pool -/

namespace DatabasePool

/-- `DatabasePool::execute`, behind the conversion of its values. -/
def execute (sql : String) (values : Result (List (Value R)))
    (resume : Resume session.crud.Content Answer) : Program session.crud.Content Answer :=
  match values with
  | .error error => resume (.returned (.error error))
  | .ok values => .execute (session.bound sql values) resume

def insert (record : Record session.crud.derived V)
    (resume : Resume session.crud.Content Answer) : Program session.crud.Content Answer :=
  execute session session.crud.derived.insertSql (record.cells session.crud.codec) resume

def update (record : Record session.crud.derived V)
    (resume : Resume session.crud.Content Answer) : Program session.crud.Content Answer :=
  execute session session.crud.derived.updateSql (updateValues session.crud.codec record) resume

def delete (key : V) (resume : Resume session.crud.Content Answer) :
    Program session.crud.Content Answer :=
  execute session session.crud.derived.deleteByKeySql
    (((session.crud.codec session.crud.derived.primaryKey).toValue key).map fun cell => [cell])
    resume

end DatabasePool

/-! ## Writes -/

/-- What a client stores or removes. -/
inductive CollectionWrite (derived : DerivedCollection) (V : Type) where
  | insert (record : Record derived V)
  | update (record : Record derived V)
  | delete (key : V)

/-- The command that it is on a connection of one's own. -/
def CollectionWrite.command {derived : DerivedCollection} {R V : Type} :
    CollectionWrite derived V → CollectionCommand derived R V
  | .insert record => .insert record
  | .update record => .update record
  | .delete key => .delete key

namespace CollectionSession

/-- The statement that it is for the pool, unless its values do not convert. -/
def statement : CollectionWrite session.crud.derived V → Result (Command session.crud.Content)
  | .insert record =>
      (record.cells session.crud.codec).map (session.bound session.crud.derived.insertSql)
  | .update record =>
      (updateValues session.crud.codec record).map (session.bound session.crud.derived.updateSql)
  | .delete key =>
      ((session.crud.codec session.crud.derived.primaryKey).toValue key).map fun cell =>
        session.bound session.crud.derived.deleteByKeySql [cell]

/-- The call of the pool that submits it. -/
def submit (write : CollectionWrite session.crud.derived V)
    (resume : Resume session.crud.Content Answer) : Program session.crud.Content Answer :=
  match write with
  | .insert record => DatabasePool.insert session record resume
  | .update record => DatabasePool.update session record resume
  | .delete key => DatabasePool.delete session key resume

/-- It is submitted as a job of its one statement, or not at all. -/
theorem submit_eq (write : CollectionWrite session.crud.derived V)
    (resume : Resume session.crud.Content Answer) :
    session.submit write resume =
      match session.statement write with
      | .error error => resume (.returned (.error error))
      | .ok statement => .execute statement resume := by
  cases write with
  | insert record =>
      simp only [submit, DatabasePool.insert, DatabasePool.execute, statement]
      cases record.cells session.crud.codec <;> rfl
  | update record =>
      simp only [submit, DatabasePool.update, DatabasePool.execute, statement]
      cases updateValues session.crud.codec record <;> rfl
  | delete key =>
      simp only [submit, DatabasePool.delete, DatabasePool.execute, statement]
      cases (session.crud.codec session.crud.derived.primaryKey).toValue key <;> rfl

end CollectionSession

end Csgdb
