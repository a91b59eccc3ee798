/-
Module: Csgdb.Query.Field
Purpose: The typed field constants that the derive generates, query drafts built
  from them, and the execution of a compiled query on one table.
Trusted boundary: none
Main exports: fieldConstant, FieldPredicate, WrittenQuery, QueryDraft, queryValues
-/
import Csgdb.Derive.Expand
import Csgdb.Query.Compile
import Csgdb.Storage.Statement

namespace Csgdb.Query

open Derive Storage

/-! ## Field constants -/

/-- The schema in the `FIELD_*` constant of the field with a stable id.  The Rust
name of a constant follows the Rust field; its content does not. -/
def fieldConstant (derived : DerivedCollection) (id : String) : Option FieldSchema :=
  (derived.fields.map DerivedField.schema).find? fun field => field.id = id

/-- A predicate as a program writes it: every leaf is a method of a constant. -/
inductive FieldPredicate (R : Type) where
  | compare (id : String) (comparison : Comparison) (value : Value R)
  | null (id : String) (comparison : NullComparison)
  | and (left right : FieldPredicate R)
  | or (left right : FieldPredicate R)
  | not (inner : FieldPredicate R)
deriving Repr, DecidableEq

variable {R : Type}

/-- Builds a predicate with the given constants, when all of them exist. -/
def FieldPredicate.build (constant : String → Option FieldSchema) :
    FieldPredicate R → Option (PredicateNode R)
  | .compare id comparison value =>
      (constant id).map fun field => .compare field comparison value
  | .null id comparison => (constant id).map fun field => .null field comparison
  | .and left right =>
      (left.build constant).bind fun builtLeft =>
        (right.build constant).map fun builtRight => .and builtLeft builtRight
  | .or left right =>
      (left.build constant).bind fun builtLeft =>
        (right.build constant).map fun builtRight => .or builtLeft builtRight
  | .not inner => (inner.build constant).map .not

/-- A typed query draft. -/
structure QueryDraft (R : Type) where
  predicate : Option (PredicateNode R)
  order : List QueryOrder
deriving Repr, DecidableEq

/-- A draft as a program writes it. -/
structure WrittenQuery (R : Type) where
  predicate : Option (FieldPredicate R)
  order : List (String × OrderDirection)
deriving Repr, DecidableEq

/-- Builds a draft with the given constants. -/
def WrittenQuery.build (constant : String → Option FieldSchema) (written : WrittenQuery R) :
    Option (QueryDraft R) := do
  let predicate ←
    match written.predicate with
    | none => some none
    | some predicate => (predicate.build constant).map some
  let order ← written.order.mapM fun term =>
    (constant term.1).map fun field => { field := field, direction := term.2 : QueryOrder }
  some { predicate := predicate, order := order }

/-! ## Execution -/

/-- A bound row count; the compiler binds no negative one. -/
def rowCount : Value R → Option Nat
  | .integer count => if count.toInt < 0 then none else some count.toInt.toNat
  | _ => none

variable [EngineOrder R]

/-- Prepares a compiled query, binds its values and collects its result rows. -/
def queryValues (rawBindParameter : Nat → Value R → Result Unit) {key : String}
    (name : String) (table : Sql.Table (Value R) key) (sql : String)
    (values : List (Value R)) : Result (List (List (Value R))) := do
  let statement ← prepare sql
  let slots ← bindIter rawBindParameter statement values
  (table.search rowCount name slots statement.statement).mapError mapFailure

end Csgdb.Query
