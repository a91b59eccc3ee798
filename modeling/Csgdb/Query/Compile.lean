/-
Module: Csgdb.Query.Compile
Purpose: The compiler from typed query drafts to SQL text and bound values.
Trusted boundary: none
Main exports: compilePredicate, compileQuery, compileExistsQuery
-/
import Csgdb.Query.Predicate

namespace Csgdb.Query

/-- Largest result set accepted by the typed collection query API. -/
def maxQueryLimit : UInt32 := 10000
/-- Largest predicate tree accepted by one typed collection query. -/
def maxPredicateNodes : Nat := 256
/-- Largest nesting depth accepted by one typed collection query. -/
def maxPredicateDepth : Nat := 32
/-- Largest number of caller-specified ordering fields of one query. -/
def maxQueryOrderFields : Nat := 8

def invalidQuery : Error :=
  { code := .invalidQuery
    message := "typed collection query is invalid or exceeds its safety limits" }

/-- `checked_add` on the machine's `usize`. -/
def checkedAdd (value amount : Nat) : Option Nat :=
  if value + amount < 2 ^ 64 then some (value + amount) else none

def pushIdentifierChars : List Char → List Char → List Char
  | sql, [] => sql
  | sql, character :: rest =>
      if character = '"' then pushIdentifierChars (sql ++ ['"', character]) rest
      else pushIdentifierChars (sql ++ [character]) rest

def pushIdentifier (sql identifier : String) : String :=
  String.ofList (pushIdentifierChars (sql.toList ++ ['"']) identifier.toList ++ ['"'])

def pushOrder (sql : String) (field : FieldSchema) (direction : OrderDirection) :
    String :=
  pushIdentifier sql field.column ++
    match direction with
    | .ascending => " ASC"
    | .descending => " DESC"

def validateField (schema : CollectionSchema) (field : FieldSchema) : Result Unit :=
  if schema.fields.any fun candidate => candidate = field then
    .ok ()
  else
    .error invalidQuery

variable {R : Type} [RealCarrier R]

def validateBoundValue (field : FieldSchema) (value : Value R) : Result Unit :=
  let valid : Bool :=
    match value with
    | .null => field.nullable
    | .integer _ => field.columnType == .integer
    | .real value => field.columnType == .real && RealCarrier.isFinite value
    | .text _ => field.columnType == .text
    | .blob _ => field.columnType == .blob
  if valid then .ok () else .error invalidQuery

/-- The SQL text, the bound values and the node counter that the compiler
threads through a predicate. -/
structure Compilation (R : Type) where
  sql : String
  values : List (Value R)
  nodes : Nat
deriving Repr, DecidableEq

def comparisonSql : Comparison → String
  | .equal => " = ?"
  | .notEqual => " <> ?"
  | .less => " < ?"
  | .lessOrEqual => " <= ?"
  | .greater => " > ?"
  | .greaterOrEqual => " >= ?"

/-- What a comparison appends behind the column, and the value it binds. -/
def compileComparison (comparison : Comparison) (value : Value R) :
    Result (String × List (Value R)) :=
  if value.isNull then
    match comparison with
    | .equal => .ok (" IS NULL", [])
    | .notEqual => .ok (" IS NOT NULL", [])
    | .less | .lessOrEqual | .greater | .greaterOrEqual => .error invalidQuery
  else
    .ok (comparisonSql comparison, [value])

def nullComparisonSql : NullComparison → String
  | .isNull => " IS NULL"
  | .isNotNull => " IS NOT NULL"

/-- Counts the node and checks both limits before anything is written. -/
def enterNode (state : Compilation R) (depth : Nat) : Result (Compilation R) :=
  match checkedAdd state.nodes 1 with
  | none => .error invalidQuery
  | some nodes =>
      if depth > maxPredicateDepth || nodes > maxPredicateNodes then
        .error invalidQuery
      else
        .ok { state with nodes := nodes }

def compilePredicate (schema : CollectionSchema) :
    PredicateNode R → Compilation R → Nat → Result (Compilation R)
  | .compare field comparison value, state, depth => do
      let state ← enterNode state depth
      validateField schema field
      validateBoundValue field value
      let (text, bound) ← compileComparison comparison value
      .ok { state with
        sql := pushIdentifier (state.sql ++ "(") field.column ++ text ++ ")"
        values := state.values ++ bound }
  | .null field comparison, state, depth => do
      let state ← enterNode state depth
      validateField schema field
      if !field.nullable then
        .error invalidQuery
      else
        .ok { state with
          sql := pushIdentifier (state.sql ++ "(") field.column ++
            nullComparisonSql comparison ++ ")" }
  | .and left right, state, depth => do
      let state ← enterNode state depth
      let state ← compilePredicate schema left { state with sql := state.sql ++ "(" }
        (depth + 1)
      let state ← compilePredicate schema right { state with sql := state.sql ++ " AND " }
        (depth + 1)
      .ok { state with sql := state.sql ++ ")" }
  | .or left right, state, depth => do
      let state ← enterNode state depth
      let state ← compilePredicate schema left { state with sql := state.sql ++ "(" }
        (depth + 1)
      let state ← compilePredicate schema right { state with sql := state.sql ++ " OR " }
        (depth + 1)
      .ok { state with sql := state.sql ++ ")" }
  | .not inner, state, depth => do
      let state ← enterNode state depth
      let state ← compilePredicate schema inner { state with sql := state.sql ++ "(NOT " }
        (depth + 1)
      .ok { state with sql := state.sql ++ ")" }

/-- An executable bounded query. -/
structure CollectionQuery (R : Type) where
  sql : String
  values : List (Value R)
  limit : UInt32
deriving Repr, DecidableEq

/-- An executable existence query. -/
structure CollectionExistsQuery (R : Type) where
  sql : String
  values : List (Value R)
deriving Repr, DecidableEq

/-- The optional `WHERE` clause behind some SQL text. -/
def compileWhere (schema : CollectionSchema) (predicate : Option (PredicateNode R))
    (sql : String) : Result (String × List (Value R)) :=
  match predicate with
  | none => .ok (sql, [])
  | some node => do
      let compiled ← compilePredicate schema node
        { sql := sql ++ " WHERE ", values := [], nodes := 0 } 1
      .ok (compiled.sql, compiled.values)

def mapInvalidQuery {α : Type} (result : Result α) : Result α :=
  match result with
  | .ok value => .ok value
  | .error _ => .error invalidQuery

def compileExistsQuery (schema : CollectionSchema)
    (predicate : Option (PredicateNode R)) (order : List QueryOrder) :
    Result (CollectionExistsQuery R) :=
  if !order.isEmpty then
    .error invalidQuery
  else do
    mapInvalidQuery (validateCollectionSchema schema)
    let (sql, values) ← compileWhere schema predicate
      (pushIdentifier "SELECT 1 FROM " schema.table)
    .ok { sql := sql ++ " LIMIT 1", values := values }

/-- The loop over the result columns. -/
def pushColumns : Nat → String → List FieldSchema → String
  | _, sql, [] => sql
  | index, sql, field :: rest =>
      pushColumns (index + 1)
        (pushIdentifier (if index = 0 then sql else sql ++ ", ") field.column) rest

/-- The loop over the ordering terms, with the set of field ids it has seen. -/
def pushOrders (schema : CollectionSchema) :
    Nat → String → List String → List QueryOrder → Result (String × List String)
  | _, sql, seen, [] => .ok (sql, seen)
  | index, sql, seen, term :: rest => do
      validateField schema term.field
      if seen.contains term.fieldId then
        .error invalidQuery
      else
        pushOrders schema (index + 1)
          (pushOrder (if index = 0 then sql else sql ++ ", ") term.field term.direction)
          (term.fieldId :: seen) rest

def compileQuery (schema : CollectionSchema) (predicate : Option (PredicateNode R))
    (order : List QueryOrder) (limit : UInt32) : Result (CollectionQuery R) :=
  if limit == 0 || limit > maxQueryLimit || order.length > maxQueryOrderFields then
    .error invalidQuery
  else do
    mapInvalidQuery (validateCollectionSchema schema)
    match schema.primaryKey with
    | none => .error invalidQuery
    | some primaryKey => do
        let sql := pushColumns 0 "SELECT " schema.fields ++ " FROM "
        let (sql, values) ← compileWhere schema predicate
          (pushIdentifier sql schema.table)
        let (sql, ordered) ← pushOrders schema 0 (sql ++ " ORDER BY ") [] order
        let sql :=
          if ordered.contains primaryKey.id then sql
          else pushOrder (if order.isEmpty then sql else sql ++ ", ") primaryKey .ascending
        .ok
          { sql := sql ++ " LIMIT ?"
            values := values ++ [.integer (Int64.ofNat limit.toNat)]
            limit := limit }

end Csgdb.Query
