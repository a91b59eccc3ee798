/-
Module: Csgdb.Collection.Crud
Purpose: Typed insert, get, update and delete of one derived collection.
Trusted boundary: field codecs and the engine's constraint checks are
  parameters; encoded cells are opaque.
Main exports: FieldCodec, Record, Record.values, updateValues, fromRow, Crud
-/
import Csgdb.Derive.Expand
import Csgdb.Storage.Statement

namespace Csgdb

open Derive Storage

/-- `FieldValue`: conversion between a Rust field value and a cell. -/
structure FieldCodec (V Cell : Type) where
  toValue : V → Result Cell
  fromValue : Cell → Result V

/-- A record holds one Rust value for each derived field. -/
structure Record (derived : DerivedCollection) (V : Type) where
  values : List V
  length_eq : values.length = derived.fields.length

section Codec

variable {V Cell : Type} (codec : DerivedField → FieldCodec V Cell)

/-- Encodes the given values with the codecs of the given fields, in order. -/
def encodeValues : List DerivedField → List V → Result (List Cell)
  | field :: fields, value :: values => do
      let cell ← (codec field).toValue value
      let cells ← encodeValues fields values
      .ok (cell :: cells)
  | _, _ => .ok []

/-- The generated `values`: every field in declaration order. -/
def Record.cells {derived : DerivedCollection} (record : Record derived V) :
    Result (List Cell) :=
  encodeValues codec derived.fields record.values

/-- Decodes the fields by their position in the result row. -/
def decodeFields (row : List Cell) :
    Nat → List DerivedField → Result (List V)
  | _, [] => .ok []
  | index, field :: fields => do
      let cell ← valueRef row index
      let value ← (codec field).fromValue cell
      let values ← decodeFields row (index + 1) fields
      .ok (value :: values)

/-- The generated `from_row`. -/
def fromRow (derived : DerivedCollection) (row : List Cell) : Result (List V) :=
  decodeFields codec row 0 derived.fields

/-- The position of the first field marked as primary key. -/
def primaryKeyIndex (schema : CollectionSchema) : Option Nat :=
  schema.fields.findIdx? FieldSchema.primaryKey

/-- The Rust value of the primary key of a record. -/
def Record.key {derived : DerivedCollection} (record : Record derived V) : Option V :=
  (primaryKeyIndex derived.schema).bind fun index => record.values[index]?

/-- The values of an update: the key moves to the end. -/
def updateValues {derived : DerivedCollection} (record : Record derived V) :
    Result (List Cell) := do
  let values ← record.cells codec
  match primaryKeyIndex derived.schema with
  | none => .error invalidSchema
  | some index =>
      match values[index]? with
      | none => .error invalidSchema
      | some key => .ok (values.eraseIdx index ++ [key])

end Codec

/-- What the operations of one collection depend on. -/
structure Crud (V Cell : Type) where
  derived : DerivedCollection
  codec : DerivedField → FieldCodec V Cell
  /-- The engine wrapper's `raw_bind_parameter`. -/
  rawBindParameter : Nat → Cell → Result Unit
  /-- The table's constraints other than its key. -/
  accepts : List (Sql.Row Cell) → Bool

namespace Crud

variable {V Cell : Type} [Sql.Scalar Cell] [DecidableEq Cell] (crud : Crud V Cell)

/-- The content of the collection's table. -/
abbrev Content : Type :=
  Sql.Table Cell crud.derived.primaryKey.column

/-- Compiles and executes one of the generated changes. -/
def executeRecord (sql : String) (values : List Cell) (table : crud.Content) :
    Result (Nat × crud.Content) := do
  let statement ← prepare sql
  executeValues crud.rawBindParameter crud.accepts crud.derived.table table statement
    values

def insert (record : Record crud.derived V) (table : crud.Content) :
    Result (Nat × crud.Content) := do
  let values ← record.cells crud.codec
  crud.executeRecord crud.derived.insertSql values table

/-- Reads at most one record. -/
def get (key : V) (table : crud.Content) : Result (Option (List V)) := do
  let key ← (crud.codec crud.derived.primaryKey).toValue key
  let statement ← prepare crud.derived.selectByKeySql
  let rows ← queryRows crud.rawBindParameter crud.derived.table table statement [key]
  match rows with
  | [] => .ok none
  | row :: _ => do
      let record ← fromRow crud.codec crud.derived row
      .ok (some record)

def update (record : Record crud.derived V) (table : crud.Content) :
    Result (Nat × crud.Content) := do
  let values ← updateValues crud.codec record
  crud.executeRecord crud.derived.updateSql values table

def delete (key : V) (table : crud.Content) : Result (Nat × crud.Content) := do
  let key ← (crud.codec crud.derived.primaryKey).toValue key
  crud.executeRecord crud.derived.deleteByKeySql [key] table

end Crud

end Csgdb
