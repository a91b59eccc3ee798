/-
Module: Csgdb.Collection.Catalog
Purpose: The database objects that registration works on: physical tables and
  indexes, and the rows of the three internal registries with their constraints.
Trusted boundary: the engine may refuse any definition statement for reasons of
  its own; that decision is a parameter.
Main exports: Catalog, RegistryRows, Database, Engine, executeBatch,
  tableInfo, indexList, indexXinfo
-/
import Csgdb.Core.Basic
import Csgdb.Derive.Expand
import Csgdb.Storage.Statement

namespace Csgdb.Registry

open Storage

/-! ## Physical objects -/

/-- A column; `hidden` marks the generated ones and those that a virtual table hides. -/
structure TableColumn where
  name : String
  declaredType : String
  notNull : Bool
  primaryKey : Bool
  collation : String
  hidden : Bool
deriving Repr, DecidableEq

structure PhysicalTable where
  name : String
  columns : List TableColumn
deriving Repr, DecidableEq

/-- The columns that are neither generated nor hidden. -/
def PhysicalTable.shown (table : PhysicalTable) : List TableColumn :=
  table.columns.filter fun column => !column.hidden

/-- A column of an index; the row id at its end has no name and is no key. -/
structure IndexColumn where
  name : Option String
  descending : Bool
  collation : Option String
  key : Bool
deriving Repr, DecidableEq

structure PhysicalIndex where
  name : String
  table : String
  unique : Bool
  origin : String
  isPartial : Bool
  columns : List IndexColumn
deriving Repr, DecidableEq

/-- Tables and indexes, no two tables and no two indexes of one name. -/
structure Catalog where
  tables : List PhysicalTable
  indexes : List PhysicalIndex
  tables_nodup : (tables.map fun table => foldName table.name).Nodup
  indexes_nodup : (indexes.map fun index => foldName index.name).Nodup

/-! ## Registries -/

structure SchemaRow where
  collectionId : String
  tableName : String
  version : UInt32
  fingerprint : SchemaFingerprint
  descriptor : String
deriving Repr, DecidableEq

structure IndexRow where
  collectionId : String
  indexId : String
  indexName : String
  unique : Bool
  fingerprint : SchemaFingerprint
  descriptor : String
deriving Repr, DecidableEq

structure MigrationRow where
  collectionId : String
  migrationId : String
  fromVersion : UInt32
  toVersion : UInt32
  fromFingerprint : SchemaFingerprint
  toFingerprint : SchemaFingerprint
deriving Repr, DecidableEq

/-- The rows of the internal tables under their primary keys, uniqueness and
foreign keys. -/
structure RegistryRows where
  schemas : List SchemaRow
  indexes : List IndexRow
  migrations : List MigrationRow
  collectionIds_nodup : (schemas.map SchemaRow.collectionId).Nodup
  tableNames_nodup : (schemas.map SchemaRow.tableName).Nodup
  indexKeys_nodup : (indexes.map fun row => (row.collectionId, row.indexId)).Nodup
  indexNames_nodup : (indexes.map IndexRow.indexName).Nodup
  indexes_owned : ∀ row ∈ indexes, row.collectionId ∈ schemas.map SchemaRow.collectionId
  migrationKeys_nodup :
    (migrations.map fun row => (row.collectionId, row.migrationId)).Nodup
  migrations_owned :
    ∀ row ∈ migrations, row.collectionId ∈ schemas.map SchemaRow.collectionId
  versions_positive : ∀ row ∈ schemas, row.version ≠ 0
  migrations_increase :
    ∀ row ∈ migrations, row.fromVersion ≠ 0 ∧ row.fromVersion < row.toVersion

/-- Changed registry rows, when they satisfy every constraint. -/
def RegistryRows.ofLists (schemas : List SchemaRow) (indexes : List IndexRow)
    (migrations : List MigrationRow) : Result RegistryRows :=
  if valid :
      (schemas.map SchemaRow.collectionId).Nodup ∧
      (schemas.map SchemaRow.tableName).Nodup ∧
      (indexes.map fun row => (row.collectionId, row.indexId)).Nodup ∧
      (indexes.map IndexRow.indexName).Nodup ∧
      (∀ row ∈ indexes, row.collectionId ∈ schemas.map SchemaRow.collectionId) ∧
      (migrations.map fun row => (row.collectionId, row.migrationId)).Nodup ∧
      (∀ row ∈ migrations, row.collectionId ∈ schemas.map SchemaRow.collectionId) ∧
      (∀ row ∈ schemas, row.version ≠ 0) ∧
      (∀ row ∈ migrations, row.fromVersion ≠ 0 ∧ row.fromVersion < row.toVersion) then
    .ok
      { schemas := schemas
        indexes := indexes
        migrations := migrations
        collectionIds_nodup := valid.1
        tableNames_nodup := valid.2.1
        indexKeys_nodup := valid.2.2.1
        indexNames_nodup := valid.2.2.2.1
        indexes_owned := valid.2.2.2.2.1
        migrationKeys_nodup := valid.2.2.2.2.2.1
        migrations_owned := valid.2.2.2.2.2.2.1
        versions_positive := valid.2.2.2.2.2.2.2.1
        migrations_increase := valid.2.2.2.2.2.2.2.2 }
  else
    .error constraintViolation

/-- A database: physical objects, registries and the application's data. -/
structure Database (Data : Type) where
  catalog : Catalog
  registry : RegistryRows
  data : Data

variable {Data : Type}

/-- What the engine may decide on its own: to refuse a definition statement
(reserved names, limits, existing duplicates, input and output) and to fail a
commit. -/
structure Engine (Data : Type) where
  refuses : Sql.Statement → Database Data → Option Error
  commit : Database Data → Result Unit

variable (engine : Engine Data)

/-! ## Definition statements -/

def Catalog.findTable (catalog : Catalog) (name : String) : Option PhysicalTable :=
  catalog.tables.find? fun table => foldName table.name = foldName name

def Catalog.findIndex (catalog : Catalog) (name : String) : Option PhysicalIndex :=
  catalog.indexes.find? fun index => foldName index.name = foldName name

def Catalog.addTable (catalog : Catalog) (table : PhysicalTable)
    (new : catalog.findTable table.name = none) : Catalog where
  tables := catalog.tables ++ [table]
  indexes := catalog.indexes
  tables_nodup := by
    rw [List.map_append, List.nodup_append]
    refine ⟨catalog.tables_nodup, by simp, ?_⟩
    intro left leftMember right rightMember same
    obtain ⟨other, inTables, rfl⟩ := List.mem_map.mp leftMember
    obtain rfl : right = foldName table.name := by simpa using rightMember
    have differ := List.find?_eq_none.mp new other inTables
    simp [same] at differ
  indexes_nodup := catalog.indexes_nodup

def Catalog.addIndex (catalog : Catalog) (index : PhysicalIndex)
    (new : catalog.findIndex index.name = none) : Catalog where
  tables := catalog.tables
  indexes := catalog.indexes ++ [index]
  tables_nodup := catalog.tables_nodup
  indexes_nodup := by
    rw [List.map_append, List.nodup_append]
    refine ⟨catalog.indexes_nodup, by simp, ?_⟩
    intro left leftMember right rightMember same
    obtain ⟨other, inIndexes, rfl⟩ := List.mem_map.mp leftMember
    obtain rfl : right = foldName index.name := by simpa using rightMember
    have differ := List.find?_eq_none.mp new other inIndexes
    simp [same] at differ

def Catalog.removeIndex (catalog : Catalog) (name : String) : Catalog where
  tables := catalog.tables
  indexes := catalog.indexes.filter fun index => foldName index.name ≠ foldName name
  tables_nodup := catalog.tables_nodup
  indexes_nodup := catalog.indexes_nodup.sublist (List.filter_sublist.map _)

def tableColumn (column : Sql.ColumnDefinition) : TableColumn where
  name := column.name
  declaredType := column.type
  notNull := column.notNull
  primaryKey := column.primaryKey
  collation := "BINARY"
  hidden := false

/-- `CREATE TABLE IF NOT EXISTS`. -/
def createTable (name : String) (columns : List Sql.ColumnDefinition)
    (database : Database Data) : Result (Database Data) :=
  if new : database.catalog.findTable name = none then
    if (database.catalog.findIndex name).isSome ||
        !decide (columns.map fun column => foldName column.name).Nodup then
      .error invalidSql
    else
      match engine.refuses (.createTable name columns) database with
      | some failure => .error failure
      | none =>
          .ok { database with
            catalog := database.catalog.addTable
              { name := name, columns := columns.map tableColumn } new }
  else
    .ok database

/-- The column of an index on a table column: it takes over its collation. -/
def indexColumn (column : TableColumn) : IndexColumn where
  name := some column.name
  descending := false
  collation := some column.collation
  key := true

/-- The row id that the engine adds behind the key columns. -/
def rowidColumn : IndexColumn where
  name := none
  descending := false
  collation := some "BINARY"
  key := false

def findColumn (table : PhysicalTable) (name : String) : Option TableColumn :=
  table.columns.find? fun column => foldName column.name = foldName name

/-- `CREATE INDEX IF NOT EXISTS`. -/
def createIndex (unique : Bool) (name table : String) (columns : List String)
    (database : Database Data) : Result (Database Data) :=
  if new : database.catalog.findIndex name = none then
    if (database.catalog.findTable name).isSome then
      .error invalidSql
    else
      match database.catalog.findTable table with
      | none => .error invalidSql
      | some physical =>
          match columns.mapM (findColumn physical) with
          | none => .error invalidSql
          | some found =>
              match engine.refuses (.createIndex unique name table columns) database with
              | some failure => .error failure
              | none =>
                  .ok { database with
                    catalog := database.catalog.addIndex
                      { name := name, table := physical.name, unique := unique,
                        origin := "c", isPartial := false,
                        columns := found.map indexColumn ++ [rowidColumn] } new }
  else
    .ok database

/-- `DROP INDEX IF EXISTS`. -/
def dropIndex (name : String) (database : Database Data) : Result (Database Data) :=
  match engine.refuses (.dropIndex name) database with
  | some failure => .error failure
  | none => .ok { database with catalog := database.catalog.removeIndex name }

/-- `Transaction::execute_batch` on one definition statement. -/
def executeBatch (sql : String) (database : Database Data) : Result (Database Data) := do
  let prepared ← prepare sql
  match prepared.statement with
  | .createTable name columns => createTable engine name columns database
  | .createIndex unique name table columns =>
      createIndex engine unique name table columns database
  | .dropIndex name => dropIndex engine name database
  | _ => .error invalidSql

/-! ## Schema queries -/

/-- `pragma_table_info`, which leaves out generated and hidden columns. -/
def tableInfo (database : Database Data) (name : String) : List TableColumn :=
  ((database.catalog.findTable name).map PhysicalTable.shown).getD []

/-- `pragma_index_list` restricted to one exact index name. -/
def indexList (database : Database Data) (table name : String) : List PhysicalIndex :=
  database.catalog.indexes.filter fun index =>
    foldName index.table = foldName table ∧ index.name = name

/-- `pragma_index_xinfo`. -/
def indexXinfo (database : Database Data) (name : String) : List IndexColumn :=
  ((database.catalog.findIndex name).map PhysicalIndex.columns).getD []

end Csgdb.Registry
