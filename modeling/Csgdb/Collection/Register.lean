/-
Module: Csgdb.Collection.Register
Purpose: Registration of typed collections and explicit schema migrations.
Trusted boundary: none
Main exports: registerCollection, migrateCollection
-/
import Csgdb.Collection.Catalog

namespace Csgdb.Registry

open Derive Storage

/-- Outcome of registering a typed collection. -/
inductive SchemaRegistration where
  | created
  | alreadyRegistered
deriving Repr, DecidableEq

/-- Outcome of applying an explicitly identified collection migration. -/
inductive MigrationStatus where
  | applied
  | alreadyApplied
deriving Repr, DecidableEq

def schemaMismatch : Error :=
  { code := .schemaMismatch
    message := "collection schema does not match the registered database schema" }

def invalidMigration : Error :=
  { code := .invalidMigration
    message := "collection migration endpoints or identifier are invalid" }

def migrationMismatch : Error :=
  { code := .migrationMismatch
    message := "collection migration does not match the registered database state" }

variable {Data : Type} (engine : Engine Data)

/-- Runs one transaction: an error, also of the commit, leaves the database as
it was. -/
def transaction {α : Type} (body : Database Data → Result (α × Database Data))
    (database : Database Data) : Database Data × Result α :=
  match body database with
  | .error failure => (database, .error failure)
  | .ok (value, changed) =>
      match engine.commit changed with
      | .error failure => (database, .error failure)
      | .ok () => (changed, .ok value)

/-! ## Internal tables -/

def registryColumn (name type : String) (primaryKey : Bool) : Sql.ColumnDefinition where
  name := name
  type := type
  notNull := true
  primaryKey := primaryKey

/-- The three internal tables with their columns. -/
def schemaRegistryColumns : List Sql.ColumnDefinition :=
  [registryColumn "collection_id" "TEXT" true, registryColumn "table_name" "TEXT" false,
    registryColumn "schema_version" "INTEGER" false,
    registryColumn "fingerprint" "BLOB" false, registryColumn "descriptor" "TEXT" false]

def indexRegistryColumns : List Sql.ColumnDefinition :=
  [registryColumn "collection_id" "TEXT" true, registryColumn "index_id" "TEXT" true,
    registryColumn "index_name" "TEXT" false, registryColumn "is_unique" "INTEGER" false,
    registryColumn "fingerprint" "BLOB" false, registryColumn "descriptor" "TEXT" false]

def migrationRegistryColumns : List Sql.ColumnDefinition :=
  [registryColumn "collection_id" "TEXT" true, registryColumn "migration_id" "TEXT" true,
    registryColumn "from_version" "INTEGER" false,
    registryColumn "to_version" "INTEGER" false,
    registryColumn "from_fingerprint" "BLOB" false,
    registryColumn "to_fingerprint" "BLOB" false]

def schemaRegistryTable : String := "__csgdb_schema"
def indexRegistryTable : String := "__csgdb_index_schema"
def migrationRegistryTable : String := "__csgdb_migration"

def initializeSchemaRegistries (database : Database Data) : Result (Database Data) := do
  let database ← createTable engine schemaRegistryTable schemaRegistryColumns database
  let database ← createTable engine indexRegistryTable indexRegistryColumns database
  createTable engine migrationRegistryTable migrationRegistryColumns database

/-! ## Schema registry -/

/-- Reads one registered schema and checks that the row is well formed. -/
def findRegisteredSchema (database : Database Data) (collectionId : String) :
    Result (Option SchemaRow) :=
  match database.registry.schemas.find? fun row => row.collectionId = collectionId with
  | none => .ok none
  | some row =>
      if !validName row.tableName || row.version == 0 || row.descriptor.isEmpty then
        .error schemaMismatch
      else
        .ok (some row)

def schemaRow (schema : CollectionSchema) : SchemaRow where
  collectionId := schema.id
  tableName := schema.table
  version := schema.version
  fingerprint := schema.fingerprint
  descriptor := schema.canonicalDescriptor

def insertRegisteredSchema (schema : CollectionSchema) (database : Database Data) :
    Result (Database Data) := do
  let registry ← RegistryRows.ofLists (database.registry.schemas ++ [schemaRow schema])
    database.registry.indexes database.registry.migrations
  .ok { database with registry := registry }

def updateRegisteredSchema (schema : CollectionSchema) (database : Database Data) :
    Result (Database Data) := do
  let registry ← RegistryRows.ofLists
    (database.registry.schemas.map fun row =>
      if row.collectionId = schema.id then schemaRow schema else row)
    database.registry.indexes database.registry.migrations
  if database.registry.schemas.countP (fun row => row.collectionId = schema.id) = 1 then
    .ok { database with registry := registry }
  else
    .error migrationMismatch

def ensureRegisteredSchemaMatches (expected : CollectionSchema) (registered : SchemaRow) :
    Result Unit :=
  if registered = schemaRow expected then .ok () else .error schemaMismatch

/-- No other collection has registered the table name. -/
def ensureTableIsUnclaimed (schema : CollectionSchema) (database : Database Data) :
    Result Unit :=
  if database.registry.schemas.countP (fun row =>
      row.tableName = schema.table ∧ row.collectionId ≠ schema.id) = 0 then
    .ok ()
  else
    .error schemaMismatch

/-! ## Index registry -/

/-- The order of index ids, as the engine and `str` compare them. -/
def indexRowLe (left right : IndexRow) : Bool :=
  decide (left.indexId ≤ right.indexId)

/-- One row of the index registry must be well formed. -/
def checkIndexRow (row : IndexRow) : Bool :=
  validName row.indexId && validName row.indexName && !hasReservedPrefix row.indexName &&
    !row.descriptor.isEmpty

def registeredIndexes (database : Database Data) (collectionId : String) :
    Result (List IndexRow) :=
  let rows := (database.registry.indexes.filter fun row =>
    row.collectionId = collectionId).mergeSort indexRowLe
  if rows.all checkIndexRow then .ok rows else .error schemaMismatch

def indexRow (schema : CollectionSchema) (index : IndexSchema) : IndexRow where
  collectionId := schema.id
  indexId := index.id
  indexName := index.name
  unique := index.unique
  fingerprint := index.fingerprint
  descriptor := index.canonicalDescriptor

/-- The registry rows of the declared indexes, sorted by id. -/
def expectedIndexRows (schema : CollectionSchema) : List IndexRow :=
  (schema.indexes.map (indexRow schema)).mergeSort indexRowLe

def validateRegisteredIndexes (schema : CollectionSchema) (database : Database Data) :
    Result Unit := do
  let actual ← registeredIndexes database schema.id
  if actual = expectedIndexRows schema then .ok () else .error schemaMismatch

def insertRegisteredIndexes (schema : CollectionSchema) :
    List IndexSchema → Database Data → Result (Database Data)
  | [], database => .ok database
  | index :: rest, database => do
      let registry ← RegistryRows.ofLists database.registry.schemas
        (database.registry.indexes ++ [indexRow schema index]) database.registry.migrations
      insertRegisteredIndexes schema rest { database with registry := registry }

def replaceRegisteredIndexes (schema : CollectionSchema) (database : Database Data) :
    Result (Database Data) := do
  let registry ← RegistryRows.ofLists database.registry.schemas
    (database.registry.indexes.filter fun row => row.collectionId ≠ schema.id)
    database.registry.migrations
  insertRegisteredIndexes schema schema.indexes { database with registry := registry }

/-! ## Physical schema -/

def executeBatches : List String → Database Data → Result (Database Data)
  | [], database => .ok database
  | sql :: rest, database => do
      let database ← executeBatch engine sql database
      executeBatches rest database

def createDeclaredIndexes (derived : DerivedCollection) (database : Database Data) :
    Result (Database Data) :=
  if derived.createIndexSql.length != derived.schema.indexes.length then
    .error invalidSchema
  else
    executeBatches engine derived.createIndexSql database

def quoteSqlIdentifier (value : String) : String :=
  "\"" ++ doubleQuotes value ++ "\""

/-- An index is retained when the target declares the very same one. -/
def retained (target : CollectionSchema) (old : IndexSchema) : Bool :=
  target.indexes.any fun new =>
    old.id == new.id && old.name == new.name && old.fingerprint == new.fingerprint &&
      old.canonicalDescriptor == new.canonicalDescriptor

def dropReplacedIndexes (target : CollectionSchema) :
    List IndexSchema → Database Data → Result (Database Data)
  | [], database => .ok database
  | old :: rest, database =>
      if retained target old then
        dropReplacedIndexes target rest database
      else do
        let database ← executeBatch engine
          ("DROP INDEX IF EXISTS " ++ quoteSqlIdentifier old.name) database
        dropReplacedIndexes target rest database

def replaceDeclaredIndexes (source target : DerivedCollection)
    (database : Database Data) : Result (Database Data) := do
  let database ← dropReplacedIndexes engine target.schema source.schema.indexes database
  createDeclaredIndexes engine target database

/-- `eq_ignore_ascii_case`. -/
def eqIgnoreAsciiCase (left right : String) : Bool :=
  foldName left == foldName right

/-- The key columns of an index: plain, ascending and compared byte by byte. -/
def keyColumns : List IndexColumn → Result (List String)
  | [] => .ok []
  | column :: rest =>
      if !column.key then
        keyColumns rest
      else
        let name := column.name.getD ""
        if name.isEmpty || column.descending ||
            !eqIgnoreAsciiCase (column.collation.getD "") "BINARY" then
          .error schemaMismatch
        else do
          let names ← keyColumns rest
          .ok (name :: names)

def validatePhysicalIndex (table : String) (expected : IndexSchema)
    (database : Database Data) : Result Unit :=
  match indexList database table expected.name with
  | [] => .error schemaMismatch
  | row :: others =>
      if row.unique != expected.unique || row.origin != "c" || row.isPartial ||
          !others.isEmpty then
        .error schemaMismatch
      else do
        let columns ← keyColumns (indexXinfo database expected.name)
        if columns = expected.columns then .ok () else .error schemaMismatch

def validateEachIndex (table : String) : List IndexSchema → Database Data → Result Unit
  | [], _ => .ok ()
  | index :: rest, database => do
      validatePhysicalIndex table index database
      validateEachIndex table rest database

def validatePhysicalIndexes (schema : CollectionSchema) (database : Database Data) :
    Result Unit :=
  validateEachIndex schema.table schema.indexes database

/-- One declared field against the physical columns. -/
def validatePhysicalColumn (actual : List TableColumn) (expected : FieldSchema) : Bool :=
  match actual.find? fun column => column.name = expected.column with
  | none => false
  | some column =>
      eqIgnoreAsciiCase column.declaredType expected.columnType.sqlName &&
        column.notNull == !expected.nullable && column.primaryKey == expected.primaryKey

def validatePhysicalTable (schema : CollectionSchema) (database : Database Data) :
    Result Unit :=
  let actual := tableInfo database schema.table
  if actual.length != schema.fields.length then
    .error schemaMismatch
  else if schema.fields.all (validatePhysicalColumn actual) then
    .ok ()
  else
    .error schemaMismatch

/-! ## Registration -/

def registerBody (derived : DerivedCollection) (database : Database Data) :
    Result (SchemaRegistration × Database Data) := do
  let schema := derived.schema
  let database ← initializeSchemaRegistries engine database
  let existing ← findRegisteredSchema database schema.id
  let (registration, database) ←
    match existing with
    | some row => do
        ensureRegisteredSchemaMatches schema row
        validateRegisteredIndexes schema database
        Except.ok (SchemaRegistration.alreadyRegistered, database)
    | none => do
        ensureTableIsUnclaimed schema database
        let database ← executeBatch engine derived.createTableSql database
        let database ← insertRegisteredSchema schema database
        let database ← createDeclaredIndexes engine derived database
        let database ← insertRegisteredIndexes schema schema.indexes database
        Except.ok (SchemaRegistration.created, database)
  validatePhysicalTable schema database
  validatePhysicalIndexes schema database
  .ok (registration, database)

/-- Creates or validates a typed collection. -/
def registerCollection (derived : DerivedCollection) (database : Database Data) :
    Database Data × Result SchemaRegistration :=
  match validateCollectionSchema derived.schema with
  | .error failure => (database, .error failure)
  | .ok () => transaction engine (registerBody engine derived) database

/-! ## Migration -/

def validateMigration (source target : CollectionSchema) (migrationId : String) :
    Result Unit := do
  validateCollectionSchema source
  validateCollectionSchema target
  if !validName migrationId || source.id != target.id ||
      decide (target.version ≤ source.version) ||
      source.fingerprint == target.fingerprint then
    .error invalidMigration
  else
    .ok ()

def findMigration (database : Database Data) (collectionId migrationId : String) :
    Option MigrationRow :=
  database.registry.migrations.find? fun row =>
    row.collectionId = collectionId ∧ row.migrationId = migrationId

def migrationRow (migrationId : String) (source target : CollectionSchema) :
    MigrationRow where
  collectionId := source.id
  migrationId := migrationId
  fromVersion := source.version
  toVersion := target.version
  fromFingerprint := source.fingerprint
  toFingerprint := target.fingerprint

def insertMigration (migrationId : String) (source target : CollectionSchema)
    (database : Database Data) : Result (Database Data) := do
  let registry ← RegistryRows.ofLists database.registry.schemas database.registry.indexes
    (database.registry.migrations ++ [migrationRow migrationId source target])
  .ok { database with registry := registry }

def ensureMigrationMatches (actual : MigrationRow) (source target : CollectionSchema) :
    Result Unit :=
  if actual.fromVersion = source.version ∧ actual.toVersion = target.version ∧
      actual.fromFingerprint = source.fingerprint ∧
      actual.toFingerprint = target.fingerprint then
    .ok ()
  else
    .error migrationMismatch

/-- `map_err(|_| migration_mismatch())`. -/
def orMigrationMismatch {α : Type} (result : Result α) : Result α :=
  match result with
  | .ok value => .ok value
  | .error _ => .error migrationMismatch

def currentSchema (database : Database Data) (collectionId : String) :
    Result SchemaRow := do
  match ← findRegisteredSchema database collectionId with
  | none => .error migrationMismatch
  | some row => .ok row

/-- The branch of a recorded migration: the target must still be in force. -/
def checkApplied (recorded : MigrationRow) (source target : CollectionSchema)
    (database : Database Data) : Result Unit := do
  ensureMigrationMatches recorded source target
  let current ← currentSchema database source.id
  orMigrationMismatch (ensureRegisteredSchemaMatches target current)
  orMigrationMismatch (validateRegisteredIndexes target database)
  orMigrationMismatch (validatePhysicalTable target database)
  orMigrationMismatch (validatePhysicalIndexes target database)

/-- The branch of a new migration. -/
def applyMigration (migrationId : String) (source target : DerivedCollection)
    (operation : Database Data → Result (Database Data)) (database : Database Data) :
    Result (Database Data) := do
  let current ← currentSchema database source.schema.id
  orMigrationMismatch (ensureRegisteredSchemaMatches source.schema current)
  orMigrationMismatch (validateRegisteredIndexes source.schema database)
  validatePhysicalTable source.schema database
  validatePhysicalIndexes source.schema database
  let database ← operation database
  ensureTableIsUnclaimed target.schema database
  validatePhysicalTable target.schema database
  let database ← replaceDeclaredIndexes engine source target database
  validatePhysicalIndexes target.schema database
  let database ← updateRegisteredSchema target.schema database
  let database ← replaceRegisteredIndexes target.schema database
  insertMigration migrationId source.schema target.schema database

def migrateBody (migrationId : String) (source target : DerivedCollection)
    (operation : Database Data → Result (Database Data)) (database : Database Data) :
    Result (MigrationStatus × Database Data) := do
  let database ← initializeSchemaRegistries engine database
  match findMigration database source.schema.id migrationId with
  | some recorded => do
      checkApplied recorded source.schema target.schema database
      .ok (.alreadyApplied, database)
  | none => do
      let database ← applyMigration engine migrationId source target operation database
      .ok (.applied, database)

/-- Applies one explicit, transactional collection schema migration. -/
def migrateCollection (migrationId : String) (source target : DerivedCollection)
    (operation : Database Data → Result (Database Data)) (database : Database Data) :
    Database Data × Result MigrationStatus :=
  match validateMigration source.schema target.schema migrationId with
  | .error failure => (database, .error failure)
  | .ok () =>
      transaction engine (migrateBody engine migrationId source target operation) database

end Csgdb.Registry
