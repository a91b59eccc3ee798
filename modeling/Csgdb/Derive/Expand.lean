/-
Module: Csgdb.Derive.Expand
Purpose: The expansion of `#[derive(Collection)]`: every check it makes, and
  the schema and SQL constants it generates.
Trusted boundary: SHA-256, Unicode upper-casing and the Rust path grammar come
  from outside the repository and are parameters.
Main exports: MacroHost, DerivedCollection, deriveIndexes, expandCollection,
  expandCollection_spec
-/
import Csgdb.Derive.Statements

namespace Csgdb.Derive

open Foundation

/-- What the macro takes from other crates. -/
structure MacroHost where
  sha256 : String → SchemaFingerprint
  toUppercase : String → String
  isRustPath : String → Bool

/-- What the macro generates for one struct. -/
structure DerivedCollection where
  collection : String
  table : String
  version : UInt32
  fields : List DerivedField
  primaryKey : DerivedField
  indexes : List DerivedIndex
  canonical : String
  fingerprint : SchemaFingerprint
deriving Repr, DecidableEq

namespace DerivedCollection

variable (derived : DerivedCollection)

/-- `CREATE_TABLE_SQL`. -/
def createTableSql : String :=
  Derive.createTableSql (quoteIdentifier derived.table) derived.fields

/-- `INSERT_SQL`. -/
def insertSql : String :=
  Derive.insertSql (quoteIdentifier derived.table) derived.fields

/-- `SELECT_BY_KEY_SQL`. -/
def selectByKeySql : String :=
  selectSql (quoteIdentifier derived.table) derived.fields derived.primaryKey.column

/-- `UPDATE_SQL`. -/
def updateSql : String :=
  Derive.updateSql (quoteIdentifier derived.table) derived.fields
    derived.primaryKey.column

/-- `DELETE_BY_KEY_SQL`. -/
def deleteByKeySql : String :=
  deleteSql (quoteIdentifier derived.table) derived.primaryKey.column

/-- `CREATE_INDEX_SQL`. -/
def createIndexSql : List String :=
  derived.indexes.map (Derive.createIndexSql (quoteIdentifier derived.table))

/-- The runtime metadata of an index. -/
def indexSchema (index : DerivedIndex) : IndexSchema where
  id := index.id
  name := index.name
  columns := index.columns
  unique := index.unique
  fingerprint := index.fingerprint
  canonicalDescriptor := index.canonical

/-- `schema()`. -/
def schema : CollectionSchema where
  id := derived.collection
  table := derived.table
  version := derived.version
  fingerprint := derived.fingerprint
  fields := derived.fields.map DerivedField.schema
  canonicalDescriptor := derived.canonical
  indexes := derived.indexes.map indexSchema

end DerivedCollection

/-! ## Fields -/

/-- One turn of the field loop, up to the duplicate checks. -/
def deriveField (field : FieldInput) (ids columns : List String) :
    Except String DerivedField := do
  let attributes ← parseFieldAttributes field.metas
  let id ← requiredString attributes.id "id"
  let column ← requiredString attributes.column "column"
  validateStableName id "field id"
  validateSqlName column "column"
  if ids.contains id then
    .error "duplicate csgdb field id"
  else if columns.contains column then
    .error "duplicate csgdb column name"
  else do
    let (storage, nullable) ← classifyType field.ty
    if attributes.primaryKey && nullable then
      .error "the primary key cannot be optional"
    else
      .ok { rustName := field.rustName, ty := field.ty, id := id, column := column,
            storage := storage, nullable := nullable,
            primaryKey := attributes.primaryKey }

def deriveFields : List FieldInput → List String → List String →
    Except String (List DerivedField)
  | [], _, _ => .ok []
  | field :: rest, ids, columns => do
      let derived ← deriveField field ids columns
      let others ← deriveFields rest (derived.id :: ids) (derived.column :: columns)
      .ok (derived :: others)

/-! ## Indexes -/

/-- The loop over the field ids of one index: ids and columns, in order. -/
def deriveIndexFields (fields : List DerivedField) :
    List String → List String → Except String (List (String × String))
  | [], _ => .ok []
  | fieldId :: rest, seen =>
      if seen.contains fieldId then
        .error "duplicate field in csgdb index"
      else
        match fields.find? fun field => field.id == fieldId with
        | none => .error "csgdb index references an unknown field id"
        | some field => do
            let others ← deriveIndexFields fields rest (fieldId :: seen)
            .ok ((fieldId, field.column) :: others)

def deriveIndex (host : MacroHost) (collection table : String)
    (fields : List DerivedField) (attributes : IndexAttributes)
    (ids names : List String) : Except String DerivedIndex := do
  let id ← requiredString attributes.id "index id"
  let name ← requiredString attributes.name "index name"
  validateStableName id "index id"
  validateSqlName name "index name"
  if hasReservedPrefix name then
    .error "index names beginning with __csgdb_ are reserved"
  else if ids.contains id then
    .error "duplicate csgdb index id"
  else if names.contains name then
    .error "duplicate csgdb index name"
  else if attributes.fields.isEmpty then
    .error "csgdb index requires at least one field"
  else do
    let pairs ← deriveIndexFields fields attributes.fields []
    let columns := pairs.map Prod.snd
    let canonical := canonicalIndex collection table id name attributes.unique
      (pairs.map Prod.fst) columns
    .ok { id := id, name := name, columns := columns, unique := attributes.unique,
          canonical := canonical, fingerprint := host.sha256 canonical }

def deriveIndexes (host : MacroHost) (collection table : String)
    (fields : List DerivedField) :
    List IndexAttributes → List String → List String → Except String (List DerivedIndex)
  | [], _, _ => .ok []
  | attributes :: rest, ids, names => do
      let index ← deriveIndex host collection table fields attributes ids names
      let others ← deriveIndexes host collection table fields rest (index.id :: ids)
        (index.name :: names)
      .ok (index :: others)

/-! ## Expansion -/

/-- The name of the generated constant of a field; a raw identifier loses its
marker. -/
def fieldConstantName (host : MacroHost) (ident : String) : String :=
  let rustName :=
    match ident.toList with
    | 'r' :: '#' :: rest => String.ofList rest
    | _ => ident
  "FIELD_" ++ host.toUppercase rustName

/-- The generated constants must not collide. -/
def checkFieldConstants (host : MacroHost) :
    List DerivedField → List String → Except String Unit
  | [], _ => .ok ()
  | field :: rest, seen =>
      let name := fieldConstantName host field.rustName
      if seen.contains name then
        .error "field names collide after conversion to generated FIELD_* constants"
      else
        checkFieldConstants host rest (name :: seen)

def parseVersion (version : Option Nat) : Except String UInt32 :=
  match version with
  | none => .error "missing csgdb version"
  | some literal =>
      if literal < 2 ^ 32 then .ok (UInt32.ofNat literal)
      else .error "number too large to fit in target type"

def namedFields : DeriveData → Except String (List FieldInput)
  | .namedStruct fields =>
      if fields.isEmpty then .error "Collection requires at least one field"
      else .ok fields
  | .unnamedStruct => .error "Collection requires a struct with named fields"
  | .notStruct => .error "Collection can only be derived for structs"

def checkCratePath (host : MacroHost) (cratePath : Option String) :
    Except String Unit :=
  match cratePath with
  | none => .ok ()
  | some path =>
      if host.isRustPath path then .ok ()
      else .error "csgdb crate must be a valid Rust path"

/-- The only field marked as primary key. -/
def uniquePrimaryKey (fields : List DerivedField) : Except String DerivedField :=
  match fields.filter DerivedField.primaryKey with
  | [primaryKey] => .ok primaryKey
  | _ => .error "Collection requires exactly one #[csgdb(primary_key)] field"

def expandCollection (host : MacroHost) (input : DeriveInput) :
    Except String DerivedCollection :=
  if input.hasGenerics then
    .error "Collection does not support generic structs"
  else do
    let attributes ← parseCollectionAttributes input.metas
    let collection ← requiredString attributes.id "collection"
    let table ← requiredString attributes.table "table"
    let version ← parseVersion attributes.version
    validateStableName collection "collection"
    validateSqlName table "table"
    if version == 0 then
      .error "csgdb version must be greater than zero"
    else do
      let named ← namedFields input.data
      let fields ← deriveFields named [] []
      let primaryKey ← uniquePrimaryKey fields
      let indexes ← deriveIndexes host collection table fields attributes.indexes [] []
      checkCratePath host attributes.cratePath
      checkFieldConstants host fields []
      let canonical := canonicalSchema collection table version fields
      .ok { collection := collection, table := table, version := version,
            fields := fields, primaryKey := primaryKey, indexes := indexes,
            canonical := canonical, fingerprint := host.sha256 canonical }

end Csgdb.Derive
