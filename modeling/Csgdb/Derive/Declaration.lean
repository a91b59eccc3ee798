/-
Module: Csgdb.Derive.Declaration
Purpose: What `#[derive(Collection)]` reads: attributes, field types and the
  name checks made before anything is generated; and the canonical descriptors hashed
  into schema and index fingerprints.
Trusted boundary: none
Main exports: SynType, classifyType, DeriveInput, parseCollectionAttributes,
  parseFieldAttributes, DerivedField, validateStableName, validateSqlName,
  canonicalSchema, canonicalIndex
-/
import Csgdb.Collection.Schema
import Mathlib.Data.String.Basic

namespace Csgdb.Derive

/-- The view of a Rust type that the macro inspects: the last path segment,
its only type argument when it has exactly one, and whether the path is
qualified (`<T as Trait>::Item`).  Every other type shape is `other`. -/
inductive SynType where
  | path (qualified : Bool) (ident : String)
  | generic (qualified : Bool) (ident : String) (argument : SynType)
  | other
deriving Repr, DecidableEq, Inhabited

/-- The only type argument of the given generic type. -/
def genericInner (ty : SynType) (expected : String) : Option SynType :=
  match ty with
  | .generic _ ident argument => if ident = expected then some argument else none
  | _ => none

/-- The last identifier of an unqualified path. -/
def simpleTypeIdent : SynType → Option String
  | .path qualified ident | .generic qualified ident _ =>
      if qualified then none else some ident
  | .other => none

def isByteVector (ty : SynType) : Bool :=
  ((genericInner ty "Vec").bind simpleTypeIdent) == some "u8"

def unsupportedFieldType : String :=
  "unsupported Collection field type; use integers, floats, bool, String, Vec<u8>, or Option<T>"

/-- Classification of a type that is not an `Option`. -/
def classifyPlainType (ty : SynType) : Except String (ColumnType × Bool) :=
  if isByteVector ty then
    .ok (.blob, false)
  else
    match simpleTypeIdent ty with
    | none => .error unsupportedFieldType
    | some ident =>
        if ident ∈ ["i8", "i16", "i32", "i64", "u8", "u16", "u32", "u64", "bool"] then
          .ok (.integer, false)
        else if ident ∈ ["f32", "f64"] then
          .ok (.real, false)
        else if ident = "String" then
          .ok (.text, false)
        else
          .error unsupportedFieldType

/-- Storage class and nullability of a field type. -/
def classifyType : SynType → Except String (ColumnType × Bool)
  | .generic qualified ident argument =>
      if ident = "Option" then do
        let (storage, nestedNullable) ← classifyType argument
        if nestedNullable then
          .error "nested Option fields are not supported"
        else
          .ok (storage, true)
      else
        classifyPlainType (.generic qualified ident argument)
  | ty => classifyPlainType ty

/-! ## Attributes -/

/-- One item inside `index(...)`. -/
inductive IndexMeta where
  | id (value : String)
  | name (value : String)
  | field (value : String)
  | unique
  | unsupported
deriving Repr, DecidableEq

/-- One item of a struct-level `#[csgdb(...)]`. -/
inductive CollectionMeta where
  | collection (value : String)
  | table (value : String)
  | version (value : Nat)
  | crate (value : String)
  | index (metas : List IndexMeta)
  | unsupported
deriving Repr, DecidableEq

/-- One item of a field-level `#[csgdb(...)]`. -/
inductive FieldMeta where
  | id (value : String)
  | column (value : String)
  | primaryKey
  | unsupported
deriving Repr, DecidableEq

structure IndexAttributes where
  id : Option String := none
  name : Option String := none
  fields : List String := []
  unique : Bool := false
deriving Repr, DecidableEq

structure CollectionAttributes where
  id : Option String := none
  table : Option String := none
  version : Option Nat := none
  cratePath : Option String := none
  indexes : List IndexAttributes := []
deriving Repr, DecidableEq

structure FieldAttributes where
  id : Option String := none
  column : Option String := none
  primaryKey : Bool := false
deriving Repr, DecidableEq

/-- A string attribute may be given once. -/
def setOnce (destination : Option String) (value : String) :
    Except String (Option String) :=
  if destination.isSome then
    .error "duplicate csgdb attribute"
  else
    .ok (some value)

def parseIndexMeta (index : IndexAttributes) :
    IndexMeta → Except String IndexAttributes
  | .id value => do
      let id ← setOnce index.id value
      .ok { index with id := id }
  | .name value => do
      let name ← setOnce index.name value
      .ok { index with name := name }
  | .field value => .ok { index with fields := index.fields ++ [value] }
  | .unique =>
      if index.unique then
        .error "duplicate csgdb index unique"
      else
        .ok { index with unique := true }
  | .unsupported => .error "unsupported csgdb index attribute"

def parseCollectionMeta (attributes : CollectionAttributes) :
    CollectionMeta → Except String CollectionAttributes
  | .collection value => do
      let id ← setOnce attributes.id value
      .ok { attributes with id := id }
  | .table value => do
      let table ← setOnce attributes.table value
      .ok { attributes with table := table }
  | .version value =>
      if attributes.version.isSome then
        .error "duplicate csgdb version"
      else
        .ok { attributes with version := some value }
  | .crate value => do
      let cratePath ← setOnce attributes.cratePath value
      .ok { attributes with cratePath := cratePath }
  | .index metas => do
      let index ← metas.foldlM parseIndexMeta {}
      .ok { attributes with indexes := attributes.indexes ++ [index] }
  | .unsupported => .error "unsupported csgdb collection attribute"

def parseCollectionAttributes (metas : List CollectionMeta) :
    Except String CollectionAttributes :=
  metas.foldlM parseCollectionMeta {}

def parseFieldMeta (attributes : FieldAttributes) :
    FieldMeta → Except String FieldAttributes
  | .id value => do
      let id ← setOnce attributes.id value
      .ok { attributes with id := id }
  | .column value => do
      let column ← setOnce attributes.column value
      .ok { attributes with column := column }
  | .primaryKey =>
      if attributes.primaryKey then
        .error "duplicate csgdb primary_key"
      else
        .ok { attributes with primaryKey := true }
  | .unsupported => .error "unsupported csgdb field attribute"

def parseFieldAttributes (metas : List FieldMeta) : Except String FieldAttributes :=
  metas.foldlM parseFieldMeta {}

def requiredString (value : Option String) (name : String) : Except String String :=
  match value with
  | some literal => .ok literal
  | none => .error ("missing csgdb " ++ name)

/-! ## Name checks -/

/-- Every stable name has 1 to 255 non-NUL bytes. -/
def validateStableName (value kind : String) : Except String Unit :=
  if value.isEmpty || decide (value.utf8ByteSize > 255) ||
      value.toList.contains nulChar then
    .error ("csgdb " ++ kind ++ " must contain 1 to 255 non-NUL bytes")
  else
    .ok ()

/-- Physical names are stable names; table names must also avoid the internal
prefix.  Column names are not subject to it. -/
def validateSqlName (value kind : String) : Except String Unit := do
  validateStableName value kind
  if kind == "table" && hasReservedPrefix value then
    .error "table names beginning with __csgdb_ are reserved"
  else
    .ok ()

/-! ## Declarations -/

/-- One named field of the derived struct. -/
structure FieldInput where
  rustName : String
  ty : SynType
  metas : List FieldMeta
deriving Repr, DecidableEq

/-- The shape of the item the macro is applied to. -/
inductive DeriveData where
  | namedStruct (fields : List FieldInput)
  | unnamedStruct
  | notStruct
deriving Repr, DecidableEq

structure DeriveInput where
  hasGenerics : Bool
  metas : List CollectionMeta
  data : DeriveData
deriving Repr, DecidableEq

/-- A field after its attributes were read and its type classified. -/
structure DerivedField where
  rustName : String
  ty : SynType
  id : String
  column : String
  storage : ColumnType
  nullable : Bool
  primaryKey : Bool
deriving Repr, DecidableEq

/-- The persisted part of a derived field: Rust name and Rust type are not. -/
def DerivedField.schema (field : DerivedField) : FieldSchema :=
  { id := field.id
    column := field.column
    columnType := field.storage
    nullable := field.nullable
    primaryKey := field.primaryKey }

/-- The macro's name check is the runtime's. -/
theorem validateStableName_ok_iff {value kind : String} :
    validateStableName value kind = .ok () ↔ validName value = true := by
  rw [validateStableName, Foundation.ite_error_eq_ok_iff]
  simp [validName, and_assoc]

theorem validateSqlName_ok_iff {value kind : String} :
    validateSqlName value kind = .ok () ↔
      validName value = true ∧
        (kind = "table" → hasReservedPrefix value = false) := by
  rw [validateSqlName, Foundation.bind_eq_ok_iff]
  constructor
  · rintro ⟨⟨⟩, stable, unreserved⟩
    rw [Foundation.ite_error_eq_ok_iff] at unreserved
    exact ⟨validateStableName_ok_iff.mp stable, by simpa using unreserved⟩
  · rintro ⟨valid, unreserved⟩
    refine ⟨(), validateStableName_ok_iff.mpr valid, ?_⟩
    rw [Foundation.ite_error_eq_ok_iff]
    exact ⟨by simpa using unreserved, rfl⟩

/-! ## Canonical descriptors -/

/-- The storage-class spelling of the derive, which is also the variant name
of the runtime enumeration. -/
def storageName : ColumnType → String
  | .integer => "Integer"
  | .real => "Real"
  | .text => "Text"
  | .blob => "Blob"

/-- `u8::from(flag)` as it is formatted. -/
def flagDigit (flag : Bool) : String :=
  if flag then "1" else "0"

/-- `len:text`, with the length in UTF-8 bytes. -/
def lengthPrefixed (text : String) : String :=
  text.utf8ByteSize.repr ++ ":" ++ text

/-- One `field:` line of a schema descriptor. -/
def canonicalSchemaField (field : DerivedField) : String :=
  "field:" ++ lengthPrefixed field.id ++ ":" ++ lengthPrefixed field.column ++ ":" ++
    storageName field.storage ++ ":" ++ flagDigit field.nullable ++ ":" ++
    flagDigit field.primaryKey ++ "\n"

/-- The order of `str`: by code points, as by UTF-8 bytes. -/
def idLe (left right : DerivedField) : Bool :=
  decide (left.id ≤ right.id)

/-- The canonical, order-independent descriptor of a collection. -/
def canonicalSchema (collection table : String) (version : UInt32)
    (fields : List DerivedField) : String :=
  "csgdb-schema-v1\ncollection:" ++ lengthPrefixed collection ++
    "\ntable:" ++ lengthPrefixed table ++
    "\nversion:" ++ version.toNat.repr ++ "\n" ++
    String.join ((fields.mergeSort idLe).map canonicalSchemaField)

/-- One `field:` line of an index descriptor. -/
def canonicalIndexField (pair : String × String) : String :=
  "field:" ++ lengthPrefixed pair.1 ++ ":" ++ lengthPrefixed pair.2 ++ "\n"

/-- The canonical descriptor of one index; its field order is significant. -/
def canonicalIndex (collection table id name : String) (unique : Bool)
    (fieldIds columns : List String) : String :=
  "csgdb-index-v1\ncollection:" ++ lengthPrefixed collection ++
    "\ntable:" ++ lengthPrefixed table ++
    "\nindex:" ++ lengthPrefixed id ++
    "\nname:" ++ lengthPrefixed name ++
    "\nunique:" ++ flagDigit unique ++ "\n" ++
    String.join ((fieldIds.zip columns).map canonicalIndexField)

end Csgdb.Derive
