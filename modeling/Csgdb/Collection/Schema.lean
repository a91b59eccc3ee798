/-
Module: Csgdb.Collection.Schema
Purpose: Stable collection metadata and the runtime check that every schema
  passes before it is registered, migrated or queried.
Trusted boundary: none
Main exports: ColumnType, FieldSchema, IndexSchema, CollectionSchema,
  validateCollectionSchema, CollectionSchema.WellFormed,
  validateCollectionSchema_ok_iff
-/
import Csgdb.Core.Basic
import Csgdb.Foundation.Fallible
import Mathlib.Data.List.Count
import Mathlib.Data.List.Nodup
import Mathlib.Tactic.Common

namespace Csgdb

open Foundation

/-- A storage class accepted by a typed collection field. -/
inductive ColumnType where
  | integer
  | real
  | text
  | blob
deriving Repr, DecidableEq, Inhabited

/-- The type name written into DDL. -/
def ColumnType.sqlName : ColumnType → String
  | .integer => "INTEGER"
  | .real => "REAL"
  | .text => "TEXT"
  | .blob => "BLOB"

/-- The storage class of the cells of a column. -/
def ColumnType.valueType : ColumnType → ValueType
  | .integer => .integer
  | .real => .real
  | .text => .text
  | .blob => .blob

/-- Stable metadata for one field in a collection. -/
structure FieldSchema where
  id : String
  column : String
  columnType : ColumnType
  nullable : Bool
  primaryKey : Bool
deriving Repr, DecidableEq, Inhabited

/-- SHA-256 digest of a canonical descriptor. -/
abbrev SchemaFingerprint := Vector UInt8 32

/-- Stable metadata for one declared collection index. -/
structure IndexSchema where
  id : String
  name : String
  columns : List String
  unique : Bool
  fingerprint : SchemaFingerprint
  canonicalDescriptor : String
deriving Repr, DecidableEq

/-- Stable collection metadata generated by the derive. -/
structure CollectionSchema where
  id : String
  table : String
  version : UInt32
  fingerprint : SchemaFingerprint
  fields : List FieldSchema
  canonicalDescriptor : String
  indexes : List IndexSchema
deriving Repr, DecidableEq

/-- The first field marked as primary key. -/
def CollectionSchema.primaryKey (schema : CollectionSchema) : Option FieldSchema :=
  schema.fields.find? FieldSchema.primaryKey

/-- The NUL character, which no persisted name may contain. -/
def nulChar : Char := Char.ofNat 0

/-- A persisted name is nonempty, at most 255 bytes long and NUL-free. -/
def validName (value : String) : Bool :=
  !value.isEmpty && decide (value.utf8ByteSize ≤ 255) &&
    !value.toList.contains nulChar

/-- Names with this prefix belong to the internal registries. -/
def hasReservedPrefix (name : String) : Bool :=
  "__csgdb_".toList.isPrefixOf name.toList

def invalidSchema : Error :=
  { code := .invalidSchema, message := "collection schema metadata is invalid" }

/-- The loop of `validate_collection_schema` over the fields.  It returns the
collected column set, which the index loop consults, and the number of primary
keys, which saturates like the source's `u8`. -/
def validateFields : List FieldSchema → List String → List String → Nat →
    Result (List String × Nat)
  | [], _, columns, primaryKeys => .ok (columns, primaryKeys)
  | field :: rest, ids, columns, primaryKeys =>
      if !validName field.id || !validName field.column ||
          ids.contains field.id || columns.contains field.column then
        .error invalidSchema
      else if field.primaryKey then
        if field.nullable then
          .error invalidSchema
        else
          validateFields rest (field.id :: ids) (field.column :: columns)
            (min (primaryKeys + 1) 255)
      else
        validateFields rest (field.id :: ids) (field.column :: columns) primaryKeys

/-- The inner loop over the columns of one index. -/
def validateIndexColumns (columns : List String) :
    List String → List String → Result Unit
  | [], _ => .ok ()
  | column :: rest, seen =>
      if !columns.contains column || seen.contains column then
        .error invalidSchema
      else
        validateIndexColumns columns rest (column :: seen)

/-- The loop of `validate_collection_schema` over the declared indexes. -/
def validateIndexes (columns : List String) :
    List IndexSchema → List String → List String → Result Unit
  | [], _, _ => .ok ()
  | index :: rest, ids, names =>
      if !validName index.id || !validName index.name ||
          hasReservedPrefix index.name || index.columns.isEmpty ||
          index.canonicalDescriptor.isEmpty ||
          ids.contains index.id || names.contains index.name then
        .error invalidSchema
      else do
        validateIndexColumns columns index.columns []
        validateIndexes columns rest (index.id :: ids) (index.name :: names)

/-- Runtime validation of collection metadata. -/
def validateCollectionSchema (schema : CollectionSchema) : Result Unit :=
  if !validName schema.id || !validName schema.table ||
      hasReservedPrefix schema.table || schema.version == 0 ||
      schema.fields.isEmpty || schema.canonicalDescriptor.isEmpty then
    .error invalidSchema
  else do
    let (columns, primaryKeys) ← validateFields schema.fields [] [] 0
    if primaryKeys != 1 then
      .error invalidSchema
    else
      validateIndexes columns schema.indexes [] []

/-! ## What the check accepts -/

theorem noNul_of_validName {name : String} (valid : validName name = true) :
    Char.ofNat 0 ∉ name.toList := by
  simp only [validName, nulChar, Bool.and_eq_true, Bool.not_eq_true',
    List.contains_eq_mem, decide_eq_false_iff_not] at valid
  exact valid.2


/-- One declared field passes on its own. -/
structure FieldSchema.WellFormed (field : FieldSchema) : Prop where
  id_valid : validName field.id = true
  column_valid : validName field.column = true
  key_required : field.primaryKey = true → field.nullable = false

/-- One declared index passes against the columns of its collection. -/
structure IndexSchema.WellFormed (columns : List String) (index : IndexSchema) :
    Prop where
  id_valid : validName index.id = true
  name_valid : validName index.name = true
  name_unreserved : hasReservedPrefix index.name = false
  columns_ne_nil : index.columns ≠ []
  descriptor_ne_empty : index.canonicalDescriptor.isEmpty = false
  columns_nodup : index.columns.Nodup
  columns_declared : ∀ column ∈ index.columns, column ∈ columns

/-- The declarative reading of `validateCollectionSchema`. -/
structure CollectionSchema.WellFormed (schema : CollectionSchema) : Prop where
  id_valid : validName schema.id = true
  table_valid : validName schema.table = true
  table_unreserved : hasReservedPrefix schema.table = false
  version_ne_zero : schema.version ≠ 0
  descriptor_ne_empty : schema.canonicalDescriptor.isEmpty = false
  field_wellFormed : ∀ field ∈ schema.fields, field.WellFormed
  ids_nodup : (schema.fields.map (·.id)).Nodup
  columns_nodup : (schema.fields.map (·.column)).Nodup
  one_primary_key : schema.fields.countP FieldSchema.primaryKey = 1
  index_wellFormed :
    ∀ index ∈ schema.indexes, index.WellFormed (schema.fields.map (·.column))
  index_ids_nodup : (schema.indexes.map (·.id)).Nodup
  index_names_nodup : (schema.indexes.map (·.name)).Nodup

/-- The index-column loop accepts exactly the declared columns that repeat
neither each other nor a column seen before. -/
theorem validateIndexColumns_ok_iff {columns : List String} :
    ∀ {indexColumns seen : List String},
      validateIndexColumns columns indexColumns seen = .ok () ↔
        indexColumns.Nodup ∧
          (∀ column ∈ indexColumns, column ∈ columns ∧ column ∉ seen)
  | [], seen => by simp [validateIndexColumns]
  | column :: rest, seen => by
      rw [validateIndexColumns, ite_error_eq_ok_iff, validateIndexColumns_ok_iff]
      simp only [List.nodup_cons, List.mem_cons, forall_eq_or_imp]
      constructor
      · rintro ⟨accepted, nodup, restAccepted⟩
        simp only [Bool.or_eq_true, Bool.not_eq_true', List.contains_eq_mem,
          decide_eq_true_eq, decide_eq_false_iff_not, not_or, not_not] at accepted
        refine ⟨⟨fun member => ?_, nodup⟩, accepted, fun other member => ?_⟩
        · exact (restAccepted column member).2 (Or.inl rfl)
        · exact ⟨(restAccepted other member).1,
            fun seenBefore => (restAccepted other member).2 (Or.inr seenBefore)⟩
      · rintro ⟨⟨fresh, nodup⟩, accepted, restAccepted⟩
        refine ⟨by simpa using accepted, nodup, fun other member => ?_⟩
        refine ⟨(restAccepted other member).1, ?_⟩
        rintro (rfl | seenBefore)
        · exact fresh member
        · exact (restAccepted other member).2 seenBefore

/-- The index loop accepts exactly the well-formed indexes with fresh ids and
names. -/
theorem validateIndexes_ok_iff {columns : List String} :
    ∀ {indexes : List IndexSchema} {ids names : List String},
      validateIndexes columns indexes ids names = .ok () ↔
        (∀ index ∈ indexes, index.WellFormed columns) ∧
          (indexes.map (·.id)).Nodup ∧ (indexes.map (·.name)).Nodup ∧
          (∀ index ∈ indexes, index.id ∉ ids ∧ index.name ∉ names)
  | [], ids, names => by simp [validateIndexes]
  | index :: rest, ids, names => by
      rw [validateIndexes, ite_error_eq_ok_iff, bind_eq_ok_iff]
      constructor
      · rintro ⟨accepted, ⟨⟩, columnsAccepted, restAccepted⟩
        obtain ⟨columnsNodup, columnsFresh⟩ :=
          validateIndexColumns_ok_iff.mp columnsAccepted
        obtain ⟨restFormed, idsNodup, namesNodup, restFresh⟩ :=
          validateIndexes_ok_iff.mp restAccepted
        simp only [Bool.or_eq_true, Bool.not_eq_true', List.contains_eq_mem,
          decide_eq_true_eq, List.isEmpty_iff, not_or, Bool.not_eq_false,
          Bool.not_eq_true] at accepted
        obtain ⟨⟨⟨⟨⟨⟨idValid, nameValid⟩, unreserved⟩, columnsNe⟩,
          descriptorNe⟩, idFresh⟩, nameFresh⟩ := accepted
        have formed : index.WellFormed columns :=
          { id_valid := idValid
            name_valid := nameValid
            name_unreserved := unreserved
            columns_ne_nil := columnsNe
            descriptor_ne_empty := descriptorNe
            columns_nodup := columnsNodup
            columns_declared := fun column member => (columnsFresh column member).1 }
        simp only [List.mem_cons, forall_eq_or_imp, List.map_cons, List.nodup_cons,
          List.mem_map, not_exists, not_and]
        refine ⟨⟨formed, restFormed⟩, ⟨fun other member same => ?_, idsNodup⟩,
          ⟨fun other member same => ?_, namesNodup⟩, ⟨idFresh, nameFresh⟩,
          fun other member => ?_⟩
        · exact (restFresh other member).1 (by simp [same])
        · exact (restFresh other member).2 (by simp [same])
        · have fresh := restFresh other member
          simp only [List.mem_cons, not_or] at fresh
          exact ⟨fresh.1.2, fresh.2.2⟩
      · simp only [List.mem_cons, forall_eq_or_imp, List.map_cons, List.nodup_cons,
          List.mem_map, not_exists, not_and]
        rintro ⟨⟨formed, restFormed⟩, ⟨idNew, idsNodup⟩, ⟨nameNew, namesNodup⟩,
          ⟨idFresh, nameFresh⟩, restFresh⟩
        refine ⟨?_, (), validateIndexColumns_ok_iff.mpr ⟨formed.columns_nodup,
          fun column member => ⟨formed.columns_declared column member, by simp⟩⟩,
          validateIndexes_ok_iff.mpr ⟨restFormed, idsNodup, namesNodup,
            fun other member => ?_⟩⟩
        · simp [formed.id_valid, formed.name_valid, formed.name_unreserved,
            formed.columns_ne_nil, formed.descriptor_ne_empty, idFresh, nameFresh]
        · simp only [List.mem_cons, not_or]
          exact ⟨⟨fun same => idNew other member same, (restFresh other member).1⟩,
            ⟨fun same => nameNew other member same, (restFresh other member).2⟩⟩

/-- One turn of the field loop, with the primary-key condition left abstract:
the loop checks the head against what was seen before and the tail against the
head as well. -/
private theorem validateFields_cons_iff {field : FieldSchema}
    {rest : List FieldSchema} {ids columns collected : List String}
    {counted expected : Nat} {keyCondition : Prop}
    (needed : field.WellFormed → keyCondition)
    (enough : keyCondition → field.primaryKey = true → field.nullable = false) :
    (¬ (!validName field.id || !validName field.column ||
        ids.contains field.id || columns.contains field.column) = true ∧
      keyCondition ∧
      (∀ other ∈ rest, other.WellFormed) ∧
        (rest.map (·.id)).Nodup ∧ (rest.map (·.column)).Nodup ∧
        (∀ other ∈ rest, other.id ∉ field.id :: ids ∧
          other.column ∉ field.column :: columns) ∧
        collected = (rest.map (·.column)).reverse ++ field.column :: columns ∧
        counted = expected) ↔
      (∀ other ∈ field :: rest, other.WellFormed) ∧
        ((field :: rest).map (·.id)).Nodup ∧
        ((field :: rest).map (·.column)).Nodup ∧
        (∀ other ∈ field :: rest, other.id ∉ ids ∧ other.column ∉ columns) ∧
        collected = ((field :: rest).map (·.column)).reverse ++ columns ∧
        counted = expected := by
  simp only [List.mem_cons, forall_eq_or_imp, List.map_cons, List.nodup_cons,
    List.mem_map, not_exists, not_and, not_or, List.reverse_cons,
    List.append_assoc, List.singleton_append]
  constructor
  · rintro ⟨accepted, key, formed, idsNodup, columnsNodup, fresh, rfl, rfl⟩
    simp only [Bool.or_eq_true, Bool.not_eq_true', List.contains_eq_mem,
      decide_eq_true_eq, not_or, Bool.not_eq_false] at accepted
    obtain ⟨⟨⟨idValid, columnValid⟩, idFresh⟩, columnFresh⟩ := accepted
    exact ⟨⟨⟨idValid, columnValid, enough key⟩, formed⟩,
      ⟨fun other member same => (fresh other member).1.1 same, idsNodup⟩,
      ⟨fun other member same => (fresh other member).2.1 same, columnsNodup⟩,
      ⟨⟨idFresh, columnFresh⟩,
        fun other member => ⟨(fresh other member).1.2, (fresh other member).2.2⟩⟩,
      rfl, rfl⟩
  · rintro ⟨⟨fieldFormed, formed⟩, ⟨idNew, idsNodup⟩, ⟨columnNew, columnsNodup⟩,
      ⟨⟨idFresh, columnFresh⟩, fresh⟩, rfl, rfl⟩
    refine ⟨?_, needed fieldFormed, formed, idsNodup, columnsNodup,
      fun other member => ?_, rfl, rfl⟩
    · simp [fieldFormed.id_valid, fieldFormed.column_valid, idFresh, columnFresh]
    · exact ⟨⟨idNew other member, (fresh other member).1⟩,
        ⟨columnNew other member, (fresh other member).2⟩⟩

/-- The field loop accepts exactly the well-formed fields with fresh ids and
columns; it hands the columns on and counts the primary keys. -/
theorem validateFields_ok_iff :
    ∀ {fields : List FieldSchema} {ids columns collected : List String}
      {primaryKeys counted : Nat}, primaryKeys ≤ 255 →
      (validateFields fields ids columns primaryKeys = .ok (collected, counted) ↔
        (∀ field ∈ fields, field.WellFormed) ∧
          (fields.map (·.id)).Nodup ∧ (fields.map (·.column)).Nodup ∧
          (∀ field ∈ fields, field.id ∉ ids ∧ field.column ∉ columns) ∧
          collected = (fields.map (·.column)).reverse ++ columns ∧
          counted = min (primaryKeys + fields.countP FieldSchema.primaryKey) 255)
  | [], ids, columns, collected, primaryKeys, counted, bound => by
      simp only [validateFields, Except.ok.injEq, Prod.mk.injEq, List.not_mem_nil,
        false_implies, implies_true, List.map_nil, List.nodup_nil, List.reverse_nil,
        List.nil_append, List.countP_nil, Nat.add_zero, true_and,
        Nat.min_eq_left bound, eq_comm]
  | field :: rest, ids, columns, collected, primaryKeys, counted, bound => by
      by_cases isKey : field.primaryKey = true
      · rw [validateFields, ite_error_eq_ok_iff, if_pos isKey, ite_error_eq_ok_iff,
          validateFields_ok_iff (Nat.min_le_right _ _)]
        have counting :
            min (min (primaryKeys + 1) 255 + rest.countP FieldSchema.primaryKey) 255 =
              min (primaryKeys + (field :: rest).countP FieldSchema.primaryKey) 255 := by
          rw [List.countP_cons_of_pos isKey]
          omega
        rw [counting]
        exact validateFields_cons_iff (fun formed => by simp [formed.key_required isKey])
          (fun required _ => by simpa using required)
      · rw [validateFields, ite_error_eq_ok_iff, if_neg isKey,
          validateFields_ok_iff bound, List.countP_cons_of_neg isKey]
        have trivially := @validateFields_cons_iff field rest ids columns collected
          counted (min (primaryKeys + rest.countP FieldSchema.primaryKey) 255) True
          (fun _ => trivial) (fun _ key => absurd key isKey)
        simpa only [true_and] using trivially

/-- `validateCollectionSchema` accepts exactly the well-formed schemas. -/
theorem validateCollectionSchema_ok_iff {schema : CollectionSchema} :
    validateCollectionSchema schema = .ok () ↔ schema.WellFormed := by
  rw [validateCollectionSchema, ite_error_eq_ok_iff, bind_eq_ok_iff]
  constructor
  · rintro ⟨accepted, ⟨collected, counted⟩, fieldsAccepted, restAccepted⟩
    rw [validateFields_ok_iff (Nat.zero_le _)] at fieldsAccepted
    obtain ⟨formed, idsNodup, columnsNodup, -, rfl, rfl⟩ := fieldsAccepted
    obtain ⟨oneKey, indexesAccepted⟩ := ite_error_eq_ok_iff.mp restAccepted
    obtain ⟨indexFormed, indexIdsNodup, indexNamesNodup, -⟩ :=
      validateIndexes_ok_iff.mp indexesAccepted
    simp only [Bool.or_eq_true, Bool.not_eq_true', beq_iff_eq, List.isEmpty_iff,
      not_or, Bool.not_eq_false, Bool.not_eq_true] at accepted
    obtain ⟨⟨⟨⟨⟨idValid, tableValid⟩, unreserved⟩, versionNe⟩, -⟩, descriptorNe⟩ :=
      accepted
    exact
      { id_valid := idValid
        table_valid := tableValid
        table_unreserved := unreserved
        version_ne_zero := versionNe
        descriptor_ne_empty := descriptorNe
        field_wellFormed := formed
        ids_nodup := idsNodup
        columns_nodup := columnsNodup
        one_primary_key := by
          simp only [Nat.zero_add, bne_iff_ne, ne_eq, not_not] at oneKey
          omega
        index_wellFormed := fun index member =>
          { indexFormed index member with
            columns_declared := fun column inIndex => by
              simpa using (indexFormed index member).columns_declared column inIndex }
        index_ids_nodup := indexIdsNodup
        index_names_nodup := indexNamesNodup }
  · intro formed
    have fieldsNe : schema.fields ≠ [] := by
      intro empty
      have counted := formed.one_primary_key
      simp [empty] at counted
    refine ⟨?_, ((schema.fields.map (·.column)).reverse ++ [], 1), ?_, ?_⟩
    · simp [formed.id_valid, formed.table_valid, formed.table_unreserved,
        formed.version_ne_zero, fieldsNe, formed.descriptor_ne_empty]
    · rw [validateFields_ok_iff (Nat.zero_le _)]
      exact ⟨formed.field_wellFormed, formed.ids_nodup, formed.columns_nodup,
        by simp, rfl, by simp [formed.one_primary_key]⟩
    · rw [ite_error_eq_ok_iff]
      refine ⟨by simp, validateIndexes_ok_iff.mpr ⟨fun index member => ?_,
        formed.index_ids_nodup, formed.index_names_nodup, by simp⟩⟩
      exact
        { formed.index_wellFormed index member with
          columns_declared := fun column inIndex => by
            simpa using
              (formed.index_wellFormed index member).columns_declared column inIndex }

end Csgdb
