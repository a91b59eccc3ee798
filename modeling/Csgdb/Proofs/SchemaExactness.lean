/-
Module: Csgdb.Proofs.SchemaExactness
Purpose: The checks of the physical table and of the index registry accept exactly the
  shown columns and the rows that are declared, in whatever order they are listed; the
  generated columns of a table go unnoticed.
Trusted boundary: none
Main exports: ColumnShape, validatePhysicalColumn_iff, validatePhysicalTable_exact,
  validateRegisteredIndexes_eq_loop, validateRegisteredIndexes_exact,
  SchemaValidationExact, schema_validation_exact_iff, generated_column_unnoticed
-/
import Csgdb.Foundation.Utf8Order
import Csgdb.Proofs.Registration
import Mathlib.Data.Finset.Dedup

namespace Csgdb.Registry

open Derive Storage Foundation

variable {Data : Type} {database changed : Database Data} {schema : CollectionSchema}

/-! ## Distinct lists -/

/-- Of two lists without duplicates one includes the other and is as long exactly when
they have the same elements. -/
theorem length_and_subset_iff {α : Type} [DecidableEq α] {listed declared : List α}
    (listedOnce : listed.Nodup) (declaredOnce : declared.Nodup) :
    (listed.length = declared.length ∧ ∀ value ∈ declared, value ∈ listed) ↔
      listed.toFinset = declared.toFinset := by
  constructor
  · rintro ⟨sameLength, includes⟩
    have within := List.subperm_of_subset declaredOnce includes
    exact List.toFinset_eq_of_perm _ _
      (within.perm_of_length_le (Nat.le_of_eq sameLength)).symm
  · intro same
    have perm := List.perm_of_nodup_nodup_toFinset_eq listedOnce declaredOnce same
    exact ⟨perm.length_eq, fun value => perm.mem_iff.mpr⟩

/-! ## Physical columns -/

/-- What the check compares of a column: the case of its type does not matter. -/
structure ColumnShape where
  name : String
  foldedType : List Char
  notNull : Bool
  primaryKey : Bool
deriving Repr, DecidableEq

def columnShape (column : TableColumn) : ColumnShape where
  name := column.name
  foldedType := foldName column.declaredType
  notNull := column.notNull
  primaryKey := column.primaryKey

def fieldShape (field : FieldSchema) : ColumnShape where
  name := field.column
  foldedType := foldName field.columnType.sqlName
  notNull := !field.nullable
  primaryKey := field.primaryKey

/-- A declared field passes exactly when a column has its shape. -/
theorem validatePhysicalColumn_iff {actual : List TableColumn} {field : FieldSchema}
    (distinct : (actual.map TableColumn.name).Nodup) :
    validatePhysicalColumn actual field = true ↔
      fieldShape field ∈ actual.map columnShape := by
  unfold validatePhysicalColumn
  constructor
  · intro passes
    cases found : actual.find? fun column => column.name = field.column with
    | none =>
        rw [found] at passes
        cases passes
    | some column =>
        rw [found] at passes
        have sameName : column.name = field.column := by simpa using List.find?_some found
        simp only [eqIgnoreAsciiCase, Bool.and_eq_true, beq_iff_eq] at passes
        obtain ⟨⟨sameType, sameNull⟩, sameKey⟩ := passes
        apply List.mem_map.mpr
        exists column
        refine ⟨List.mem_of_find?_eq_some found, ?_⟩
        unfold columnShape fieldShape
        rw [sameName, sameType, sameNull, sameKey]
  · intro listed
    obtain ⟨column, member, same⟩ := List.mem_map.mp listed
    obtain ⟨sameName, sameType, sameNull, sameKey⟩ := ColumnShape.mk.inj same
    have found := find?_of_nodup_map distinct member
    rw [sameName] at found
    rw [found]
    simp only [eqIgnoreAsciiCase, sameType, sameNull, sameKey, beq_self_eq_true,
      Bool.and_self]

theorem columnShapes_nodup {actual : List TableColumn}
    (distinct : (actual.map TableColumn.name).Nodup) : (actual.map columnShape).Nodup := by
  apply List.Nodup.of_map ColumnShape.name
  rw [List.map_map]
  exact distinct

theorem fieldShapes_nodup (formed : schema.WellFormed) :
    (schema.fields.map fieldShape).Nodup := by
  apply List.Nodup.of_map ColumnShape.name
  rw [List.map_map]
  exact formed.columns_nodup

/-- The columns of a table, generated and hidden ones included. -/
def physicalColumns (database : Database Data) (name : String) : List TableColumn :=
  ((database.catalog.findTable name).map PhysicalTable.columns).getD []

theorem tableInfo_eq_filter (database : Database Data) (name : String) :
    tableInfo database name =
      (physicalColumns database name).filter fun column => !column.hidden := by
  unfold tableInfo physicalColumns
  cases database.catalog.findTable name with
  | none => rfl
  | some table => rfl

theorem tableInfo_names_nodup {name : String}
    (distinct : ((physicalColumns database name).map TableColumn.name).Nodup) :
    ((tableInfo database name).map TableColumn.name).Nodup := by
  rw [tableInfo_eq_filter]
  exact distinct.sublist (List.filter_sublist.map TableColumn.name)

/-- The length and a column for every field leave no room for another column that the
table shows. -/
theorem validatePhysicalTable_exact (formed : schema.WellFormed)
    (distinct : ((tableInfo database schema.table).map TableColumn.name).Nodup) :
    validatePhysicalTable schema database = .ok () ↔
      ((tableInfo database schema.table).map columnShape).toFinset =
        (schema.fields.map fieldShape).toFinset := by
  rw [← length_and_subset_iff (columnShapes_nodup distinct) (fieldShapes_nodup formed),
    List.length_map, List.length_map, List.forall_mem_map]
  unfold validatePhysicalTable
  simp only [← validatePhysicalColumn_iff distinct, ite_error_eq_ok_iff, bne_iff_ne, ne_eq,
    not_not, List.all_eq_true]
  constructor
  · rintro ⟨sameLength, ok⟩
    refine ⟨sameLength, ?_⟩
    split at ok
    case isTrue passes => exact passes
    case isFalse => cases ok
  · rintro ⟨sameLength, passes⟩
    exact ⟨sameLength, if_pos passes⟩

/-! ## Registered indexes -/

/-- How the engine's `ORDER BY` and `str` compare texts: by their bytes. -/
def bytesLe (left right : String) : Bool :=
  !decide (utf8Bytes right.toList < utf8Bytes left.toList)

theorem bytesLe_eq (left right : String) : bytesLe left right = decide (left ≤ right) := by
  unfold bytesLe
  rw [← decide_not, decide_eq_decide]
  exact string_le_iff.symm

/-- The loop over the rows and the declared indexes: it ends with the shorter list. -/
def rowsMatch : List IndexRow → List IndexSchema → Bool
  | actual :: rest, expected :: others =>
      if actual.indexId ≠ expected.id || actual.indexName ≠ expected.name ||
          actual.unique ≠ expected.unique || actual.fingerprint ≠ expected.fingerprint ||
          actual.descriptor ≠ expected.canonicalDescriptor then false
      else rowsMatch rest others
  | _, _ => true

theorem rowsMatch_iff : ∀ {rows : List IndexRow} {expected : List IndexSchema},
    (∀ row ∈ rows, row.collectionId = schema.id) →
      (rows.length = expected.length ∧ rowsMatch rows expected = true ↔
        rows = expected.map (indexRow schema))
  | [], [], _ => by simp [rowsMatch]
  | [], _ :: _, _ => by simp
  | _ :: _, [], _ => by simp
  | row :: rest, index :: others, owned => by
      have further := @rowsMatch_iff rest others fun other member =>
        owned other (List.mem_cons_of_mem row member)
      have own := owned row List.mem_cons_self
      have same : row = indexRow schema index ↔ row.indexId = index.id ∧
          row.indexName = index.name ∧ row.unique = index.unique ∧
          row.fingerprint = index.fingerprint ∧
          row.descriptor = index.canonicalDescriptor := by
        cases row
        simp only at own
        simp [indexRow, own]
      have differs : (row.indexId ≠ index.id || row.indexName ≠ index.name ||
          row.unique ≠ index.unique || row.fingerprint ≠ index.fingerprint ||
          row.descriptor ≠ index.canonicalDescriptor) = !decide (row = indexRow schema index) := by
        simp only [same, Bool.decide_and, Bool.not_and, decide_not, Bool.or_assoc]
      rw [List.map_cons, List.cons.injEq, ← further, rowsMatch, differs, List.length_cons,
        List.length_cons, Nat.add_right_cancel_iff]
      by_cases equal : row = indexRow schema index
      · simp [equal]
      · simp [equal]

/-- The declared indexes in the order of their ids. -/
def sortedIndexes (schema : CollectionSchema) : List IndexSchema :=
  schema.indexes.mergeSort fun left right => bytesLe left.id right.id

theorem expectedIndexRows_eq (schema : CollectionSchema) :
    expectedIndexRows schema = (sortedIndexes schema).map (indexRow schema) := by
  unfold expectedIndexRows sortedIndexes
  refine (List.map_mergeSort ?_).symm
  intro left _ right _
  exact bytesLe_eq left.id right.id

/-- The check compares the lengths, and then row by row. -/
theorem validateRegisteredIndexes_eq_loop (schema : CollectionSchema)
    (database : Database Data) :
    validateRegisteredIndexes schema database = (do
      let actual ← registeredIndexes database schema.id
      if actual.length ≠ (sortedIndexes schema).length then .error schemaMismatch
      else if rowsMatch actual (sortedIndexes schema) then .ok ()
      else .error schemaMismatch) := by
  unfold validateRegisteredIndexes
  cases read : registeredIndexes database schema.id with
  | error failure => rfl
  | ok actual =>
      have owned : ∀ row ∈ actual, row.collectionId = schema.id := by
        unfold registeredIndexes at read
        dsimp only at read
        split at read
        case isTrue =>
          obtain rfl := Except.ok.inj read
          intro row member
          have inRows := (List.mergeSort_perm _ indexRowLe).mem_iff.mp member
          exact of_decide_eq_true (List.mem_filter.mp inRows).2
        case isFalse => cases read
      have matching := @rowsMatch_iff schema actual (sortedIndexes schema) owned
      rw [ok_bind, ok_bind, expectedIndexRows_eq]
      by_cases sameLength : actual.length = (sortedIndexes schema).length
      · rw [if_neg (not_not_intro sameLength)]
        apply if_congr _ rfl rfl
        rw [← matching]
        exact and_iff_right sameLength
      · rw [if_pos sameLength, if_neg]
        exact fun same => sameLength (matching.mpr same).1

/-- The rows of a collection in the registry. -/
def collectionRows (database : Database Data) (collectionId : String) : List IndexRow :=
  database.registry.indexes.filter fun row => row.collectionId = collectionId

theorem collectionRows_ids_nodup (database : Database Data) (collectionId : String) :
    ((collectionRows database collectionId).map IndexRow.indexId).Nodup := by
  have keys := (database.registry.indexKeys_nodup.sublist
    (List.filter_sublist.map _) : ((collectionRows database collectionId).map fun row =>
      (row.collectionId, row.indexId)).Nodup)
  rw [List.nodup_iff_pairwise_ne, List.pairwise_map] at keys ⊢
  apply keys.imp_of_mem
  intro one other oneMember otherMember differ same
  have owner := of_decide_eq_true (List.mem_filter.mp oneMember).2
  have otherOwner := of_decide_eq_true (List.mem_filter.mp otherMember).2
  exact differ (Prod.ext (owner.trans otherOwner.symm) same)

/-- Both lists are sorted alike, so that equal sets of rows meet row by row. -/
theorem validateRegisteredIndexes_exact (formed : schema.WellFormed) :
    validateRegisteredIndexes schema database = .ok () ↔
      (collectionRows database schema.id).toFinset =
        (schema.indexes.map (indexRow schema)).toFinset := by
  have rowsOnce := List.Nodup.of_map _ (collectionRows_ids_nodup database schema.id)
  have declaredOnce := List.Nodup.of_map _ (indexRow_ids_nodup formed)
  apply (validateRegisteredIndexes_ok_iff formed).trans
  constructor
  · apply List.toFinset_eq_of_perm
  · apply List.perm_of_nodup_nodup_toFinset_eq rowsOnce declaredOnce

/-! ## Order -/

/-- Two schemas, each with a database, that list the same fields and the same physical
columns in their own orders. -/
structure SameColumns (schema other : CollectionSchema) (database changed : Database Data) :
    Prop where
  table : other.table = schema.table
  fields : other.fields.Perm schema.fields
  columns : (physicalColumns changed schema.table).Perm
    (physicalColumns database schema.table)

/-- The same for the indexes and the rows of their registry. -/
structure SameRows (schema other : CollectionSchema) (database changed : Database Data) :
    Prop where
  id : other.id = schema.id
  indexes : other.indexes.Perm schema.indexes
  rows : changed.registry.indexes.Perm database.registry.indexes

theorem SameColumns.validatePhysicalTable_eq {other : CollectionSchema}
    (same : SameColumns schema other database changed)
    (allDistinct : ((physicalColumns database schema.table).map TableColumn.name).Nodup) :
    validatePhysicalTable other changed = validatePhysicalTable schema database := by
  have sameShown : (tableInfo changed schema.table).Perm
      (tableInfo database schema.table) := by
    rw [tableInfo_eq_filter, tableInfo_eq_filter]
    exact same.columns.filter _
  have distinct := tableInfo_names_nodup allDistinct
  have changedDistinct := (sameShown.map TableColumn.name).nodup_iff.mpr distinct
  have passes : other.fields.all (validatePhysicalColumn (tableInfo changed schema.table)) =
      schema.fields.all (validatePhysicalColumn (tableInfo database schema.table)) := by
    rw [same.fields.all_eq]
    apply List.all_congr rfl
    intro field
    rw [Bool.eq_iff_iff, validatePhysicalColumn_iff changedDistinct,
      validatePhysicalColumn_iff distinct]
    exact (sameShown.map columnShape).mem_iff
  unfold validatePhysicalTable
  rw [same.table]
  dsimp only
  rw [passes, sameShown.length_eq, same.fields.length_eq]

theorem SameRows.validateRegisteredIndexes_eq {other : CollectionSchema}
    (same : SameRows schema other database changed) (formed : schema.WellFormed) :
    validateRegisteredIndexes other changed = validateRegisteredIndexes schema database := by
  have sameRow : indexRow other = indexRow schema := by
    funext index
    unfold indexRow
    rw [same.id]
  have sameRows : (collectionRows changed schema.id).mergeSort indexRowLe =
      (collectionRows database schema.id).mergeSort indexRowLe :=
    mergeSort_indexRows_eq (same.rows.filter _) (collectionRows_ids_nodup database schema.id)
  have sameExpected : expectedIndexRows other = expectedIndexRows schema := by
    unfold expectedIndexRows
    rw [sameRow]
    exact mergeSort_indexRows_eq (same.indexes.map _) (indexRow_ids_nodup formed)
  unfold validateRegisteredIndexes registeredIndexes
  rw [same.id, sameExpected]
  unfold collectionRows at sameRows
  rw [sameRows]

/-! ## Generated and hidden columns -/

/-- Shapes of columns, as a set. -/
def columnShapes (columns : List TableColumn) : Finset ColumnShape :=
  (columns.map columnShape).toFinset

/-- Shapes of the declared fields. -/
def fieldShapes (schema : CollectionSchema) : Finset ColumnShape :=
  (schema.fields.map fieldShape).toFinset

/-- A table shows all its columns exactly when none is hidden. -/
theorem columnShapes_tableInfo_eq_iff {name : String}
    (distinct : ((physicalColumns database name).map TableColumn.name).Nodup) :
    columnShapes (tableInfo database name) = columnShapes (physicalColumns database name) ↔
      ∀ column ∈ physicalColumns database name, column.hidden = false := by
  rw [tableInfo_eq_filter]
  constructor
  · intro same column member
    have listed : columnShape column ∈
        columnShapes ((physicalColumns database name).filter fun column => !column.hidden) := by
      rw [same]
      exact List.mem_toFinset.mpr (List.mem_map_of_mem member)
    obtain ⟨other, inFilter, sameShape⟩ := List.mem_map.mp (List.mem_toFinset.mp listed)
    obtain ⟨otherMember, shown⟩ := List.mem_filter.mp inFilter
    have sameColumn : other = column :=
      List.inj_on_of_nodup_map distinct otherMember member
        (congrArg ColumnShape.name sameShape)
    simpa [sameColumn] using shown
  · intro noneHidden
    rw [List.filter_eq_self.mpr]
    intro column member
    rw [noneHidden column member]
    rfl

/-! ## Exactness -/

/-- Both checks accept exactly what is declared, and are blind to every order of
listing. -/
structure SchemaValidationExact (schema : CollectionSchema) (database : Database Data) :
    Prop where
  physical : validatePhysicalTable schema database = .ok () ↔
    columnShapes (physicalColumns database schema.table) = fieldShapes schema
  physicalOrder : ∀ (other : CollectionSchema) (changed : Database Data),
    SameColumns schema other database changed →
      validatePhysicalTable other changed = validatePhysicalTable schema database
  registered : validateRegisteredIndexes schema database = .ok () ↔
    (collectionRows database schema.id).toFinset =
      (schema.indexes.map (indexRow schema)).toFinset
  registeredOrder : ∀ (other : CollectionSchema) (changed : Database Data),
    SameRows schema other database changed →
      validateRegisteredIndexes other changed = validateRegisteredIndexes schema database

/-- The declared fields are neither the columns that the table shows nor all of its
columns. -/
def FitsNeither (schema : CollectionSchema) (database : Database Data) : Prop :=
  columnShapes (tableInfo database schema.table) ≠ fieldShapes schema ∧
    columnShapes (physicalColumns database schema.table) ≠ fieldShapes schema

/-- The checks are exact just where the table has no generated or hidden column, or
differs from the declared fields with these columns and without them. -/
theorem schema_validation_exact_iff (accepted : validateCollectionSchema schema = .ok ())
    (database : Database Data)
    (distinct : ((physicalColumns database schema.table).map TableColumn.name).Nodup) :
    SchemaValidationExact schema database ↔
      (∀ column ∈ physicalColumns database schema.table, column.hidden = false) ∨
        FitsNeither schema database := by
  have formed := validateCollectionSchema_ok_iff.mp accepted
  have shown : validatePhysicalTable schema database = .ok () ↔
      columnShapes (tableInfo database schema.table) = fieldShapes schema :=
    validatePhysicalTable_exact formed (tableInfo_names_nodup distinct)
  rw [← columnShapes_tableInfo_eq_iff distinct]
  constructor
  · intro exactness
    have agree := shown.symm.trans exactness.physical
    by_cases fits : columnShapes (tableInfo database schema.table) = fieldShapes schema
    · exact .inl (fits.trans (agree.mp fits).symm)
    · exact .inr ⟨fits, fun allFit => fits (agree.mpr allFit)⟩
  · intro condition
    have physical : validatePhysicalTable schema database = .ok () ↔
        columnShapes (physicalColumns database schema.table) = fieldShapes schema := by
      rw [shown]
      rcases condition with same | ⟨shownDiffers, allDiffer⟩
      · rw [same]
      · exact iff_of_false shownDiffers allDiffer
    exact
      { physical := physical
        physicalOrder := fun other changed same => same.validatePhysicalTable_eq distinct
        registered := validateRegisteredIndexes_exact formed
        registeredOrder := fun other changed same =>
          same.validateRegisteredIndexes_eq formed }

def byNote : IndexSchema where
  id := "by_note"
  name := "tasks_by_note"
  columns := ["note"]
  unique := false
  fingerprint := Vector.replicate 32 1
  canonicalDescriptor := "index"

def taskSchema : CollectionSchema where
  id := "tasks"
  table := "tasks"
  version := 1
  fingerprint := Vector.replicate 32 0
  fields :=
    [{ id := "id", column := "id", columnType := .integer, nullable := false,
       primaryKey := true },
     { id := "note", column := "note", columnType := .text, nullable := true,
       primaryKey := false }]
  canonicalDescriptor := "descriptor"
  indexes := [byNote]

/-- A database with one registered table. -/
def taskDatabase (columns : List TableColumn) : Database Unit where
  catalog :=
    { tables := [{ name := "tasks", columns := columns }]
      indexes := []
      tables_nodup := List.nodup_singleton _
      indexes_nodup := List.nodup_nil }
  registry :=
    { schemas := [schemaRow taskSchema]
      indexes := [indexRow taskSchema byNote]
      migrations := []
      collectionIds_nodup := List.nodup_singleton _
      tableNames_nodup := List.nodup_singleton _
      indexKeys_nodup := List.nodup_singleton _
      indexNames_nodup := List.nodup_singleton _
      indexes_owned := by decide
      migrationKeys_nodup := List.nodup_nil
      migrations_owned := nofun
      versions_positive := by decide
      migrations_increase := nofun }
  data := ()

/-- The columns stand in another order, and one type is in lower case. -/
def taskColumns : List TableColumn :=
  [{ name := "note", declaredType := "text", notNull := false, primaryKey := false,
     collation := "BINARY", hidden := false },
   { name := "id", declaredType := "INTEGER", notNull := true, primaryKey := true,
     collation := "BINARY", hidden := false }]

/-- `"size" INTEGER GENERATED ALWAYS AS (length("note")) STORED`. -/
def sizeColumn : TableColumn where
  name := "size"
  declaredType := "INTEGER"
  notNull := false
  primaryKey := false
  collation := "BINARY"
  hidden := true

/-- A table with a generated column that nobody declared is accepted. -/
theorem generated_column_unnoticed :
    validateCollectionSchema taskSchema = .ok () ∧
      ((physicalColumns (taskDatabase (taskColumns ++ [sizeColumn]))
        taskSchema.table).map TableColumn.name).Nodup ∧
      validatePhysicalTable taskSchema (taskDatabase (taskColumns ++ [sizeColumn])) =
        .ok () ∧
      ¬ SchemaValidationExact taskSchema (taskDatabase (taskColumns ++ [sizeColumn])) := by
  have passes : validatePhysicalTable taskSchema
      (taskDatabase (taskColumns ++ [sizeColumn])) = .ok () := rfl
  refine ⟨rfl, by decide, passes, fun exactness => ?_⟩
  have same := exactness.physical.mp passes
  exact absurd same (by decide)

theorem schema_validation_exact_tasks :
    SchemaValidationExact taskSchema (taskDatabase taskColumns) ∧
      validatePhysicalTable taskSchema (taskDatabase taskColumns) = .ok () ∧
      validateRegisteredIndexes taskSchema (taskDatabase taskColumns) = .ok () := by
  have exactness := (schema_validation_exact_iff
    (rfl : validateCollectionSchema taskSchema = .ok ()) (taskDatabase taskColumns)
    (by decide)).mpr (.inl (by decide))
  exact ⟨exactness, exactness.physical.mpr (by decide), exactness.registered.mpr (by decide)⟩

end Csgdb.Registry
