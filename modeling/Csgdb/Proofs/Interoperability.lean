/-
Module: Csgdb.Proofs.Interoperability
Purpose: Two derived types with the same descriptors are one format: the database
  takes either for the other, each reads what the other wrote, and queries over the
  field constants of either select the same rows.
Trusted boundary: none
Main exports: registerBody_registers, cellOf, Crud.ReadsWritesOf, SelectSameRows,
  same_descriptors_interoperate
-/
import Csgdb.Proofs.BoundedQueries
import Csgdb.Proofs.CrudLaws
import Csgdb.Proofs.RegistryRuns

namespace Csgdb

open Derive Foundation

/-! ## Registration -/

namespace Registry

open Storage

variable {Data : Type} {engine : Engine Data} {database changed : Database Data}
variable {host : MacroHost} {derived : DerivedCollection}

theorem findRegisteredSchema_ok_some {collectionId : String} {row : SchemaRow}
    (found : findRegisteredSchema database collectionId = .ok (some row)) :
    row ∈ database.registry.schemas := by
  unfold findRegisteredSchema at found
  split at found
  case h_1 => cases found
  case h_2 other search =>
    obtain ⟨-, same⟩ := ite_error_eq_ok_iff.mp found
    obtain rfl := Option.some.inj (Except.ok.inj same)
    exact List.mem_of_find?_eq_some search

/-- A collection without a row in the schema registry has none for its indexes. -/
theorem filter_indexes_of_unknown {collectionId : String}
    (unknown : ∀ row ∈ database.registry.schemas, row.collectionId ≠ collectionId) :
    (database.registry.indexes.filter fun row => row.collectionId = collectionId) = [] := by
  apply List.filter_eq_nil_iff.mpr
  intro row member same
  exact database.registry.indexes_foreign unknown row member (by simpa using same)

/-- The registries hold the rows of a collection and both physical checks pass. -/
theorem Registered.of_checks {schema : CollectionSchema} (formed : schema.WellFormed)
    (registries : ∀ name ∈ internalTables, (database.catalog.findTable name).isSome)
    (row : schemaRow schema ∈ database.registry.schemas)
    (rows : (database.registry.indexes.filter fun row =>
      row.collectionId = schema.id).Perm (schema.indexes.map (indexRow schema)))
    (tableOk : validatePhysicalTable schema database = .ok ())
    (indexesOk : validatePhysicalIndexes schema database = .ok ()) :
    Registered schema database where
  registries := registries
  schema_row := row
  index_rows := rows
  table_fits := (validatePhysicalTable_ok_iff (fields_ne_nil_of_wellFormed formed)).mp tableOk
  indexes_present := validatePhysicalIndexes_ok_iff.mp indexesOk

/-- A registration that succeeds, whether it created the collection or found it,
leaves it registered. -/
theorem registerBody_registers {registration : SchemaRegistration}
    (formed : derived.WellFormed host)
    (ran : registerBody engine derived database = .ok (registration, changed)) :
    Registered derived.schema changed := by
  have schemaFormed := formed.schema_wellFormed
  unfold registerBody at ran
  simp only [ok_bind] at ran
  obtain ⟨initialized, initializedOk, ran⟩ := bind_eq_ok_iff.mp ran
  have registries := (initializeSchemaRegistries_effect initializedOk).present
  obtain ⟨existing, existingOk, ran⟩ := bind_eq_ok_iff.mp ran
  cases existing with
  | some row =>
      obtain ⟨⟨⟩, matchOk, ran⟩ := bind_eq_ok_iff.mp ran
      obtain ⟨⟨⟩, rowsOk, ran⟩ := bind_eq_ok_iff.mp ran
      obtain ⟨⟨⟩, tableOk, ran⟩ := bind_eq_ok_iff.mp ran
      obtain ⟨⟨⟩, physicalOk, same⟩ := bind_eq_ok_iff.mp ran
      obtain rfl := (Prod.mk.inj (Except.ok.inj same)).2
      apply Registered.of_checks schemaFormed registries ?_ ?_ tableOk physicalOk
      · rw [← ensureRegisteredSchemaMatches_ok matchOk]
        exact findRegisteredSchema_ok_some existingOk
      · exact (validateRegisteredIndexes_ok_iff schemaFormed).mp rowsOk
  | none =>
      obtain ⟨⟨⟩, -, ran⟩ := bind_eq_ok_iff.mp ran
      obtain ⟨withTable, tableOk, ran⟩ := bind_eq_ok_iff.mp ran
      obtain ⟨withRow, rowOk, ran⟩ := bind_eq_ok_iff.mp ran
      obtain ⟨withIndexes, indexesOk, ran⟩ := bind_eq_ok_iff.mp ran
      obtain ⟨withRows, rowsOk, ran⟩ := bind_eq_ok_iff.mp ran
      obtain ⟨⟨⟩, physicalTableOk, ran⟩ := bind_eq_ok_iff.mp ran
      obtain ⟨⟨⟩, physicalOk, same⟩ := bind_eq_ok_iff.mp ran
      obtain rfl := (Prod.mk.inj (Except.ok.inj same)).2
      rw [executeBatch_createTableSql formed] at tableOk
      have table := createTable_effect tableOk
      obtain ⟨catalogRow, schemasRow, indexesRow, -⟩ := insertRegisteredSchema_effect rowOk
      obtain ⟨registryIndexes, -, growsIndexes, -⟩ :=
        createDeclaredIndexes_effect formed indexesOk
      obtain ⟨catalogRows, schemasRows, indexesRows, -⟩ :=
        insertRegisteredIndexes_effect rowsOk
      have grows : initialized.catalog.Grows withRows.catalog := by
        rw [catalogRows]
        exact table.grows.trans (catalogRow ▸ growsIndexes)
      have noneBefore := filter_indexes_of_unknown (findRegisteredSchema_ok_none existingOk)
      apply Registered.of_checks schemaFormed ?_ ?_ ?_ physicalTableOk physicalOk
      · intro name member
        exact findTable_isSome_of_grows grows (registries name member)
      · rw [schemasRows, registryIndexes, schemasRow]
        exact List.mem_append_right _ (List.mem_singleton_self _)
      · rw [indexesRows, registryIndexes, indexesRow, table.registry_eq, List.filter_append,
          noneBefore, List.nil_append, List.filter_eq_self.mpr]
        intro row member
        obtain ⟨index, -, rfl⟩ := List.mem_map.mp member
        simp [Registry.indexRow]

/-- A type that was registered can be registered as any type of the same format. -/
theorem registerCollection_again {other : DerivedCollection}
    {registration : SchemaRegistration} {after : Database Data}
    (formed : derived.WellFormed host) (otherFormed : other.WellFormed host)
    (same : SameDescriptors derived other)
    (ok : registerCollection engine derived database = (after, .ok registration)) :
    registerCollection engine other after = (after, .ok .alreadyRegistered) ∧
      ∀ later, Later engine host derived.schema AnyCallback after later →
        engine.commit later = .ok () →
          registerCollection engine other later = (later, .ok .alreadyRegistered) := by
  unfold registerCollection at ok
  rw [validateCollectionSchema_ok_iff.mpr formed.schema_wellFormed] at ok
  obtain ⟨ran, committed⟩ := transaction_eq_ok ok
  have registered := registerBody_registers formed ran
  constructor
  · exact registerCollection_registered otherFormed
      (registered.of_sameDescriptors formed otherFormed same) committed
  · intro later run committedLater
    exact registerCollection_registered otherFormed
      ((run.registered registered).of_sameDescriptors formed otherFormed same) committedLater

end Registry

/-! ## Cells under stable ids -/

section StableIds

variable {Cell : Type}

/-- The cell that a list, in the field order of a type, holds for a stable id. -/
def cellOf (derived : DerivedCollection) (cells : List Cell) (id : String) : Option Cell :=
  ((derived.fields.map DerivedField.id).zip cells).lookup id

theorem lookup_map_eq_find? {fields : List DerivedField} {read : DerivedField → Cell}
    (id : String) :
    (fields.map fun field => (field.id, read field)).lookup id =
      (fields.find? fun field => field.id = id).map read := by
  induction fields with
  | nil => rfl
  | cons field rest inductionHypothesis =>
      by_cases same : field.id = id
      · simp [same]
      · rw [List.map_cons, List.lookup_cons, beq_false_of_ne (Ne.symm same)]
        simpa [same] using inductionHypothesis

/-- A row read in the column order of a type gives every id the cell of the column
that the field constant of the id names. -/
theorem cellOf_columns (derived : DerivedCollection) (row : Sql.Row Cell) (id : String) :
    cellOf derived (derived.columns.map row) id =
      (Query.fieldConstant derived id).map fun field => row field.column := by
  have pairs : (derived.fields.map DerivedField.id).zip (derived.columns.map row) =
      derived.fields.map fun field => (field.id, row field.column) := by
    rw [DerivedCollection.columns, List.map_map, List.zip_map']
    rfl
  unfold cellOf Query.fieldConstant
  rw [pairs, lookup_map_eq_find?, List.find?_map, Option.map_map]
  rfl

end StableIds

/-! ## One format -/

section OneFormat

open Registry

variable {host : MacroHost} {first second : DerivedCollection}

/-- What the descriptors of a type decide, besides its indexes. -/
structure SameFormat (first second : DerivedCollection) : Prop where
  collection_eq : first.collection = second.collection
  table_eq : first.table = second.table
  version_eq : first.version = second.version
  fields_iff : ∀ field, field ∈ first.schema.fields ↔ field ∈ second.schema.fields

theorem SameFormat.symm (format : SameFormat first second) : SameFormat second first :=
  ⟨format.collection_eq.symm, format.table_eq.symm, format.version_eq.symm,
    fun field => (format.fields_iff field).symm⟩

theorem sameFormat_of_sameDescriptors (formed : first.WellFormed host)
    (otherFormed : second.WellFormed host) (same : SameDescriptors first second) :
    SameFormat first second := by
  have sameText := same.schema_eq
  rw [formed.canonical_eq, otherFormed.canonical_eq] at sameText
  obtain ⟨collection, table, version, fields⟩ :=
    (canonicalSchema_eq_iff formed.ids_nodup otherFormed.ids_nodup).mp sameText
  exact ⟨collection, table, version, fields⟩

/-- Both types have the same field constants, under whatever Rust names. -/
theorem SameFormat.fieldConstant_eq (formed : first.WellFormed host)
    (otherFormed : second.WellFormed host) (format : SameFormat first second) :
    Query.fieldConstant first = Query.fieldConstant second := by
  funext id
  have keeps : ∀ {one two : DerivedCollection}, two.WellFormed host →
      SameFormat one two → ∀ field, Query.fieldConstant one id = some field →
        Query.fieldConstant two id = some field := by
    intro one two twoFormed both field found
    have member := (both.fields_iff field).mp (List.mem_of_find?_eq_some found)
    have sameId : field.id = id := by simpa using List.find?_some found
    have unique := find?_of_nodup_map twoFormed.schema_wellFormed.ids_nodup member
    rw [sameId] at unique
    exact unique
  apply Option.ext
  intro field
  exact ⟨keeps otherFormed format field, keeps formed format.symm field⟩

/-- Both types have the same primary key. -/
theorem SameFormat.primaryKey_eq (formed : first.WellFormed host)
    (otherFormed : second.WellFormed host) (format : SameFormat first second) :
    first.primaryKey.schema = second.primaryKey.schema := by
  obtain ⟨member, isKey⟩ := primaryKey_mem formed
  obtain ⟨field, inSecond, sameSchema⟩ := List.mem_map.mp
    ((format.fields_iff first.primaryKey.schema).mp (List.mem_map_of_mem member))
  have fieldKey : field.primaryKey = true :=
    (congrArg FieldSchema.primaryKey sameSchema).trans isKey
  have inFilter : field ∈ second.fields.filter DerivedField.primaryKey :=
    List.mem_filter.mpr ⟨inSecond, fieldKey⟩
  rw [otherFormed.primary_key, List.mem_singleton] at inFilter
  rw [← sameSchema, inFilter]

end OneFormat

/-! ## Records -/

namespace Crud

variable {V W Cell : Type} [Sql.Scalar Cell] [DecidableEq Cell] {host : MacroHost}

/-- What `writer` stores by an insert, or by an update that changes a row, `reader`
finds in the same rows: its select returns one row, which gives every stable id the
cell that was written for it, and its get decodes that row. -/
def ReadsWritesOf (reader : Crud W Cell) (writer : Crud V Cell) : Prop :=
  ∀ (record : Record writer.derived V) (table next : writer.Content),
    (∃ count, writer.insert record table = .ok (count, next)) ∨
        writer.update record table = .ok (1, next) →
      ∃ cells keyCell read, ∃ shared : reader.Content,
        record.cells writer.codec = .ok cells ∧
        cellOf writer.derived cells writer.derived.primaryKey.id = some keyCell ∧
        read.length = reader.derived.fields.length ∧
        (∀ id, cellOf reader.derived read id = cellOf writer.derived cells id) ∧
        shared.rows = next.rows ∧
        (reader.rawBindParameter 1 keyCell = .ok () →
          (∃ statement, Storage.prepare reader.derived.selectByKeySql = .ok statement ∧
            Storage.queryRows reader.rawBindParameter reader.derived.table shared statement
              [keyCell] = .ok [read]) ∧
          ∀ key, (reader.codec reader.derived.primaryKey).toValue key = .ok keyCell →
            reader.get key shared =
              (decodeCells reader.codec (reader.derived.fields.zip read)).map some)

omit [Sql.Scalar Cell] [DecidableEq Cell] in
theorem exists_key {crud : Crud V Cell} (formed : crud.derived.WellFormed host)
    (record : Record crud.derived V) : ∃ key, record.key = some key := by
  obtain ⟨index, found, atField⟩ := primaryKeyIndex_spec formed
  have inRange : index < record.values.length := by
    rw [record.length_eq]
    exact (List.getElem?_eq_some_iff.mp atField).1
  exact ⟨_, by simp only [Record.key, found, Option.bind_some]
               exact List.getElem?_eq_getElem inRange⟩

/-- The row that a successful write leaves under the key of its record. -/
theorem written_row [Sql.ExactEquality Cell] {crud : Crud V Cell}
    (formed : crud.derived.WellFormed host) {record : Record crud.derived V}
    {table next : crud.Content}
    (ok : (∃ count, crud.insert record table = .ok (count, next)) ∨
      crud.update record table = .ok (1, next)) :
    ∃ keyCell row, record.cells crud.codec = .ok (crud.derived.columns.map row) ∧
      row ∈ next.rows ∧ row crud.derived.primaryKey.column = keyCell := by
  obtain ⟨key, isKey⟩ := exists_key formed record
  rcases ok with ⟨count, inserted⟩ | updated
  · obtain ⟨cells, keyCell, row, encoded, -, -, -, stored, rfl, -⟩ :=
      insert_writes formed isKey inserted
    exact ⟨keyCell, row, encoded, Sql.Table.view_eq_some_iff.mp stored⟩
  · obtain ⟨cells, keyCell, encoded, -, missing, present, -⟩ :=
      update_writes formed isKey updated
    have found : table.view keyCell ≠ none := by
      intro absent
      exact absurd (missing absent).1 (by decide)
    obtain ⟨-, row, stored, rfl⟩ := present found
    exact ⟨keyCell, row, encoded, Sql.Table.view_eq_some_iff.mp stored⟩

omit [Sql.Scalar Cell] [DecidableEq Cell] in
theorem cellOf_primaryKey {derived : DerivedCollection} (formed : derived.WellFormed host)
    (row : Sql.Row Cell) :
    cellOf derived (derived.columns.map row) derived.primaryKey.id =
      some (row derived.primaryKey.column) := by
  have found : Query.fieldConstant derived derived.primaryKey.id =
      some derived.primaryKey.schema :=
    Registry.find?_of_nodup_map formed.schema_wellFormed.ids_nodup
      (List.mem_map_of_mem (primaryKey_mem formed).1)
  rw [cellOf_columns, found]
  rfl

/-- Types of one format read each other's records. -/
theorem readsWritesOf_of_sameFormat [Sql.ExactEquality Cell] {writer : Crud V Cell}
    {reader : Crud W Cell} (writerFormed : writer.derived.WellFormed host)
    (readerFormed : reader.derived.WellFormed host)
    (format : SameFormat writer.derived reader.derived) : reader.ReadsWritesOf writer := by
  intro record table next ok
  obtain ⟨keyCell, row, encoded, member, rowKey⟩ := written_row writerFormed ok
  have sameKey : writer.derived.primaryKey.column = reader.derived.primaryKey.column :=
    congrArg FieldSchema.column (format.primaryKey_eq writerFormed readerFormed)
  let shared : reader.Content :=
    { rows := next.rows
      keys_nodup := sameKey ▸ next.keys_nodup
      keys_notNull := sameKey ▸ next.keys_notNull }
  have stored : shared.view keyCell = some row :=
    Sql.Table.view_eq_some_iff.mpr ⟨member, sameKey ▸ rowKey⟩
  refine ⟨_, keyCell, reader.derived.columns.map row, shared, encoded, ?_, ?_, ?_, rfl, ?_⟩
  · rw [cellOf_primaryKey writerFormed, rowKey]
  · simp [DerivedCollection.columns]
  · intro id
    rw [cellOf_columns, cellOf_columns, format.fieldConstant_eq writerFormed readerFormed]
  · intro binds
    obtain ⟨statement, prepared, queried⟩ := queryRows_key readerFormed binds shared
    rw [stored] at queried
    constructor
    · exact ⟨statement, prepared, queried⟩
    · intro key keyEncoded
      exact get_eq readerFormed binds keyEncoded stored

end Crud

/-! ## Queries -/

namespace Query

variable {R : Type} [RealCarrier R]

section Compiler

variable {first second : CollectionSchema}

/-- The compiled predicate depends on the set of the fields only. -/
theorem compilePredicate_eq
    (sameFields : ∀ field, field ∈ first.fields ↔ field ∈ second.fields)
    (node : PredicateNode R) : ∀ (state : Compilation R) (depth : Nat),
      compilePredicate first node state depth = compilePredicate second node state depth := by
  induction node with
  | compare field comparison value =>
      intro state depth
      simp only [compilePredicate, validateField_eq sameFields]
  | null field comparison =>
      intro state depth
      simp only [compilePredicate, validateField_eq sameFields]
  | and left right sameLeft sameRight =>
      intro state depth
      simp only [compilePredicate, sameLeft, sameRight]
  | or left right sameLeft sameRight =>
      intro state depth
      simp only [compilePredicate, sameLeft, sameRight]
  | not inner sameInner =>
      intro state depth
      simp only [compilePredicate, sameInner]

theorem compileExistsQuery_eq (formed : first.WellFormed) (otherFormed : second.WellFormed)
    (sameTable : first.table = second.table)
    (sameFields : ∀ field, field ∈ first.fields ↔ field ∈ second.fields)
    (predicate : Option (PredicateNode R)) (order : List QueryOrder) :
    compileExistsQuery first predicate order = compileExistsQuery second predicate order := by
  have sameWhere : compileWhere first predicate = compileWhere second predicate := by
    funext sql
    cases predicate with
    | none => rfl
    | some node => simp only [compileWhere, compilePredicate_eq sameFields]
  unfold compileExistsQuery
  rw [validateCollectionSchema_ok_iff.mpr formed,
    validateCollectionSchema_ok_iff.mpr otherFormed, sameWhere, sameTable]

omit [RealCarrier R] in
theorem pushOrders_alike
    (sameFields : ∀ field, field ∈ first.fields ↔ field ∈ second.fields)
    (order : List QueryOrder) : ∀ (index : Nat) (left right : String) (seen : List String),
      EndAlike (fun one two => one.2 = two.2) (pushOrders first index left seen order)
        (pushOrders second index right seen order) := by
  induction order with
  | nil =>
      intro index left right seen
      exact .ok rfl
  | cons term rest alike =>
      intro index left right seen
      unfold pushOrders
      rw [validateField_eq sameFields]
      apply EndAlike.step
      intro checked
      apply EndAlike.guard
      exact alike _ _ _ _

/-- Whether a query compiles, and to which values, depends on the set of the fields
and on the key only. -/
theorem compileQuery_alike (formed : first.WellFormed) (otherFormed : second.WellFormed)
    (sameFields : ∀ field, field ∈ first.fields ↔ field ∈ second.fields)
    (sameKey : first.primaryKey = second.primaryKey)
    (predicate : Option (PredicateNode R)) (order : List QueryOrder) (limit : UInt32) :
    EndAlike (fun one two => one.values = two.values)
      (compileQuery first predicate order limit)
      (compileQuery second predicate order limit) := by
  unfold compileQuery
  apply EndAlike.guard
  rw [validateCollectionSchema_ok_iff.mpr formed,
    validateCollectionSchema_ok_iff.mpr otherFormed, sameKey]
  cases second.primaryKey with
  | none => exact .error _
  | some primaryKey =>
      apply (compileWhere_alike sameFields predicate _ _).bind
      intro one two sameValues
      apply (pushOrders_alike sameFields order 0 _ _ []).bind
      intro _ _ _
      exact .ok (congrArg (· ++ [.integer (Int64.ofNat limit.toNat)]) sameValues)

end Compiler

section Execution

variable [EngineOrder R]

/-- The rows that a query is meant to select: those on which its predicate is true,
in its order, up to its limit. -/
def meantRows {key : String} (table : Sql.Table (Value R) key) (primaryKey : FieldSchema)
    (predicate : Option (PredicateNode R)) (order : List QueryOrder) (limit : UInt32) :
    List (Sql.Row (Value R)) :=
  ((table.rows.filter (boundFilter predicate).selects).mergeSort
    (Sql.precedes ((effectiveOrder primaryKey order).map QueryOrder.orderTerm))).take
      limit.toNat

omit [RealCarrier R] in
theorem mem_meantRows {key : String} {table : Sql.Table (Value R) key}
    {primaryKey : FieldSchema} {predicate : Option (PredicateNode R)}
    {order : List QueryOrder} {limit : UInt32} {row : Sql.Row (Value R)}
    (member : row ∈ meantRows table primaryKey predicate order limit) :
    row ∈ table.rows ∧ selectedBy predicate row := by
  have inFilter := List.mem_mergeSort.mp (List.mem_of_mem_take member)
  obtain ⟨inTable, selected⟩ := List.mem_filter.mp inFilter
  exact ⟨inTable, (selects_boundFilter predicate row).mp selected⟩

/-- A compiled query returns the rows it is meant to select, in its column order,
unless the engine refuses one of its values. -/
theorem compileQuery_runs {schema : CollectionSchema} {predicate : Option (PredicateNode R)}
    {order : List QueryOrder} {limit : UInt32} {query : CollectionQuery R}
    (rawBindParameter : Nat → Value R → Result Unit)
    (ok : compileQuery schema predicate order limit = .ok query) {key : String}
    (table : Sql.Table (Value R) key) :
    ∃ primaryKey, schema.primaryKey = some primaryKey ∧
      queryValues rawBindParameter schema.table table query.sql query.values =
        (Storage.bindSlots rawBindParameter 0 query.values []).map fun _ =>
          (meantRows table primaryKey predicate order limit).map fun row =>
            (schema.fields.map FieldSchema.column).map row := by
  obtain ⟨primaryKey, -, isKey, -, -, prepared⟩ := compileQuery_reads ok
  obtain ⟨filterBound, limitBound⟩ := compileQuery_binds ok
  refine ⟨primaryKey, isKey, ?_⟩
  have searched : table.search rowCount schema.table query.values
      (.select (.columns (schema.fields.map FieldSchema.column)) schema.table
        (whereFilter predicate) ((effectiveOrder primaryKey order).map QueryOrder.orderTerm)
        (.parameter query.values.length)) =
      .ok ((meantRows table primaryKey predicate order limit).map fun row =>
        (schema.fields.map FieldSchema.column).map row) := by
    simp only [Sql.Table.search, Sql.Table.selectRows, if_true, filterBound, limitBound]
    rfl
  have bindings := Storage.bindSlots_cases rawBindParameter query.values 0 []
  simp only [queryValues, Storage.prepare, prepared, ok_bind, Storage.bindIter, bne_self_eq_false,
    Bool.false_eq_true, if_false]
  rcases bindings with bound | ⟨index, value, failure, -, refused⟩
  · rw [bound]
    simp only [List.nil_append, ok_bind, searched]
    rfl
  · rw [refused]
    rfl

/-- Two queries of two types over one table: either both select the same rows, which
each returns in the column order of its type, or the engine refuses one of the values
of both. -/
def SelectSameRows (rawBindParameter : Nat → Value R → Result Unit)
    (first second : DerivedCollection) (predicate : Option (PredicateNode R))
    (left right : CollectionQuery R) : Prop :=
  ∀ (key : String) (table : Sql.Table (Value R) key),
    (∃ rows : List (Sql.Row (Value R)),
      queryValues rawBindParameter first.table table left.sql left.values =
        .ok (rows.map fun row => first.columns.map row) ∧
      queryValues rawBindParameter second.table table right.sql right.values =
        .ok (rows.map fun row => second.columns.map row) ∧
      ∀ row ∈ rows, row ∈ table.rows ∧ selectedBy predicate row) ∨
    ∃ index value failure, rawBindParameter index value = .error failure ∧
      queryValues rawBindParameter first.table table left.sql left.values =
        .error failure ∧
      queryValues rawBindParameter second.table table right.sql right.values =
        .error failure

variable {host : MacroHost} {first second : DerivedCollection}

omit [RealCarrier R] [EngineOrder R] in
theorem schema_primaryKey {derived : DerivedCollection} (formed : derived.WellFormed host) :
    derived.schema.primaryKey = some derived.primaryKey.schema := by
  have found : (derived.fields.find? DerivedField.primaryKey) = some derived.primaryKey := by
    rw [← List.head?_filter, formed.primary_key, List.head?_cons]
  unfold CollectionSchema.primaryKey DerivedCollection.schema
  rw [List.find?_map]
  show (derived.fields.find? DerivedField.primaryKey).map _ = _
  rw [found]
  rfl

omit [RealCarrier R] [EngineOrder R] in
theorem columns_schema (derived : DerivedCollection) :
    derived.schema.fields.map FieldSchema.column = derived.columns := by
  simp [DerivedCollection.schema, DerivedCollection.columns, DerivedField.schema,
    Function.comp_def]

/-- One draft, compiled for two types of one format, fails for both in the same way or
selects the same rows. -/
theorem compileQuery_interoperates (formed : first.WellFormed host)
    (otherFormed : second.WellFormed host) (format : SameFormat first second)
    (rawBindParameter : Nat → Value R → Result Unit) (draft : QueryDraft R)
    (limit : UInt32) :
    EndAlike (SelectSameRows rawBindParameter first second draft.predicate)
      (compileQuery first.schema draft.predicate draft.order limit)
      (compileQuery second.schema draft.predicate draft.order limit) := by
  have sameKey : first.schema.primaryKey = second.schema.primaryKey := by
    rw [schema_primaryKey formed, schema_primaryKey otherFormed,
      format.primaryKey_eq formed otherFormed]
  apply (compileQuery_alike formed.schema_wellFormed otherFormed.schema_wellFormed
    format.fields_iff sameKey draft.predicate draft.order limit).mono
  intro left right leftOk rightOk sameValues key table
  obtain ⟨leftKey, leftIsKey, leftRuns⟩ := compileQuery_runs rawBindParameter leftOk table
  obtain ⟨rightKey, rightIsKey, rightRuns⟩ :=
    compileQuery_runs rawBindParameter rightOk table
  rw [sameKey, rightIsKey, Option.some.injEq] at leftIsKey
  rw [columns_schema] at leftRuns rightRuns
  rw [← leftIsKey, sameValues] at leftRuns
  rcases Storage.bindSlots_cases rawBindParameter right.values 0 [] with
    bound | ⟨index, value, failure, refused, ended⟩
  · rw [bound] at leftRuns rightRuns
    exact .inl ⟨_, sameValues ▸ leftRuns, rightRuns, fun row member => mem_meantRows member⟩
  · rw [ended] at leftRuns rightRuns
    exact .inr ⟨index, value, failure, refused, sameValues ▸ leftRuns, rightRuns⟩

end Execution

end Query

/-! ## Interoperability -/

open Registry Query in
/-- Two derived types with the same descriptors are one format.  A database that took
one for a collection reports the other as already registered; a record that either
type writes is read by the other with every stable id in place; and a draft over the
field constants of either is the same draft, fails for both or selects the same rows,
in which every id has the same cell. -/
theorem same_descriptors_interoperate {Data V W R : Type} [RealCarrier R] [EngineOrder R]
    [DecidableEq R] [Sql.ExactEquality (Value R)] (engine : Engine Data) (host : MacroHost)
    (firstInput secondInput : DeriveInput) (first : Crud V (Value R))
    (second : Crud W (Value R))
    (firstAccepted : expandCollection host firstInput = .ok first.derived)
    (secondAccepted : expandCollection host secondInput = .ok second.derived)
    (same : SameDescriptors first.derived second.derived) :
    (∀ (database after : Database Data) (registration : SchemaRegistration),
      registerCollection engine first.derived database = (after, .ok registration) →
        registerCollection engine second.derived after = (after, .ok .alreadyRegistered) ∧
        ∀ later, Later engine host first.derived.schema AnyCallback after later →
          engine.commit later = .ok () →
            registerCollection engine second.derived later =
              (later, .ok .alreadyRegistered)) ∧
    second.ReadsWritesOf first ∧ first.ReadsWritesOf second ∧
    (∀ written : WrittenQuery R,
      written.build (fieldConstant first.derived) =
        written.build (fieldConstant second.derived) ∧
      ∀ draft, written.build (fieldConstant first.derived) = some draft →
        (∀ (rawBindParameter : Nat → Value R → Result Unit) (limit : UInt32),
          EndAlike
            (SelectSameRows rawBindParameter first.derived second.derived draft.predicate)
            (compileQuery first.derived.schema draft.predicate draft.order limit)
            (compileQuery second.derived.schema draft.predicate draft.order limit)) ∧
        compileExistsQuery first.derived.schema draft.predicate draft.order =
          compileExistsQuery second.derived.schema draft.predicate draft.order) ∧
    ∀ (row : Sql.Row (Value R)) (id : String),
      cellOf first.derived (first.derived.columns.map row) id =
        cellOf second.derived (second.derived.columns.map row) id := by
  have formed := expandCollection_wellFormed firstAccepted
  have otherFormed := expandCollection_wellFormed secondAccepted
  have format := sameFormat_of_sameDescriptors formed otherFormed same
  have constants := format.fieldConstant_eq formed otherFormed
  refine ⟨?_, ?_, ?_, ?_, ?_⟩
  · intro database after registration ok
    exact registerCollection_again formed otherFormed same ok
  · exact Crud.readsWritesOf_of_sameFormat formed otherFormed format
  · exact Crud.readsWritesOf_of_sameFormat otherFormed formed format.symm
  · intro written
    constructor
    · rw [constants]
    · intro draft built
      constructor
      · intro rawBindParameter limit
        exact compileQuery_interoperates formed otherFormed format rawBindParameter draft limit
      · exact compileExistsQuery_eq formed.schema_wellFormed otherFormed.schema_wellFormed
          format.table_eq format.fields_iff draft.predicate draft.order
  · intro row id
    rw [cellOf_columns, cellOf_columns, constants]

instance equalityExact : Sql.ExactEquality (Value Nat) where
  order_eq_iff := by
    intro left right
    show (if left = right then Ordering.eq else Ordering.lt) = .eq ↔ left = right
    by_cases same : left = right <;> simp [same]

/-- A struct whose key is declared last. -/
def keyLastInput : DeriveInput where
  hasGenerics := false
  metas := [.collection "agent.memory", .table "memory", .version 1]
  data := .namedStruct
    [{ rustName := "score", ty := .generic false "Option" (.path false "i64"),
       metas := [.id "score", .column "the \"score\""] },
     { rustName := "id", ty := .path false "i64",
       metas := [.id "id", .column "id", .primaryKey] }]

/-- The struct whose key is declared last, renamed and with its key first. -/
def keyFirstInput : DeriveInput where
  hasGenerics := false
  metas := [.collection "agent.memory", .table "memory", .version 1]
  data := .namedStruct
    [{ rustName := "identifier", ty := .path false "i64",
       metas := [.id "id", .column "id", .primaryKey] },
     { rustName := "importance", ty := .generic false "Option" (.path false "i64"),
       metas := [.id "score", .column "the \"score\""] }]

/-- A key field and a score field under the given Rust names. -/
def memoryKey (rustName : String) : DerivedField where
  rustName := rustName
  ty := .path false "i64"
  id := "id"
  column := "id"
  storage := .integer
  nullable := false
  primaryKey := true

def memoryScore (rustName : String) : DerivedField where
  rustName := rustName
  ty := .generic false "Option" (.path false "i64")
  id := "score"
  column := "the \"score\""
  storage := .integer
  nullable := true
  primaryKey := false

def memoryCollection (fields : List DerivedField) (primaryKey : DerivedField) :
    DerivedCollection where
  collection := "agent.memory"
  table := "memory"
  version := 1
  fields := fields
  primaryKey := primaryKey
  indexes := []
  canonical := canonicalSchema "agent.memory" "memory" 1 fields
  fingerprint := Crud.plainHost.sha256 ""

/-- Typed operations that store every number as an integer. -/
def memoryCrud (derived : DerivedCollection) : Crud Int64 (Value Nat) where
  derived := derived
  codec := fun _ =>
    { toValue := fun value => .ok (.integer value)
      fromValue := fun cell =>
        match cell with
        | .integer value => .ok value
        | _ => .error Storage.invalidSql }
  rawBindParameter := fun _ _ => .ok ()
  accepts := fun _ => true

def keyLastMemory : DerivedCollection :=
  memoryCollection [memoryScore "score", memoryKey "id"] (memoryKey "id")

def keyFirstMemory : DerivedCollection :=
  memoryCollection [memoryKey "identifier", memoryScore "importance"] (memoryKey "identifier")

theorem keyLastMemory_accepted :
    expandCollection Crud.plainHost keyLastInput = .ok keyLastMemory := rfl

theorem keyFirstMemory_accepted :
    expandCollection Crud.plainHost keyFirstInput = .ok keyFirstMemory := rfl

/-- The fields differ in their order and their Rust names only. -/
theorem memory_sameDescriptors : Registry.SameDescriptors keyLastMemory keyFirstMemory where
  schema_eq := by
    apply (canonicalSchema_eq_iff (by decide) (by decide)).mpr
    refine ⟨rfl, rfl, rfl, fun field => ?_⟩
    simp only [List.map_cons, List.map_nil, List.mem_cons, List.not_mem_nil, or_false]
    exact Or.comm
  indexes_eq := fun _ => Iff.rfl

def scoredRecord : Record keyLastMemory Int64 := ⟨[5, 1], rfl⟩

/-- The first record that is inserted into its table. -/
theorem scoredRecord_inserted :
    ∃ next, (memoryCrud keyLastMemory).insert scoredRecord ⟨[], by simp, by simp⟩ =
      .ok (1, next) := by
  have formed : (memoryCrud keyLastMemory).derived.WellFormed Crud.plainHost :=
    expandCollection_wellFormed keyLastMemory_accepted
  have encodes : scoredRecord.Encodes (memoryCrud keyLastMemory).codec :=
    ⟨[.integer 5, .integer 1], rfl⟩
  have inserted := Crud.insert_eq (fun _ _ => rfl) formed encodes ⟨[], by simp, by simp⟩
  have admitted := @Crud.replaced_admitted _ _ _ _ (memoryCrud keyLastMemory) 1
    [scoredRecord.row (memoryCrud keyLastMemory).codec] (List.nodup_singleton _)
    (List.forall_mem_singleton.mpr rfl) rfl
  exact ⟨_, inserted.trans admitted⟩

open Registry in
/-- The second type is registered already, reads what the first one writes, such as the
record that it inserts here, and writes what the first one reads. -/
theorem renamed_memory_interoperates :
    (registerCollection willingEngine keyFirstMemory
      (registerCollection willingEngine keyLastMemory emptyDatabase).1).2 =
        .ok .alreadyRegistered ∧
    (∃ next, (memoryCrud keyLastMemory).insert scoredRecord ⟨[], by simp, by simp⟩ =
        .ok (1, next) ∧
      ∃ shared : (memoryCrud keyFirstMemory).Content, shared.rows = next.rows ∧
        (memoryCrud keyFirstMemory).get 1 shared = .ok (some [1, 5])) ∧
    (memoryCrud keyFirstMemory).ReadsWritesOf (memoryCrud keyLastMemory) ∧
    (memoryCrud keyLastMemory).ReadsWritesOf (memoryCrud keyFirstMemory) := by
  have fresh : Fresh keyLastMemory emptyDatabase :=
    ⟨by simp [emptyDatabase], by simp [emptyDatabase], by simp [emptyDatabase],
      by simp [emptyDatabase, Catalog.findTable], by simp [emptyDatabase, Catalog.findIndex]⟩
  have accepts : AcceptsDefinitions willingEngine keyLastMemory :=
    ⟨fun _ _ _ _ => rfl, fun _ => rfl, fun _ _ _ => rfl, fun _ => rfl⟩
  obtain ⟨created, createdOk, -⟩ := registerCollection_fresh
    (expandCollection_wellFormed keyLastMemory_accepted) ⟨by decide, by decide⟩ fresh accepts
  obtain ⟨registers, reads, readsBack, -⟩ := same_descriptors_interoperate willingEngine
    Crud.plainHost keyLastInput keyFirstInput (memoryCrud keyLastMemory)
    (memoryCrud keyFirstMemory) keyLastMemory_accepted keyFirstMemory_accepted
    memory_sameDescriptors
  rw [createdOk]
  refine ⟨congrArg Prod.snd (registers emptyDatabase created .created createdOk).1, ?_,
    reads, readsBack⟩
  obtain ⟨next, inserted⟩ := scoredRecord_inserted
  obtain ⟨cells, keyCell, read, shared, encoded, isKey, length, sameCells, sameRows, found⟩ :=
    reads scoredRecord _ next (.inl ⟨1, inserted⟩)
  obtain rfl : [.integer 5, .integer 1] = cells := Except.ok.inj encoded
  obtain rfl : .integer 1 = keyCell := Option.some.inj isKey
  obtain ⟨key, score, rfl⟩ := List.length_eq_two.mp length
  obtain rfl : key = .integer 1 := Option.some.inj (sameCells "id")
  obtain rfl : score = .integer 5 := Option.some.inj (sameCells "score")
  exact ⟨next, inserted, shared, sameRows, (found rfl).2 1 rfl⟩

end Csgdb
