/-
Module: Csgdb.Proofs.FreshRegistration
Purpose: A database that knows neither a collection nor its names accepts every
  derived collection and holds it afterwards.
Trusted boundary: none
Main exports: Fresh, DistinctNames, AcceptsDefinitions, registerCollection_fresh
-/
import Csgdb.Proofs.Registration

namespace Csgdb.Registry

open Derive Storage Foundation

variable {Data : Type} {engine : Engine Data} {database changed : Database Data}

/-! ## Internal tables on a fresh database -/

/-- The effect of creating the registries. -/
structure RegistriesCreated (before after : Database Data) : Prop where
  registry_eq : after.registry = before.registry
  indexes_eq : after.catalog.indexes = before.catalog.indexes
  grows : before.catalog.Grows after.catalog
  present : ∀ name ∈ internalTables, (after.catalog.findTable name).isSome
  others : ∀ other, (∀ name ∈ internalTables, foldName other ≠ foldName name) →
    after.catalog.findTable other = before.catalog.findTable other

theorem findTable_isSome_of_grows {before after : Catalog} (grows : before.Grows after)
    {name : String} (found : (before.findTable name).isSome) :
    (after.findTable name).isSome := by
  obtain ⟨table, found⟩ := Option.isSome_iff_exists.mp found
  rw [grows.findTable found]
  rfl

theorem initializeSchemaRegistries_effect
    (ok : initializeSchemaRegistries engine database = .ok changed) :
    RegistriesCreated database changed := by
  obtain ⟨one, firstOk, more⟩ := bind_eq_ok_iff.mp ok
  obtain ⟨two, secondOk, thirdOk⟩ := bind_eq_ok_iff.mp more
  have first := createTable_effect firstOk
  have second := createTable_effect secondOk
  have third := createTable_effect thirdOk
  refine
    { registry_eq := third.registry_eq.trans (second.registry_eq.trans first.registry_eq)
      indexes_eq := third.indexes_eq.trans (second.indexes_eq.trans first.indexes_eq)
      grows := first.grows.trans (second.grows.trans third.grows)
      present := ?_
      others := ?_ }
  · simp only [internalTables, List.forall_mem_cons, List.not_mem_nil, false_implies,
      implies_true, and_true]
    exact ⟨findTable_isSome_of_grows (second.grows.trans third.grows) first.present,
      findTable_isSome_of_grows third.grows second.present, third.present⟩
  · intro other differ
    simp only [internalTables, List.forall_mem_cons, List.not_mem_nil, false_implies,
      implies_true, and_true] at differ
    rw [third.others other differ.2.2, second.others other differ.2.1,
      first.others other differ.1]

theorem initializeSchemaRegistries_succeeds
    (noIndex : ∀ name ∈ internalTables, database.catalog.findIndex name = none)
    (accepts : ∀ name ∈ internalTables, ∀ columns (other : Database Data),
      engine.refuses (.createTable name columns) other = none) :
    ∃ initialized, initializeSchemaRegistries engine database = .ok initialized := by
  have sameIndexes : ∀ {other : Database Data} {name : String},
      other.catalog.indexes = database.catalog.indexes → name ∈ internalTables →
        other.catalog.findIndex name = none := by
    intro other name same member
    have none := noIndex name member
    unfold Catalog.findIndex at none ⊢
    rwa [same]
  have schemaMember : schemaRegistryTable ∈ internalTables := by simp [internalTables]
  have indexMember : indexRegistryTable ∈ internalTables := by simp [internalTables]
  have migrationMember : migrationRegistryTable ∈ internalTables := by
    simp [internalTables]
  obtain ⟨one, firstOk⟩ := (@createTable_succeeds _ _ _ _ schemaRegistryColumns)
    (noIndex _ schemaMember) (by decide) (accepts _ schemaMember _ _)
  have first := createTable_effect firstOk
  obtain ⟨two, secondOk⟩ := (@createTable_succeeds _ _ _ _ indexRegistryColumns)
    (sameIndexes first.indexes_eq indexMember) (by decide) (accepts _ indexMember _ _)
  have second := createTable_effect secondOk
  obtain ⟨three, thirdOk⟩ := (@createTable_succeeds _ _ _ _ migrationRegistryColumns)
    (sameIndexes (second.indexes_eq.trans first.indexes_eq) migrationMember) (by decide)
    (accepts _ migrationMember _ _)
  refine ⟨three, ?_⟩
  unfold initializeSchemaRegistries
  rw [firstOk, ok_bind, secondOk, ok_bind, thirdOk]

/-! ## Declared indexes on a fresh table -/

section Fresh

variable {host : MacroHost} {derived : DerivedCollection}

/-- The physical columns of a new collection table. -/
def createdColumns (derived : DerivedCollection) : List TableColumn :=
  (derived.fields.map columnDefinition).map tableColumn

/-- A new table shows all its columns. -/
theorem shown_created (name : String) (derived : DerivedCollection) :
    PhysicalTable.shown ⟨name, createdColumns derived⟩ = createdColumns derived := by
  unfold PhysicalTable.shown
  rw [List.filter_eq_self]
  intro column member
  obtain ⟨definition, -, rfl⟩ := List.mem_map.mp member
  rfl

/-- Every declared column is found under its own name. -/
theorem findColumn_created {name : String}
    (different : (derived.fields.map fun field => foldName field.column).Nodup)
    {column : String} (declared : column ∈ derived.fields.map DerivedField.column) :
    ∃ found, findColumn ⟨name, createdColumns derived⟩ column = some found ∧
      found.name = column ∧ found.collation = "BINARY" := by
  obtain ⟨field, member, rfl⟩ := List.mem_map.mp declared
  have keys : ((createdColumns derived).map fun column => foldName column.name).Nodup := by
    simpa [createdColumns, tableColumn, columnDefinition, Function.comp_def] using different
  have inColumns : tableColumn (columnDefinition field) ∈ createdColumns derived :=
    List.mem_map_of_mem (List.mem_map_of_mem member)
  exact ⟨_, find?_of_nodup_map keys inColumns, rfl, rfl⟩

theorem mapM_findColumn_created {name : String}
    (different : (derived.fields.map fun field => foldName field.column).Nodup) :
    ∀ {columns : List String},
      (∀ column ∈ columns, column ∈ derived.fields.map DerivedField.column) →
        ∃ found, columns.mapM (findColumn ⟨name, createdColumns derived⟩) = some found ∧
          found.map TableColumn.name = columns ∧
          ∀ column ∈ found, column.collation = "BINARY"
  | [], _ => ⟨[], rfl, rfl, by simp⟩
  | column :: rest, declared => by
      rw [List.forall_mem_cons] at declared
      obtain ⟨one, foundOne, nameOne, collationOne⟩ :=
        (@findColumn_created _ name) different declared.1
      obtain ⟨others, foundOthers, namesOthers, collations⟩ :=
        @mapM_findColumn_created name different _ declared.2
      refine ⟨one :: others, ?_, by rw [List.map_cons, nameOne, namesOthers],
        List.forall_mem_cons.mpr ⟨collationOne, collations⟩⟩
      rw [List.mapM_cons, foundOne, foundOthers]
      rfl

/-- The key columns of a created index are the declared ones. -/
theorem keyColumns_created :
    ∀ {found : List TableColumn}, (∀ column ∈ found, column.collation = "BINARY") →
      (∀ column ∈ found, column.name.isEmpty = false) →
        keyColumns (found.map indexColumn ++ [rowidColumn]) =
          .ok (found.map TableColumn.name)
  | [], _, _ => rfl
  | column :: rest, collations, named => by
      rw [List.forall_mem_cons] at collations named
      have plain : eqIgnoreAsciiCase column.collation "BINARY" = true := by
        rw [collations.1]
        decide
      rw [List.map_cons, List.cons_append, keyColumns,
        keyColumns_created collations.2 named.2]
      simp [indexColumn, named.1, plain]

theorem isEmpty_of_validName {name : String} (valid : validName name = true) :
    name.isEmpty = false := by
  unfold validName at valid
  simp only [Bool.and_eq_true, Bool.not_eq_eq_eq_not, Bool.not_true] at valid
  tauto

/-- The loop over the declared indexes of a new collection. -/
theorem createIndexes_fresh (formed : derived.WellFormed host)
    (different : (derived.fields.map fun field => foldName field.column).Nodup)
    (accepts : ∀ index ∈ derived.indexes, ∀ other : Database Data,
      engine.refuses (derived.createIndexStatement index) other = none) :
    ∀ {indexes : List DerivedIndex} {database : Database Data},
      (∀ index ∈ indexes, index ∈ derived.indexes) →
      (indexes.map fun index => foldName index.name).Nodup →
      (∀ index ∈ indexes, database.catalog.findIndex index.name = none) →
      (∀ index ∈ indexes, database.catalog.findTable index.name = none) →
      database.catalog.findTable derived.table =
        some ⟨derived.table, createdColumns derived⟩ →
      ∃ created,
        executeBatches engine (indexes.map (createIndexSql (quoteIdentifier derived.table)))
            database = .ok created ∧
          created.registry = database.registry ∧
          created.catalog.tables = database.catalog.tables ∧
          database.catalog.Grows created.catalog ∧
          ∀ index ∈ indexes, ∃ physical, IndexPresent created.catalog derived.table
            (DerivedCollection.indexSchema index) physical
  | [], database, _, _, _, _, _ =>
      ⟨database, rfl, rfl, rfl, .refl _, by simp⟩
  | index :: rest, database, declared, nodup, noIndex, noTable, onTable => by
      rw [List.forall_mem_cons] at declared noIndex noTable
      rw [List.map_cons, List.nodup_cons] at nodup
      have indexFormed := formed.index_wellFormed index declared.1
      obtain ⟨found, named, namesEq, collations⟩ :=
        (@mapM_findColumn_created _ derived.table) different indexFormed.columns_declared
      obtain ⟨next, nextOk⟩ := (@createIndex_succeeds _ _ _ index.unique) noTable.1
        onTable named (accepts index declared.1 database)
      have effect := createIndex_effect nextOk
      have sameTables : ∀ name, next.catalog.findTable name =
          database.catalog.findTable name := by
        intro name
        unfold Catalog.findTable
        rw [effect.tables_eq]
      have stillAbsent : ∀ other ∈ rest, next.catalog.findIndex other.name = none := by
        intro other member
        rw [Catalog.findIndex_eq_none_iff]
        intro physical inNext same
        rcases effect.created physical inNext with old | new
        · exact Catalog.findIndex_eq_none_iff.mp (noIndex.2 other member) physical old same
        · rw [new] at same
          exact nodup.1 (List.mem_map.mpr ⟨other, member, same.symm⟩)
      obtain ⟨created, createdOk, registryEq, tablesEq, grows, present⟩ :=
        createIndexes_fresh formed different accepts declared.2 nodup.2 stillAbsent
          (fun other member => (sameTables other.name).trans (noTable.2 other member))
          ((sameTables _).trans onTable)
      refine ⟨created, ?_, registryEq.trans effect.registry_eq,
        tablesEq.trans effect.tables_eq, effect.grows.trans grows,
        List.forall_mem_cons.mpr ⟨?_, present⟩⟩
      · rw [List.map_cons, executeBatches, executeBatch_createIndexSql formed declared.1,
          nextOk, ok_bind]
        exact createdOk
      · obtain ⟨physical, others, foundTable, foundColumns, member⟩ := effect.fresh noIndex.1
        obtain rfl := Option.some.inj (onTable.symm.trans foundTable)
        obtain rfl := Option.some.inj (named.symm.trans foundColumns)
        have namedColumns : ∀ column ∈ found, column.name.isEmpty = false := by
          intro column inFound
          have inColumns : column.name ∈ index.columns :=
            namesEq ▸ List.mem_map_of_mem inFound
          obtain ⟨field, inFields, sameName⟩ :=
            List.mem_map.mp (indexFormed.columns_declared _ inColumns)
          rw [← sameName]
          exact isEmpty_of_validName (formed.field_wellFormed field inFields).column_valid
        exact ⟨_,
          { member := grows.indexes member
            name_eq := rfl
            on_table := rfl
            unique_eq := rfl
            origin_eq := rfl
            total := rfl
            columns_eq := (keyColumns_created collations namedColumns).trans
              (congrArg Except.ok namesEq) }⟩

/-! ## A fresh database -/

/-- The names of the physical objects of a collection. -/
def objectNames (derived : DerivedCollection) : List String :=
  derived.table :: derived.indexes.map DerivedIndex.name

/-- The names differ under the engine's comparison, and none is an internal one. -/
structure DistinctNames (derived : DerivedCollection) : Prop where
  columns : (derived.fields.map fun field => foldName field.column).Nodup
  objects : ((objectNames derived ++ internalTables).map foldName).Nodup

/-- Neither the collection nor any of its names is known to the database. -/
structure Fresh (derived : DerivedCollection) (database : Database Data) : Prop where
  schema_absent : ∀ row ∈ database.registry.schemas, row.collectionId ≠ derived.collection
  table_unclaimed : ∀ row ∈ database.registry.schemas, row.tableName ≠ derived.table
  indexes_unclaimed : ∀ row ∈ database.registry.indexes, ∀ index ∈ derived.indexes,
    row.indexName ≠ index.name
  tables_absent : ∀ name ∈ objectNames derived, database.catalog.findTable name = none
  indexes_absent : ∀ name ∈ objectNames derived ++ internalTables,
    database.catalog.findIndex name = none

/-- The engine accepts the definitions of a collection and of the registries, and
commits. -/
structure AcceptsDefinitions (engine : Engine Data) (derived : DerivedCollection) :
    Prop where
  registries : ∀ name ∈ internalTables, ∀ columns (other : Database Data),
    engine.refuses (.createTable name columns) other = none
  table : ∀ other, engine.refuses derived.createTableStatement other = none
  indexes : ∀ index ∈ derived.indexes, ∀ other,
    engine.refuses (derived.createIndexStatement index) other = none
  commits : ∀ other, engine.commit other = .ok ()

theorem DistinctNames.object_ne_internal (distinct : DistinctNames derived) {name : String}
    (object : name ∈ objectNames derived) :
    ∀ internal ∈ internalTables, foldName name ≠ foldName internal := by
  intro internal member same
  have apart := distinct.objects
  rw [List.map_append, List.nodup_append] at apart
  exact apart.2.2 _ (List.mem_map_of_mem object) _ (List.mem_map_of_mem member) same

theorem DistinctNames.index_ne_table (distinct : DistinctNames derived)
    {index : DerivedIndex} (member : index ∈ derived.indexes) :
    foldName index.name ≠ foldName derived.table := by
  intro same
  have objects := distinct.objects
  rw [List.map_append, List.nodup_append, objectNames, List.map_cons,
    List.nodup_cons] at objects
  exact objects.1.1 (same ▸ List.mem_map_of_mem (List.mem_map_of_mem member))

theorem DistinctNames.indexes (distinct : DistinctNames derived) :
    (derived.indexes.map fun index => foldName index.name).Nodup := by
  have objects := distinct.objects
  rw [List.map_append, List.nodup_append, objectNames, List.map_cons,
    List.nodup_cons] at objects
  simpa [Function.comp_def] using objects.1.2

theorem asciiUppercase_storageName (storage : ColumnType) :
    asciiUppercase (storageName storage) = storage.sqlName := by
  cases storage <;> decide

/-- The created columns pass the check of the declared fields. -/
theorem validatePhysicalColumn_created (formed : derived.WellFormed host)
    {field : FieldSchema} (member : field ∈ derived.schema.fields) :
    validatePhysicalColumn (createdColumns derived) field = true := by
  obtain ⟨own, inFields, rfl⟩ := List.mem_map.mp member
  have keys : ((createdColumns derived).map TableColumn.name).Nodup := by
    simpa [createdColumns, tableColumn, columnDefinition, Function.comp_def] using
      formed.columns_nodup
  have inColumns : tableColumn (columnDefinition own) ∈ createdColumns derived :=
    List.mem_map_of_mem (List.mem_map_of_mem inFields)
  have found : ((createdColumns derived).find? fun column =>
      column.name = own.schema.column) = some (tableColumn (columnDefinition own)) :=
    find?_of_nodup_map keys inColumns
  unfold validatePhysicalColumn
  rw [found]
  simp [tableColumn, columnDefinition, DerivedField.schema, asciiUppercase_storageName,
    eqIgnoreAsciiCase]

/-- The registries come first and take none of the names. -/
theorem initializeSchemaRegistries_fresh (distinct : DistinctNames derived)
    (fresh : Fresh derived database) (accepts : AcceptsDefinitions engine derived) :
    ∃ initialized, initializeSchemaRegistries engine database = .ok initialized ∧
      RegistriesCreated database initialized ∧ Fresh derived initialized := by
  obtain ⟨initialized, ok⟩ := initializeSchemaRegistries_succeeds
    (fun name member => fresh.indexes_absent name (List.mem_append_right _ member))
    accepts.registries
  have effect := initializeSchemaRegistries_effect ok
  refine ⟨initialized, ok, effect,
    { schema_absent := by rw [effect.registry_eq]; exact fresh.schema_absent
      table_unclaimed := by rw [effect.registry_eq]; exact fresh.table_unclaimed
      indexes_unclaimed := by rw [effect.registry_eq]; exact fresh.indexes_unclaimed
      tables_absent := fun name member =>
        (effect.others name (distinct.object_ne_internal member)).trans
          (fresh.tables_absent name member)
      indexes_absent := ?_ }⟩
  intro name member
  have before := fresh.indexes_absent name member
  unfold Catalog.findIndex at before ⊢
  rwa [effect.indexes_eq]

theorem findRegisteredSchema_fresh (fresh : Fresh derived database) :
    findRegisteredSchema database derived.schema.id = .ok none := by
  have search : (database.registry.schemas.find? fun row =>
      row.collectionId = derived.schema.id) = none := by
    rw [List.find?_eq_none]
    intro row member
    have differ : row.collectionId ≠ derived.schema.id := fresh.schema_absent row member
    simpa using differ
  unfold findRegisteredSchema
  rw [search]

theorem ensureTableIsUnclaimed_fresh (fresh : Fresh derived database) :
    ensureTableIsUnclaimed derived.schema database = .ok () := by
  unfold ensureTableIsUnclaimed
  rw [if_pos]
  rw [List.countP_eq_zero]
  intro row member
  have differ : row.tableName ≠ derived.schema.table := fresh.table_unclaimed row member
  simp [differ]

/-- The state between the collection's table and its indexes. -/
structure TableDeclared (derived : DerivedCollection) (before after : Database Data) :
    Prop where
  grows : before.catalog.Grows after.catalog
  found : after.catalog.findTable derived.table =
    some ⟨derived.table, createdColumns derived⟩
  schemas_eq : after.registry.schemas =
    before.registry.schemas ++ [schemaRow derived.schema]
  indexes_eq : after.registry.indexes = before.registry.indexes
  tables_free : ∀ index ∈ derived.indexes, after.catalog.findTable index.name = none
  indexes_free : ∀ index ∈ derived.indexes, after.catalog.findIndex index.name = none

theorem table_fresh (formed : derived.WellFormed host) (distinct : DistinctNames derived)
    (fresh : Fresh derived database) (accepts : AcceptsDefinitions engine derived) :
    ∃ created declared,
      executeBatch engine derived.createTableSql database = .ok created ∧
        insertRegisteredSchema derived.schema created = .ok declared ∧
        TableDeclared derived database declared := by
  have tableObject : derived.table ∈ objectNames derived := List.mem_cons_self
  have indexObject : ∀ index ∈ derived.indexes, index.name ∈ objectNames derived :=
    fun index member => List.mem_cons_of_mem _ (List.mem_map_of_mem member)
  have columnsDiffer : ((derived.fields.map columnDefinition).map fun column =>
      foldName column.name).Nodup := by
    simpa [columnDefinition, Function.comp_def] using distinct.columns
  obtain ⟨created, createdOk⟩ := createTable_succeeds
    (fresh.indexes_absent _ (List.mem_append_left _ tableObject)) columnsDiffer
    (accepts.table database)
  have effect := createTable_effect createdOk
  obtain ⟨declared, declaredOk⟩ := (@insertRegisteredSchema_succeeds _ created)
    formed.schema_wellFormed
    (by rw [effect.registry_eq]; exact fresh.schema_absent)
    (by rw [effect.registry_eq]; exact fresh.table_unclaimed)
  obtain ⟨catalogEq, schemasEq, indexesEq, -⟩ := insertRegisteredSchema_effect declaredOk
  refine ⟨created, declared, (executeBatch_createTableSql formed database).trans createdOk,
    declaredOk, ?_⟩
  exact
    { grows := catalogEq ▸ effect.grows
      found := catalogEq ▸ effect.fresh (fresh.tables_absent _ tableObject)
      schemas_eq := effect.registry_eq ▸ schemasEq
      indexes_eq := effect.registry_eq ▸ indexesEq
      tables_free := fun index member => by
        rw [catalogEq, effect.others _ (distinct.index_ne_table member)]
        exact fresh.tables_absent _ (indexObject index member)
      indexes_free := fun index member => by
        have before := fresh.indexes_absent _
          (List.mem_append_left _ (indexObject index member))
        rw [catalogEq]
        unfold Catalog.findIndex at before ⊢
        rwa [effect.indexes_eq] }

theorem indexes_fresh {declared : Database Data} (formed : derived.WellFormed host)
    (distinct : DistinctNames derived) (fresh : Fresh derived database)
    (accepts : AcceptsDefinitions engine derived)
    (table : TableDeclared derived database declared) :
    ∃ created registered,
      createDeclaredIndexes engine derived declared = .ok created ∧
        insertRegisteredIndexes derived.schema derived.schema.indexes created =
          .ok registered ∧
        declared.catalog.Grows registered.catalog ∧
        registered.registry.schemas = declared.registry.schemas ∧
        registered.registry.indexes = database.registry.indexes ++
          derived.schema.indexes.map (indexRow derived.schema) ∧
        ∀ index ∈ derived.schema.indexes, ∃ physical,
          IndexPresent registered.catalog derived.table index physical := by
  have schemaFormed := formed.schema_wellFormed
  obtain ⟨created, ran, registryEq, -, grows, present⟩ :=
    createIndexes_fresh formed distinct.columns accepts.indexes
      (show ∀ index ∈ derived.indexes, index ∈ derived.indexes from
        fun _ member => member) distinct.indexes table.indexes_free
      table.tables_free table.found
  have createdOk : createDeclaredIndexes engine derived declared = .ok created := by
    unfold createDeclaredIndexes
    rw [if_neg]
    · exact ran
    · simp [DerivedCollection.createIndexSql, DerivedCollection.schema]
  have indexesEq : created.registry.indexes = database.registry.indexes := by
    rw [registryEq, table.indexes_eq]
  have owned : derived.schema.id ∈
      created.registry.schemas.map SchemaRow.collectionId := by
    rw [registryEq, table.schemas_eq]
    simp [schemaRow]
  have keys : (created.registry.indexes.map (fun row => (row.collectionId, row.indexId)) ++
      derived.schema.indexes.map (fun index => (derived.schema.id, index.id))).Nodup := by
    rw [indexesEq, List.nodup_append]
    refine ⟨database.registry.indexKeys_nodup, ?_, ?_⟩
    · apply List.Nodup.of_map Prod.snd
      simpa [Function.comp_def] using schemaFormed.index_ids_nodup
    · intro left leftMember right rightMember same
      obtain ⟨row, inRows, rfl⟩ := List.mem_map.mp leftMember
      obtain ⟨index, -, rfl⟩ := List.mem_map.mp rightMember
      exact database.registry.indexes_foreign fresh.schema_absent row inRows
        (congrArg Prod.fst same)
  have names : (created.registry.indexes.map IndexRow.indexName ++
      derived.schema.indexes.map IndexSchema.name).Nodup := by
    rw [indexesEq, List.nodup_append]
    refine ⟨database.registry.indexNames_nodup, schemaFormed.index_names_nodup, ?_⟩
    intro left leftMember right rightMember same
    obtain ⟨row, inRows, rfl⟩ := List.mem_map.mp leftMember
    obtain ⟨own, inOwn, rfl⟩ := List.mem_map.mp rightMember
    obtain ⟨index, member, rfl⟩ := List.mem_map.mp inOwn
    exact fresh.indexes_unclaimed row inRows index member same
  obtain ⟨registered, registeredOk⟩ := insertRegisteredIndexes_succeeds owned keys names
  obtain ⟨catalogEq, schemasEq, rowsEq, -⟩ := insertRegisteredIndexes_effect registeredOk
  refine ⟨created, registered, createdOk, registeredOk, catalogEq ▸ grows,
    registryEq ▸ schemasEq, indexesEq ▸ rowsEq, ?_⟩
  intro declaredIndex member
  obtain ⟨index, inIndexes, rfl⟩ := List.mem_map.mp member
  rw [catalogEq]
  exact present index inIndexes

/-- A fresh database takes a derived collection and holds it afterwards. -/
theorem registerBody_fresh (formed : derived.WellFormed host)
    (distinct : DistinctNames derived) (fresh : Fresh derived database)
    (accepts : AcceptsDefinitions engine derived) :
    ∃ created, registerBody engine derived database = .ok (.created, created) ∧
      Registered derived.schema created := by
  obtain ⟨initialized, initializedOk, registries, stillFresh⟩ :=
    initializeSchemaRegistries_fresh distinct fresh accepts
  obtain ⟨withTable, declared, tableOk, rowOk, table⟩ :=
    table_fresh formed distinct stillFresh accepts
  obtain ⟨withIndexes, registered, indexesOk, rowsOk, grows, schemasEq, rowsEq, present⟩ :=
    indexes_fresh formed distinct stillFresh accepts table
  have foreign : ∀ row ∈ initialized.registry.indexes,
      row.collectionId ≠ derived.schema.id :=
    initialized.registry.indexes_foreign stillFresh.schema_absent
  have isRegistered : Registered derived.schema registered :=
    { registries := fun name member =>
        findTable_isSome_of_grows (table.grows.trans grows) (registries.present name member)
      schema_row := by
        rw [schemasEq, table.schemas_eq]
        exact List.mem_append_right _ (List.mem_singleton_self _)
      index_rows := by
        rw [rowsEq, List.filter_append, List.filter_eq_nil_iff.mpr fun row member => by
            simpa using foreign row member,
          List.nil_append, List.filter_eq_self.mpr]
        intro row member
        obtain ⟨index, -, rfl⟩ := List.mem_map.mp member
        simp [indexRow]
      table_fits := ⟨⟨derived.table, createdColumns derived⟩,
        { found := grows.findTable table.found
          columns_length := by
            rw [shown_created]
            simp [createdColumns, DerivedCollection.schema]
          columns_fit := fun field member => by
            rw [shown_created]
            exact validatePhysicalColumn_created formed member }⟩
      indexes_present := present }
  refine ⟨registered, ?_, isRegistered⟩
  have tableFits := (validatePhysicalTable_ok_iff
    (fields_ne_nil_of_wellFormed formed.schema_wellFormed)).mpr isRegistered.table_fits
  have indexesPresent := validatePhysicalIndexes_ok_iff.mpr isRegistered.indexes_present
  unfold registerBody
  simp [initializedOk, findRegisteredSchema_fresh stillFresh,
    ensureTableIsUnclaimed_fresh stillFresh, tableOk, rowOk, indexesOk, rowsOk, tableFits,
    indexesPresent]

theorem registerCollection_fresh (formed : derived.WellFormed host)
    (distinct : DistinctNames derived) (fresh : Fresh derived database)
    (accepts : AcceptsDefinitions engine derived) :
    ∃ created, registerCollection engine derived database = (created, .ok .created) ∧
      Registered derived.schema created := by
  obtain ⟨created, ran, registered⟩ := registerBody_fresh formed distinct fresh accepts
  refine ⟨created, ?_, registered⟩
  unfold registerCollection
  rw [validateCollectionSchema_ok_iff.mpr formed.schema_wellFormed]
  exact transaction_ok ran (accepts.commits created)

end Fresh

end Csgdb.Registry
