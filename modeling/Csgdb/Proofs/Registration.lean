/-
Module: Csgdb.Proofs.Registration
Purpose: What it means that a collection is registered, what registering it again
  does, and that its descriptors decide it.
Trusted boundary: none
Main exports: Registered, registerCollection_registered, registerCollection_mismatch,
  Registered.of_sameDescriptors
-/
import Csgdb.Proofs.DescriptorIdentity
import Csgdb.Proofs.PhysicalSchema

namespace Csgdb.Registry

open Derive Storage Foundation

variable {Data : Type} {engine : Engine Data} {database changed : Database Data}

/-- The names of the internal tables. -/
def internalTables : List String :=
  [schemaRegistryTable, indexRegistryTable, migrationRegistryTable]

/-- The registries and the catalog hold a collection as it was declared. -/
structure Registered (schema : CollectionSchema) (database : Database Data) : Prop where
  registries : ∀ name ∈ internalTables, (database.catalog.findTable name).isSome
  schema_row : schemaRow schema ∈ database.registry.schemas
  index_rows : (database.registry.indexes.filter fun row =>
    row.collectionId = schema.id).Perm (schema.indexes.map (indexRow schema))
  table_fits : ∃ table, TableFits database.catalog schema table
  indexes_present : ∀ declared ∈ schema.indexes, ∃ index,
    IndexPresent database.catalog schema.table declared index

/-! ## Reading the registries -/

theorem createTable_idle {name : String} {columns : List Sql.ColumnDefinition}
    (exists_ : (database.catalog.findTable name).isSome) :
    createTable engine name columns database = .ok database := by
  unfold createTable
  rw [dif_neg (Option.isSome_iff_ne_none.mp exists_)]

theorem initializeSchemaRegistries_idle
    (registries : ∀ name ∈ internalTables, (database.catalog.findTable name).isSome) :
    initializeSchemaRegistries engine database = .ok database := by
  unfold initializeSchemaRegistries
  rw [createTable_idle (registries _ (by simp [internalTables])), ok_bind,
    createTable_idle (registries _ (by simp [internalTables])), ok_bind]
  exact createTable_idle (registries _ (by simp [internalTables]))

theorem findRegisteredSchema_of_mem {schema : CollectionSchema} (formed : schema.WellFormed)
    (member : schemaRow schema ∈ database.registry.schemas) :
    findRegisteredSchema database schema.id = .ok (some (schemaRow schema)) := by
  have found : (database.registry.schemas.find? fun row =>
      row.collectionId = schema.id) = some (schemaRow schema) :=
    find?_of_nodup_map database.registry.collectionIds_nodup member
  have passes : (!validName (schemaRow schema).tableName || (schemaRow schema).version == 0 ||
      (schemaRow schema).descriptor.isEmpty) = false := by
    simp [schemaRow, formed.table_valid, formed.version_ne_zero,
      formed.descriptor_ne_empty]
  unfold findRegisteredSchema
  rw [found]
  simp only [passes, Bool.false_eq_true, ↓reduceIte]

theorem findRegisteredSchema_ok_none {collectionId : String}
    (found : findRegisteredSchema database collectionId = .ok none) :
    ∀ row ∈ database.registry.schemas, row.collectionId ≠ collectionId := by
  intro row member same
  unfold findRegisteredSchema at found
  have search : (database.registry.schemas.find? fun row =>
      row.collectionId = collectionId) = some row := by
    rw [← same]
    exact find?_of_nodup_map database.registry.collectionIds_nodup member
  rw [search] at found
  have impossible := (ite_error_eq_ok_iff.mp found).2
  cases impossible

/-- The sorted rows depend only on which rows there are. -/
theorem mergeSort_indexRows_eq {first second : List IndexRow} (perm : first.Perm second)
    (ids : (second.map IndexRow.indexId).Nodup) :
    first.mergeSort indexRowLe = second.mergeSort indexRowLe := by
  have sorted : ∀ rows : List IndexRow, (rows.mergeSort indexRowLe).Pairwise
      (fun left right => indexRowLe left right = true) := by
    intro rows
    apply List.pairwise_mergeSort
    · intro one two three first second
      simp only [indexRowLe, decide_eq_true_eq] at first second ⊢
      exact le_trans first second
    · intro one two
      simpa [indexRowLe] using le_total one.indexId two.indexId
  have sortedPerm := (List.mergeSort_perm first indexRowLe).trans
    (perm.trans (List.mergeSort_perm second indexRowLe).symm)
  apply List.Perm.eq_of_pairwise ?_ (sorted first) (sorted second) sortedPerm
  intro left right leftMember rightMember below above
  simp only [indexRowLe, decide_eq_true_eq] at below above
  have leftIn := (List.mergeSort_perm second indexRowLe).mem_iff.mp
    (sortedPerm.mem_iff.mp leftMember)
  have rightIn := (List.mergeSort_perm second indexRowLe).mem_iff.mp rightMember
  exact List.inj_on_of_nodup_map ids leftIn rightIn (le_antisymm below above)

theorem indexRow_ids_nodup {schema : CollectionSchema} (formed : schema.WellFormed) :
    ((schema.indexes.map (indexRow schema)).map IndexRow.indexId).Nodup := by
  simpa [indexRow, Function.comp_def] using formed.index_ids_nodup

theorem checkIndexRow_indexRow {schema : CollectionSchema} (formed : schema.WellFormed)
    {index : IndexSchema} (member : index ∈ schema.indexes) :
    checkIndexRow (indexRow schema index) = true := by
  have indexFormed := formed.index_wellFormed index member
  simp [checkIndexRow, indexRow, indexFormed.id_valid, indexFormed.name_valid,
    indexFormed.name_unreserved, indexFormed.descriptor_ne_empty]

/-- The index registry check passes exactly when the rows of the collection are
those of its declared indexes. -/
theorem validateRegisteredIndexes_ok_iff {schema : CollectionSchema}
    (formed : schema.WellFormed) :
    validateRegisteredIndexes schema database = .ok () ↔
      (database.registry.indexes.filter fun row =>
        row.collectionId = schema.id).Perm (schema.indexes.map (indexRow schema)) := by
  unfold validateRegisteredIndexes registeredIndexes expectedIndexRows
  constructor
  · intro ok
    obtain ⟨actual, read, same⟩ := bind_eq_ok_iff.mp ok
    have rowsEq : (database.registry.indexes.filter fun row =>
        row.collectionId = schema.id).mergeSort indexRowLe =
          (schema.indexes.map (indexRow schema)).mergeSort indexRowLe := by
      dsimp only at read
      split at read
      case isTrue =>
        obtain rfl := Except.ok.inj read
        by_contra differ
        simp [differ] at same
      case isFalse => cases read
    exact (List.mergeSort_perm _ indexRowLe).symm.trans
      (rowsEq ▸ List.mergeSort_perm _ indexRowLe)
  · intro perm
    rw [mergeSort_indexRows_eq perm (indexRow_ids_nodup formed)]
    have allChecked : ((schema.indexes.map (indexRow schema)).mergeSort
        indexRowLe).all checkIndexRow = true := by
      rw [List.all_eq_true]
      intro row member
      have inRows := (List.mergeSort_perm _ indexRowLe).mem_iff.mp member
      obtain ⟨index, inIndexes, rfl⟩ := List.mem_map.mp inRows
      exact checkIndexRow_indexRow formed inIndexes
    simp [allChecked]

theorem fields_ne_nil_of_wellFormed {schema : CollectionSchema}
    (formed : schema.WellFormed) : schema.fields ≠ [] := by
  intro empty
  have counted := formed.one_primary_key
  simp [empty] at counted

/-! ## Registering again -/

theorem transaction_ok {α : Type} {body : Database Data → Result (α × Database Data)}
    {value : α} (ran : body database = .ok (value, changed))
    (committed : engine.commit changed = .ok ()) :
    transaction engine body database = (changed, .ok value) := by
  unfold transaction
  rw [ran]
  simp only [committed]

/-- What the body of a registration does to a registered collection. -/
theorem registerBody_registered {host : MacroHost} {derived : DerivedCollection}
    (formed : derived.WellFormed host) (registered : Registered derived.schema database) :
    registerBody engine derived database = .ok (.alreadyRegistered, database) := by
  have schemaFormed := formed.schema_wellFormed
  have indexesOk := (validateRegisteredIndexes_ok_iff schemaFormed).mpr
    registered.index_rows
  have tableOk := (validatePhysicalTable_ok_iff
    (fields_ne_nil_of_wellFormed schemaFormed)).mpr registered.table_fits
  have physicalOk := validatePhysicalIndexes_ok_iff.mpr registered.indexes_present
  unfold registerBody
  simp [initializeSchemaRegistries_idle registered.registries,
    findRegisteredSchema_of_mem schemaFormed registered.schema_row,
    ensureRegisteredSchemaMatches, indexesOk, tableOk, physicalOk]

/-- Registering a registered collection reports it and changes nothing. -/
theorem registerCollection_registered {host : MacroHost} {derived : DerivedCollection}
    (formed : derived.WellFormed host) (registered : Registered derived.schema database)
    (committed : engine.commit database = .ok ()) :
    registerCollection engine derived database = (database, .ok .alreadyRegistered) := by
  unfold registerCollection
  rw [validateCollectionSchema_ok_iff.mpr formed.schema_wellFormed]
  exact transaction_ok (registerBody_registered formed registered) committed

/-- Registering a type whose row differs reports the mismatch. -/
theorem registerCollection_mismatch {host : MacroHost} {derived : DerivedCollection}
    (formed : derived.WellFormed host) {other : CollectionSchema}
    (otherFormed : other.WellFormed) (sameId : derived.schema.id = other.id)
    (registered : Registered other database)
    (differ : schemaRow other ≠ schemaRow derived.schema) :
    registerCollection engine derived database = (database, .error schemaMismatch) := by
  have mismatch : registerBody engine derived database = .error schemaMismatch := by
    unfold registerBody
    simp [initializeSchemaRegistries_idle registered.registries, sameId,
      findRegisteredSchema_of_mem otherFormed registered.schema_row,
      ensureRegisteredSchemaMatches, differ]
  unfold registerCollection
  rw [validateCollectionSchema_ok_iff.mpr formed.schema_wellFormed]
  simp only [transaction, mismatch]

/-! ## Equal descriptors -/

section SameDescriptors

variable {host : MacroHost} {first second : DerivedCollection}

/-- Two types with the same schema descriptor and the same index descriptors. -/
structure SameDescriptors (first second : DerivedCollection) : Prop where
  schema_eq : first.canonical = second.canonical
  indexes_eq : ∀ text, text ∈ first.indexes.map DerivedIndex.canonical ↔
    text ∈ second.indexes.map DerivedIndex.canonical

theorem SameDescriptors.symm (same : SameDescriptors first second) :
    SameDescriptors second first :=
  ⟨same.schema_eq.symm, fun text => (same.indexes_eq text).symm⟩

/-- Indexes with one descriptor have the same metadata. -/
theorem indexSchema_eq_of_canonical_eq {collection table otherCollection otherTable : String}
    {fields otherFields : List DerivedField} {index other : DerivedIndex}
    (formed : index.WellFormed host collection table fields)
    (otherFormed : other.WellFormed host otherCollection otherTable otherFields)
    (same : index.canonical = other.canonical) :
    DerivedCollection.indexSchema index = DerivedCollection.indexSchema other := by
  obtain ⟨fieldIds, fieldIdsLength, canonical⟩ := formed.canonical_eq
  obtain ⟨otherIds, otherIdsLength, otherCanonical⟩ := otherFormed.canonical_eq
  rw [canonical, otherCanonical] at same
  obtain ⟨-, -, sameId, sameName, sameUnique, samePairs⟩ := canonicalIndex_eq_iff.mp same
  have sameColumns : index.columns = other.columns := by
    have columnsOf := congrArg (List.map Prod.snd) samePairs
    rwa [List.map_snd_zip (by omega), List.map_snd_zip (by omega)] at columnsOf
  unfold DerivedCollection.indexSchema
  rw [formed.fingerprint_eq, otherFormed.fingerprint_eq, canonical, otherCanonical, same,
    sameId, sameName, sameUnique, sameColumns]

theorem SameDescriptors.index_mem (formed : first.WellFormed host)
    (otherFormed : second.WellFormed host) (same : SameDescriptors first second)
    {index : IndexSchema} (member : index ∈ second.schema.indexes) :
    index ∈ first.schema.indexes := by
  obtain ⟨other, inSecond, rfl⟩ := List.mem_map.mp member
  obtain ⟨own, inFirst, sameText⟩ := List.mem_map.mp
    ((same.indexes_eq other.canonical).mpr (List.mem_map_of_mem inSecond))
  rw [← indexSchema_eq_of_canonical_eq (formed.index_wellFormed own inFirst)
    (otherFormed.index_wellFormed other inSecond) sameText]
  exact List.mem_map_of_mem inFirst

theorem SameDescriptors.indexes_perm (formed : first.WellFormed host)
    (otherFormed : second.WellFormed host) (same : SameDescriptors first second) :
    first.schema.indexes.Perm second.schema.indexes := by
  apply (List.perm_ext_iff_of_nodup
    (List.Nodup.of_map _ formed.schema_wellFormed.index_ids_nodup)
    (List.Nodup.of_map _ otherFormed.schema_wellFormed.index_ids_nodup)).mpr
  intro index
  exact ⟨same.symm.index_mem otherFormed formed, same.index_mem formed otherFormed⟩

/-- Everything that registration compares is a function of the descriptors. -/
theorem Registered.of_sameDescriptors (formed : first.WellFormed host)
    (otherFormed : second.WellFormed host) (same : SameDescriptors first second)
    (registered : Registered first.schema database) :
    Registered second.schema database := by
  have sameText := same.schema_eq
  rw [formed.canonical_eq, otherFormed.canonical_eq] at sameText
  obtain ⟨sameCollection, sameTable, sameVersion, sameFields⟩ :=
    (canonicalSchema_eq_iff formed.ids_nodup otherFormed.ids_nodup).mp sameText
  have rowEq : schemaRow first.schema = schemaRow second.schema := by
    simp only [schemaRow, DerivedCollection.schema, sameCollection, sameTable,
      sameVersion, same.schema_eq, formed.fingerprint_eq, otherFormed.fingerprint_eq]
  have idEq : first.schema.id = second.schema.id := sameCollection
  have tableEq : first.schema.table = second.schema.table := sameTable
  have indexRowEq : indexRow first.schema = indexRow second.schema := by
    funext index
    simp only [indexRow, idEq]
  have fieldsPerm : first.schema.fields.Perm second.schema.fields :=
    (List.perm_ext_iff_of_nodup
      (List.Nodup.of_map _ formed.schema_wellFormed.ids_nodup)
      (List.Nodup.of_map _ otherFormed.schema_wellFormed.ids_nodup)).mpr sameFields
  obtain ⟨table, fits⟩ := registered.table_fits
  exact
    { registries := registered.registries
      schema_row := rowEq ▸ registered.schema_row
      index_rows := by
        have rows := registered.index_rows
        rw [idEq, indexRowEq] at rows
        exact rows.trans ((same.indexes_perm formed otherFormed).map _)
      table_fits := ⟨table,
        { found := tableEq ▸ fits.found
          columns_length := fits.columns_length.trans fieldsPerm.length_eq
          columns_fit := fun field member =>
            fits.columns_fit field (fieldsPerm.mem_iff.mpr member) }⟩
      indexes_present := by
        intro declared member
        rw [← tableEq]
        exact registered.indexes_present declared
          (same.index_mem formed otherFormed member) }

end SameDescriptors

/-! ## Effects on the registries -/

/-- An unknown collection owns no row of the index registry. -/
theorem RegistryRows.indexes_foreign (registry : RegistryRows) {collectionId : String}
    (unknown : ∀ row ∈ registry.schemas, row.collectionId ≠ collectionId) :
    ∀ row ∈ registry.indexes, row.collectionId ≠ collectionId := by
  intro row member same
  obtain ⟨owner, inSchemas, ownerId⟩ := List.mem_map.mp (registry.indexes_owned row member)
  exact unknown owner inSchemas (ownerId.trans same)

theorem RegistryRows.ofLists_effect {schemas : List SchemaRow} {indexes : List IndexRow}
    {migrations : List MigrationRow} {registry : RegistryRows}
    (ok : RegistryRows.ofLists schemas indexes migrations = .ok registry) :
    registry.schemas = schemas ∧ registry.indexes = indexes ∧
      registry.migrations = migrations := by
  unfold RegistryRows.ofLists at ok
  split at ok
  case isTrue =>
    obtain rfl := Except.ok.inj ok
    exact ⟨rfl, rfl, rfl⟩
  case isFalse => cases ok

theorem insertRegisteredSchema_effect {schema : CollectionSchema}
    (ok : insertRegisteredSchema schema database = .ok changed) :
    changed.catalog = database.catalog ∧
      changed.registry.schemas = database.registry.schemas ++ [schemaRow schema] ∧
      changed.registry.indexes = database.registry.indexes ∧
      changed.registry.migrations = database.registry.migrations := by
  obtain ⟨registry, read, same⟩ := bind_eq_ok_iff.mp ok
  obtain rfl := Except.ok.inj same
  exact ⟨rfl, RegistryRows.ofLists_effect read⟩

theorem insertRegisteredIndexes_effect {schema : CollectionSchema}
    {indexes : List IndexSchema}
    (ok : insertRegisteredIndexes schema indexes database = .ok changed) :
    changed.catalog = database.catalog ∧
      changed.registry.schemas = database.registry.schemas ∧
      changed.registry.indexes =
        database.registry.indexes ++ indexes.map (indexRow schema) ∧
      changed.registry.migrations = database.registry.migrations := by
  induction indexes generalizing database with
  | nil =>
      obtain rfl := Except.ok.inj ok
      simp
  | cons index rest inductionHypothesis =>
      obtain ⟨registry, read, more⟩ := bind_eq_ok_iff.mp ok
      obtain ⟨schemasEq, indexesEq, migrationsEq⟩ := RegistryRows.ofLists_effect read
      obtain ⟨catalogEq, schemasEq', indexesEq', migrationsEq'⟩ := inductionHypothesis more
      refine ⟨catalogEq, schemasEq'.trans schemasEq, ?_, migrationsEq'.trans migrationsEq⟩
      rw [indexesEq', indexesEq, List.map_cons, List.append_assoc, List.singleton_append]

/-- Rows of a collection that has none can be added when no key repeats. -/
theorem insertRegisteredIndexes_succeeds {schema : CollectionSchema}
    {indexes : List IndexSchema}
    (owned : schema.id ∈ database.registry.schemas.map SchemaRow.collectionId)
    (keys : (database.registry.indexes.map (fun row => (row.collectionId, row.indexId)) ++
      indexes.map (fun index => (schema.id, index.id))).Nodup)
    (names : (database.registry.indexes.map IndexRow.indexName ++
      indexes.map IndexSchema.name).Nodup) :
    ∃ inserted, insertRegisteredIndexes schema indexes database = .ok inserted := by
  induction indexes generalizing database with
  | nil => exact ⟨_, rfl⟩
  | cons index rest inductionHypothesis =>
      have keysHead : ((database.registry.indexes ++ [indexRow schema index]).map
          (fun row => (row.collectionId, row.indexId)) ++
            rest.map (fun index => (schema.id, index.id))).Nodup := by
        simpa [indexRow] using keys
      have namesHead : ((database.registry.indexes ++ [indexRow schema index]).map
          IndexRow.indexName ++ rest.map IndexSchema.name).Nodup := by
        simpa [indexRow] using names
      have ownedAll : ∀ row ∈ database.registry.indexes ++ [indexRow schema index],
          row.collectionId ∈ database.registry.schemas.map SchemaRow.collectionId := by
        intro row member
        rcases List.mem_append.mp member with old | new
        · exact database.registry.indexes_owned row old
        · obtain rfl := List.mem_singleton.mp new
          exact owned
      unfold insertRegisteredIndexes RegistryRows.ofLists
      split
      case isTrue => exact inductionHypothesis owned keysHead namesHead
      case isFalse invalid =>
        exact absurd ⟨database.registry.collectionIds_nodup,
          database.registry.tableNames_nodup, (List.nodup_append.mp keysHead).1,
          (List.nodup_append.mp namesHead).1, ownedAll,
          database.registry.migrationKeys_nodup, database.registry.migrations_owned,
          database.registry.versions_positive,
          database.registry.migrations_increase⟩ invalid

theorem insertRegisteredSchema_succeeds {schema : CollectionSchema}
    (formed : schema.WellFormed)
    (newId : ∀ row ∈ database.registry.schemas, row.collectionId ≠ schema.id)
    (newTable : ∀ row ∈ database.registry.schemas, row.tableName ≠ schema.table) :
    ∃ inserted, insertRegisteredSchema schema database = .ok inserted := by
  have ids : ((database.registry.schemas ++ [schemaRow schema]).map
      SchemaRow.collectionId).Nodup := by
    rw [List.map_append, List.nodup_append]
    refine ⟨database.registry.collectionIds_nodup, by simp, ?_⟩
    intro left leftMember right rightMember same
    obtain ⟨row, inRows, rfl⟩ := List.mem_map.mp leftMember
    exact newId row inRows (same.trans (by simpa [schemaRow] using rightMember))
  have tables : ((database.registry.schemas ++ [schemaRow schema]).map
      SchemaRow.tableName).Nodup := by
    rw [List.map_append, List.nodup_append]
    refine ⟨database.registry.tableNames_nodup, by simp, ?_⟩
    intro left leftMember right rightMember same
    obtain ⟨row, inRows, rfl⟩ := List.mem_map.mp leftMember
    exact newTable row inRows (same.trans (by simpa [schemaRow] using rightMember))
  have owned : ∀ {collectionId : String},
      collectionId ∈ database.registry.schemas.map SchemaRow.collectionId →
        collectionId ∈ (database.registry.schemas ++ [schemaRow schema]).map
          SchemaRow.collectionId := by
    intro collectionId member
    rw [List.map_append]
    exact List.mem_append_left _ member
  have versions : ∀ row ∈ database.registry.schemas ++ [schemaRow schema],
      row.version ≠ 0 := by
    intro row member
    rcases List.mem_append.mp member with old | new
    · exact database.registry.versions_positive row old
    · obtain rfl := List.mem_singleton.mp new
      exact formed.version_ne_zero
  unfold insertRegisteredSchema RegistryRows.ofLists
  split
  case isTrue => exact ⟨_, rfl⟩
  case isFalse invalid =>
    exact absurd ⟨ids, tables, database.registry.indexKeys_nodup,
      database.registry.indexNames_nodup,
      fun row member => owned (database.registry.indexes_owned row member),
      database.registry.migrationKeys_nodup,
      fun row member => owned (database.registry.migrations_owned row member), versions,
      database.registry.migrations_increase⟩ invalid

end Csgdb.Registry
