/-
Module: Csgdb.Proofs.Migration
Purpose: What an applied migration leaves behind, and that neither registrations
  nor migrations disturb the other collections.
Trusted boundary: none
Main exports: Migrated, migrateCollection_applied, Later, Later.registered,
  registration_and_migration_sound
-/
import Csgdb.Proofs.FreshRegistration

namespace Csgdb.Registry

open Derive Storage Foundation

variable {Data : Type} {engine : Engine Data} {database changed : Database Data}
variable {host : MacroHost} {source target derived : DerivedCollection}

/-! ## Replacing the declared indexes -/

/-- Only the indexes that are not retained are dropped. -/
theorem dropReplacedIndexes_effect {schema : CollectionSchema} :
    ∀ {olds : List IndexSchema} {database changed : Database Data},
      (∀ old ∈ olds, validName old.name = true) →
      dropReplacedIndexes engine schema olds database = .ok changed →
        changed.registry = database.registry ∧
          changed.catalog.tables = database.catalog.tables ∧
          ∀ index, index ∈ changed.catalog.indexes ↔ index ∈ database.catalog.indexes ∧
            ∀ old ∈ olds, retained schema old = false →
              foldName index.name ≠ foldName old.name
  | [], database, changed, _, ok => by
      obtain rfl := Except.ok.inj ok
      simp
  | old :: rest, database, changed, valid, ok => by
      rw [List.forall_mem_cons] at valid
      unfold dropReplacedIndexes at ok
      split at ok
      case isTrue kept =>
        obtain ⟨registryEq, tablesEq, indexes⟩ := dropReplacedIndexes_effect valid.2 ok
        refine ⟨registryEq, tablesEq, fun index => ?_⟩
        rw [indexes index, List.forall_mem_cons]
        simp [kept]
      case isFalse dropped =>
        obtain ⟨next, dropOk, more⟩ := bind_eq_ok_iff.mp ok
        rw [executeBatch_dropIndexSql valid.1] at dropOk
        obtain ⟨registryOne, tablesOne, indexesOne⟩ := dropIndex_effect dropOk
        obtain ⟨registryEq, tablesEq, indexes⟩ := dropReplacedIndexes_effect valid.2 more
        refine ⟨registryEq.trans registryOne, tablesEq.trans tablesOne, fun index => ?_⟩
        have isDropped : retained schema old = false := by simpa using dropped
        rw [indexes index, indexesOne index, List.forall_mem_cons]
        simp [isDropped, and_assoc]

/-- Creating declared indexes only adds indexes of declared names. -/
theorem executeBatches_createIndexSql_effect (formed : derived.WellFormed host) :
    ∀ {indexes : List DerivedIndex} {database changed : Database Data},
      (∀ index ∈ indexes, index ∈ derived.indexes) →
      executeBatches engine (indexes.map (createIndexSql (quoteIdentifier derived.table)))
          database = .ok changed →
        changed.registry = database.registry ∧
          changed.catalog.tables = database.catalog.tables ∧
          database.catalog.Grows changed.catalog ∧
          ∀ physical ∈ changed.catalog.indexes, physical ∈ database.catalog.indexes ∨
            ∃ index ∈ indexes, physical.name = index.name
  | [], database, changed, _, ok => by
      obtain rfl := Except.ok.inj ok
      exact ⟨rfl, rfl, .refl _, fun _ member => .inl member⟩
  | index :: rest, database, changed, declared, ok => by
      rw [List.forall_mem_cons] at declared
      obtain ⟨next, createOk, more⟩ := bind_eq_ok_iff.mp ok
      rw [executeBatch_createIndexSql formed declared.1] at createOk
      have effect := createIndex_effect createOk
      obtain ⟨registryEq, tablesEq, grows, created⟩ :=
        executeBatches_createIndexSql_effect formed declared.2 more
      refine ⟨registryEq.trans effect.registry_eq, tablesEq.trans effect.tables_eq,
        effect.grows.trans grows, fun physical member => ?_⟩
      rcases created physical member with old | ⟨other, inRest, named⟩
      · rcases effect.created physical old with older | named
        · exact .inl older
        · exact .inr ⟨index, List.mem_cons_self, named⟩
      · exact .inr ⟨other, List.mem_cons_of_mem _ inRest, named⟩

/-- Creating the declared indexes adds them and leaves the tables and the registries. -/
theorem createDeclaredIndexes_effect (formed : derived.WellFormed host)
    (ok : createDeclaredIndexes engine derived database = .ok changed) :
    changed.registry = database.registry ∧
      changed.catalog.tables = database.catalog.tables ∧
      database.catalog.Grows changed.catalog ∧
      ∀ physical ∈ changed.catalog.indexes, physical ∈ database.catalog.indexes ∨
        ∃ index ∈ derived.schema.indexes, physical.name = index.name := by
  unfold createDeclaredIndexes at ok
  obtain ⟨-, ran⟩ := ite_error_eq_ok_iff.mp ok
  obtain ⟨registryEq, tablesEq, grows, created⟩ :=
    executeBatches_createIndexSql_effect formed (fun _ member => member) ran
  refine ⟨registryEq, tablesEq, grows, fun physical member => ?_⟩
  rcases created physical member with old | ⟨index, inIndexes, named⟩
  · exact .inl old
  · exact .inr ⟨_, List.mem_map_of_mem inIndexes, named⟩

/-- What index replacement does to the catalog. -/
structure IndexesReplaced (source target : CollectionSchema)
    (before after : Database Data) : Prop where
  registry_eq : after.registry = before.registry
  tables_eq : after.catalog.tables = before.catalog.tables
  kept : ∀ physical ∈ before.catalog.indexes,
    (∀ old ∈ source.indexes, foldName physical.name ≠ foldName old.name) →
      physical ∈ after.catalog.indexes
  replaced : ∀ old ∈ source.indexes, retained target old = false →
    ∀ physical ∈ after.catalog.indexes, foldName physical.name = foldName old.name →
      ∃ new ∈ target.indexes, physical.name = new.name

/-- The indexes of the source make room for those of the target. -/
theorem replaceDeclaredIndexes_effect (sourceFormed : source.WellFormed host)
    (targetFormed : target.WellFormed host)
    (ok : replaceDeclaredIndexes engine source target database = .ok changed) :
    IndexesReplaced source.schema target.schema database changed := by
  obtain ⟨dropped, dropOk, createOk⟩ := bind_eq_ok_iff.mp ok
  have valid : ∀ old ∈ source.schema.indexes, validName old.name = true :=
    fun old member =>
      (sourceFormed.schema_wellFormed.index_wellFormed old member).name_valid
  obtain ⟨registryDrop, tablesDrop, indexesDrop⟩ := dropReplacedIndexes_effect valid dropOk
  obtain ⟨registryCreate, tablesCreate, grows, created⟩ :=
    createDeclaredIndexes_effect targetFormed createOk
  refine
    { registry_eq := registryCreate.trans registryDrop
      tables_eq := tablesCreate.trans tablesDrop
      kept := ?_
      replaced := ?_ }
  · intro physical member apart
    exact grows.indexes ((indexesDrop physical).mpr
      ⟨member, fun old inOlds _ => apart old inOlds⟩)
  · intro old inOlds notRetained physical member same
    rcases created physical member with stale | new
    · exact absurd same (((indexesDrop physical).mp stale).2 old inOlds notRetained)
    · exact new

/-! ## Registry updates of a migration -/

/-- Only the row of the collection is rewritten. -/
theorem updateRegisteredSchema_effect {schema : CollectionSchema}
    (ok : updateRegisteredSchema schema database = .ok changed) :
    changed.catalog = database.catalog ∧
      changed.registry.schemas = (database.registry.schemas.map fun row =>
        if row.collectionId = schema.id then schemaRow schema else row) ∧
      changed.registry.indexes = database.registry.indexes ∧
      changed.registry.migrations = database.registry.migrations ∧
      schemaRow schema ∈ changed.registry.schemas := by
  obtain ⟨registry, read, counted⟩ := bind_eq_ok_iff.mp ok
  obtain ⟨schemasEq, indexesEq, migrationsEq⟩ := RegistryRows.ofLists_effect read
  split at counted
  case isFalse => cases counted
  case isTrue one =>
    obtain rfl := Except.ok.inj counted
    refine ⟨rfl, schemasEq, indexesEq, migrationsEq, ?_⟩
    obtain ⟨row, member, isRow⟩ := List.countP_pos_iff.mp (one ▸ Nat.one_pos)
    simp only [schemasEq]
    exact List.mem_map.mpr ⟨row, member, if_pos (by simpa using isRow)⟩

/-- The index rows of the collection are replaced by those of the target. -/
theorem replaceRegisteredIndexes_effect {schema : CollectionSchema}
    (ok : replaceRegisteredIndexes schema database = .ok changed) :
    changed.catalog = database.catalog ∧
      changed.registry.schemas = database.registry.schemas ∧
      changed.registry.indexes =
        (database.registry.indexes.filter fun row => row.collectionId ≠ schema.id) ++
          schema.indexes.map (indexRow schema) ∧
      changed.registry.migrations = database.registry.migrations := by
  obtain ⟨registry, read, more⟩ := bind_eq_ok_iff.mp ok
  obtain ⟨schemasEq, indexesEq, migrationsEq⟩ := RegistryRows.ofLists_effect read
  obtain ⟨catalogEq, schemasEq', indexesEq', migrationsEq'⟩ :=
    insertRegisteredIndexes_effect more
  exact ⟨catalogEq, schemasEq'.trans schemasEq, by rw [indexesEq', indexesEq],
    migrationsEq'.trans migrationsEq⟩

/-- The history grows at its end. -/
theorem insertMigration_effect {migrationId : String} {before after : CollectionSchema}
    (ok : insertMigration migrationId before after database = .ok changed) :
    changed.catalog = database.catalog ∧
      changed.registry.schemas = database.registry.schemas ∧
      changed.registry.indexes = database.registry.indexes ∧
      changed.registry.migrations =
        database.registry.migrations ++ [migrationRow migrationId before after] := by
  obtain ⟨registry, read, same⟩ := bind_eq_ok_iff.mp ok
  obtain rfl := Except.ok.inj same
  obtain ⟨schemasEq, indexesEq, migrationsEq⟩ := RegistryRows.ofLists_effect read
  exact ⟨rfl, schemasEq, indexesEq, migrationsEq⟩

/-! ## An applied migration -/

/-- Everything an applied migration checked and did, around the state that its
callback left. -/
structure MigrationApplied (source target : CollectionSchema)
    (before moved after : Database Data) : Prop where
  source_row : schemaRow source ∈ before.registry.schemas
  source_index_rows : (before.registry.indexes.filter fun row =>
    row.collectionId = source.id).Perm (source.indexes.map (indexRow source))
  source_indexes : ∀ declared ∈ source.indexes, ∃ index,
    IndexPresent before.catalog source.table declared index
  table_fits : ∃ table, TableFits moved.catalog target table
  tables_eq : after.catalog.tables = moved.catalog.tables
  kept : ∀ physical ∈ moved.catalog.indexes,
    (∀ old ∈ source.indexes, foldName physical.name ≠ foldName old.name) →
      physical ∈ after.catalog.indexes
  replaced : ∀ old ∈ source.indexes, retained target old = false →
    ∀ physical ∈ after.catalog.indexes, foldName physical.name = foldName old.name →
      ∃ new ∈ target.indexes, physical.name = new.name
  indexes_present : ∀ declared ∈ target.indexes, ∃ index,
    IndexPresent after.catalog target.table declared index
  schema_row : schemaRow target ∈ after.registry.schemas
  other_rows : ∀ row ∈ moved.registry.schemas, row.collectionId ≠ target.id →
    row ∈ after.registry.schemas
  index_rows : after.registry.indexes =
    (moved.registry.indexes.filter fun row => row.collectionId ≠ target.id) ++
      target.indexes.map (indexRow target)

theorem orMigrationMismatch_ok_iff {α : Type} {result : Result α} {value : α} :
    orMigrationMismatch result = .ok value ↔ result = .ok value := by
  cases result with
  | ok other => rfl
  | error failure => simp [orMigrationMismatch]

theorem currentSchema_mem {collectionId : String} {row : SchemaRow}
    (ok : currentSchema database collectionId = .ok row) :
    row ∈ database.registry.schemas := by
  obtain ⟨found, read, same⟩ := bind_eq_ok_iff.mp ok
  cases found with
  | none => cases same
  | some other =>
      obtain rfl := Except.ok.inj same
      unfold findRegisteredSchema at read
      split at read
      case h_1 => cases read
      case h_2 stored search =>
        obtain ⟨-, sameRow⟩ := ite_error_eq_ok_iff.mp read
        obtain rfl := Option.some.inj (Except.ok.inj sameRow)
        exact List.mem_of_find?_eq_some search

/-- A migration that was applied has run its operation first. -/
theorem applyMigration_effect {migrationId : String}
    {operation : Database Data → Result (Database Data)}
    (sourceFormed : source.WellFormed host) (targetFormed : target.WellFormed host)
    (ok : applyMigration engine migrationId source target operation database =
      .ok changed) :
    ∃ moved, operation database = .ok moved ∧
      MigrationApplied source.schema target.schema database moved changed := by
  unfold applyMigration at ok
  obtain ⟨current, currentOk, ok⟩ := bind_eq_ok_iff.mp ok
  obtain ⟨⟨⟩, matchesOk, ok⟩ := bind_eq_ok_iff.mp ok
  obtain ⟨⟨⟩, rowsOk, ok⟩ := bind_eq_ok_iff.mp ok
  obtain ⟨⟨⟩, -, ok⟩ := bind_eq_ok_iff.mp ok
  obtain ⟨⟨⟩, sourceOk, ok⟩ := bind_eq_ok_iff.mp ok
  obtain ⟨moved, operationOk, ok⟩ := bind_eq_ok_iff.mp ok
  obtain ⟨⟨⟩, -, ok⟩ := bind_eq_ok_iff.mp ok
  obtain ⟨⟨⟩, tableOk, ok⟩ := bind_eq_ok_iff.mp ok
  obtain ⟨replaced, replaceOk, ok⟩ := bind_eq_ok_iff.mp ok
  obtain ⟨⟨⟩, indexesOk, ok⟩ := bind_eq_ok_iff.mp ok
  obtain ⟨updated, updateOk, ok⟩ := bind_eq_ok_iff.mp ok
  obtain ⟨reindexed, reindexOk, insertOk⟩ := bind_eq_ok_iff.mp ok
  have currentRow : current = schemaRow source.schema := by
    have matched := orMigrationMismatch_ok_iff.mp matchesOk
    unfold ensureRegisteredSchemaMatches at matched
    by_contra differ
    simp [differ] at matched
  have effect := replaceDeclaredIndexes_effect sourceFormed targetFormed replaceOk
  obtain ⟨catalogUpdated, schemasUpdated, indexesUpdated, -, rowUpdated⟩ :=
    updateRegisteredSchema_effect updateOk
  obtain ⟨catalogReindexed, schemasReindexed, indexesReindexed, -⟩ :=
    replaceRegisteredIndexes_effect reindexOk
  obtain ⟨catalogInserted, schemasInserted, indexesInserted, -⟩ :=
    insertMigration_effect insertOk
  have catalogEq : changed.catalog = replaced.catalog :=
    catalogInserted.trans (catalogReindexed.trans catalogUpdated)
  have schemasEq : changed.registry.schemas = updated.registry.schemas :=
    schemasInserted.trans schemasReindexed
  refine ⟨moved, operationOk, ?_⟩
  exact
    { source_row := currentRow ▸ currentSchema_mem currentOk
      source_index_rows := (validateRegisteredIndexes_ok_iff
        sourceFormed.schema_wellFormed).mp (orMigrationMismatch_ok_iff.mp rowsOk)
      source_indexes := validatePhysicalIndexes_ok_iff.mp sourceOk
      table_fits := (validatePhysicalTable_ok_iff
        (fields_ne_nil_of_wellFormed targetFormed.schema_wellFormed)).mp tableOk
      tables_eq := catalogEq ▸ effect.tables_eq
      kept := catalogEq ▸ effect.kept
      replaced := catalogEq ▸ effect.replaced
      indexes_present := catalogEq ▸ validatePhysicalIndexes_ok_iff.mp indexesOk
      schema_row := schemasEq ▸ rowUpdated
      other_rows := by
        intro row member other
        rw [schemasEq, schemasUpdated, effect.registry_eq]
        exact List.mem_map.mpr ⟨row, member, if_neg other⟩
      index_rows := by
        rw [indexesInserted, indexesReindexed, indexesUpdated, effect.registry_eq] }

/-- A callback that does not touch the internal tables. -/
structure LeavesRegistries (operation : Database Data → Result (Database Data)) :
    Prop where
  registry_eq : ∀ {before after}, operation before = .ok after →
    after.registry = before.registry
  tables_eq : ∀ {before after}, operation before = .ok after →
    ∀ name ∈ internalTables,
      after.catalog.findTable name = before.catalog.findTable name

theorem findTable_eq_of_tables_eq {first second : Catalog}
    (same : first.tables = second.tables) (name : String) :
    first.findTable name = second.findTable name := by
  unfold Catalog.findTable
  rw [same]

/-- After a migration its target is registered. -/
theorem MigrationApplied.registered {origin onto : CollectionSchema}
    {before moved after : Database Data}
    (applied : MigrationApplied origin onto before moved after)
    (registries : ∀ name ∈ internalTables, (moved.catalog.findTable name).isSome) :
    Registered onto after := by
  obtain ⟨table, fits⟩ := applied.table_fits
  exact
    { registries := fun name member => by
        rw [findTable_eq_of_tables_eq applied.tables_eq]
        exact registries name member
      schema_row := applied.schema_row
      index_rows := by
        have dropped : ((moved.registry.indexes.filter fun row =>
            row.collectionId ≠ onto.id).filter fun row => row.collectionId = onto.id) =
              [] := by
          rw [List.filter_eq_nil_iff]
          intro row member
          simpa using (List.mem_filter.mp member).2
        rw [applied.index_rows, List.filter_append, dropped, List.nil_append,
          List.filter_eq_self.mpr]
        intro row member
        obtain ⟨index, -, rfl⟩ := List.mem_map.mp member
        simp [indexRow]
      table_fits := ⟨table, { fits with
        found := (findTable_eq_of_tables_eq applied.tables_eq _).trans fits.found }⟩
      indexes_present := applied.indexes_present }

/-- A transaction that reports a value has run and committed. -/
theorem transaction_eq_ok {α : Type} {body : Database Data → Result (α × Database Data)}
    {value : α} (ok : transaction engine body database = (changed, .ok value)) :
    body database = .ok (value, changed) ∧ engine.commit changed = .ok () := by
  unfold transaction at ok
  split at ok
  case h_1 => cases (Prod.mk.inj ok).2
  case h_2 other next ran =>
    split at ok
    case h_1 => cases (Prod.mk.inj ok).2
    case h_2 committed =>
      obtain ⟨rfl, same⟩ := Prod.mk.inj ok
      obtain rfl := Except.ok.inj same
      exact ⟨ran, committed⟩

/-- What holds before a transaction and after its body holds after it. -/
theorem transaction_keeps {α : Type} {body : Database Data → Result (α × Database Data)}
    {property : Database Data → Prop} (before : property database)
    (kept : ∀ value next, body database = .ok (value, next) → property next) :
    property (transaction engine body database).1 := by
  unfold transaction
  split
  case h_1 => exact before
  case h_2 value next ran =>
    split
    case h_1 => exact before
    case h_2 => exact kept value next ran

/-- A migration that passed the checks goes to a later version of its collection. -/
theorem validateMigration_ok {source target : CollectionSchema} {migrationId : String}
    (ok : validateMigration source target migrationId = .ok ()) :
    source.id = target.id ∧ source.fingerprint ≠ target.fingerprint ∧
      source.version < target.version ∧ target.WellFormed := by
  obtain ⟨⟨⟩, -, ok⟩ := bind_eq_ok_iff.mp ok
  obtain ⟨⟨⟩, targetOk, ok⟩ := bind_eq_ok_iff.mp ok
  obtain ⟨checked, -⟩ := ite_error_eq_ok_iff.mp ok
  simp only [Bool.or_eq_true, not_or, bne_iff_ne, ne_eq, not_not, beq_iff_eq,
    decide_eq_true_eq, UInt32.not_le] at checked
  exact ⟨checked.1.1.2, checked.2, checked.1.2, validateCollectionSchema_ok_iff.mp targetOk⟩

/-- The inversion of an applied migration. -/
theorem migrateCollection_applied {migrationId : String}
    {operation : Database Data → Result (Database Data)}
    (sourceFormed : source.WellFormed host) (targetFormed : target.WellFormed host)
    (leaves : LeavesRegistries operation)
    (ok : migrateCollection engine migrationId source target operation database =
      (changed, .ok .applied)) :
    source.schema.id = target.schema.id ∧
      source.schema.fingerprint ≠ target.schema.fingerprint ∧
      engine.commit changed = .ok () ∧ Registered target.schema changed ∧
      ∃ before moved,
        MigrationApplied source.schema target.schema before moved changed := by
  unfold migrateCollection at ok
  split at ok
  case h_1 => cases (Prod.mk.inj ok).2
  case h_2 validated =>
    obtain ⟨sameId, differ, -⟩ := validateMigration_ok validated
    obtain ⟨ran, committed⟩ := transaction_eq_ok ok
    obtain ⟨initialized, initializedOk, ran⟩ := bind_eq_ok_iff.mp ran
    have registries := initializeSchemaRegistries_effect initializedOk
    split at ran
    case h_1 =>
      obtain ⟨⟨⟩, -, same⟩ := bind_eq_ok_iff.mp ran
      cases (Prod.mk.inj (Except.ok.inj same)).1
    case h_2 =>
      obtain ⟨final, appliedOk, same⟩ := bind_eq_ok_iff.mp ran
      obtain rfl := (Prod.mk.inj (Except.ok.inj same)).2
      obtain ⟨moved, movedOk, applied⟩ :=
        applyMigration_effect sourceFormed targetFormed appliedOk
      refine ⟨sameId, differ, committed, applied.registered ?_, _, _, applied⟩
      intro name member
      rw [leaves.tables_eq movedOk name member]
      exact registries.present name member

/-! ## Other collections -/

/-- A change that keeps the tables, the physical indexes of the declared names and
the registry rows of a collection keeps it registered. -/
theorem Registered.transport {schema : CollectionSchema} {before after : Database Data}
    (registered : Registered schema before)
    (tables : before.catalog.tables ⊆ after.catalog.tables)
    (indexes : ∀ physical ∈ before.catalog.indexes, ∀ declared ∈ schema.indexes,
      physical.name = declared.name → physical ∈ after.catalog.indexes)
    (row : schemaRow schema ∈ after.registry.schemas)
    (rows : (after.registry.indexes.filter fun row => row.collectionId = schema.id) =
      before.registry.indexes.filter fun row => row.collectionId = schema.id) :
    Registered schema after := by
  have found : ∀ {name : String} {table : PhysicalTable},
      before.catalog.findTable name = some table →
        after.catalog.findTable name = some table := by
    intro name table search
    obtain ⟨member, same⟩ := Catalog.mem_of_findTable search
    exact Catalog.findTable_of_mem (tables member) same
  obtain ⟨table, fits⟩ := registered.table_fits
  exact
    { registries := fun name member => by
        obtain ⟨internal, search⟩ :=
          Option.isSome_iff_exists.mp (registered.registries name member)
        rw [found search]
        rfl
      schema_row := row
      index_rows := rows ▸ registered.index_rows
      table_fits := ⟨table, { fits with found := found fits.found }⟩
      indexes_present := fun declared member => by
        obtain ⟨physical, present⟩ := registered.indexes_present declared member
        exact ⟨physical, present.grow
          (indexes physical present.member declared member present.name_eq)⟩ }

theorem filter_foreign_rows {schema other : CollectionSchema} (differ : other.id ≠ schema.id) :
    ((other.indexes.map (indexRow other)).filter fun row =>
      row.collectionId = schema.id) = [] := by
  rw [List.filter_eq_nil_iff]
  intro row member
  obtain ⟨index, -, rfl⟩ := List.mem_map.mp member
  rw [decide_eq_true_eq]
  exact differ

/-- The indexes of two registered collections have different names, also under the
engine's comparison. -/
theorem Registered.index_ne_foreign {schema other : CollectionSchema}
    (registered : Registered schema database)
    (otherRows : (database.registry.indexes.filter fun row =>
      row.collectionId = other.id).Perm (other.indexes.map (indexRow other)))
    (otherPresent : ∀ declared ∈ other.indexes, ∃ index,
      IndexPresent database.catalog other.table declared index)
    (differ : other.id ≠ schema.id) {own foreign : IndexSchema}
    (ownMember : own ∈ schema.indexes) (foreignMember : foreign ∈ other.indexes) :
    foldName own.name ≠ foldName foreign.name := by
  intro sameFold
  obtain ⟨ownIndex, ownPresent⟩ := registered.indexes_present own ownMember
  obtain ⟨foreignIndex, foreignPresent⟩ := otherPresent foreign foreignMember
  have sameIndex : ownIndex = foreignIndex :=
    List.inj_on_of_nodup_map database.catalog.indexes_nodup ownPresent.member
      foreignPresent.member (by rw [ownPresent.name_eq, foreignPresent.name_eq, sameFold])
  have sameName : own.name = foreign.name := by
    rw [← ownPresent.name_eq, sameIndex, foreignPresent.name_eq]
  have ownRow : indexRow schema own ∈ database.registry.indexes :=
    (List.mem_filter.mp (registered.index_rows.mem_iff.mpr
      (List.mem_map_of_mem ownMember))).1
  have foreignRow : indexRow other foreign ∈ database.registry.indexes :=
    (List.mem_filter.mp (otherRows.mem_iff.mpr (List.mem_map_of_mem foreignMember))).1
  have sameRow := List.inj_on_of_nodup_map database.registry.indexNames_nodup ownRow
    foreignRow sameName
  exact differ (congrArg IndexRow.collectionId sameRow).symm

/-- Registering another type keeps a registered collection. -/
theorem registerCollection_keeps {schema : CollectionSchema}
    (otherFormed : derived.WellFormed host) (registered : Registered schema database) :
    Registered schema (registerCollection engine derived database).1 := by
  unfold registerCollection
  rw [validateCollectionSchema_ok_iff.mpr otherFormed.schema_wellFormed]
  refine transaction_keeps registered fun value next ran => ?_
  unfold registerBody at ran
  simp only [initializeSchemaRegistries_idle registered.registries, ok_bind] at ran
  obtain ⟨existing, existingOk, ran⟩ := bind_eq_ok_iff.mp ran
  cases existing with
  | some row =>
      obtain ⟨⟨⟩, -, ran⟩ := bind_eq_ok_iff.mp ran
      obtain ⟨⟨⟩, -, ran⟩ := bind_eq_ok_iff.mp ran
      obtain ⟨⟨⟩, -, ran⟩ := bind_eq_ok_iff.mp ran
      obtain ⟨⟨⟩, -, same⟩ := bind_eq_ok_iff.mp ran
      obtain rfl := (Prod.mk.inj (Except.ok.inj same)).2
      exact registered
  | none =>
      obtain ⟨⟨⟩, -, ran⟩ := bind_eq_ok_iff.mp ran
      obtain ⟨withTable, tableOk, ran⟩ := bind_eq_ok_iff.mp ran
      obtain ⟨withRow, rowOk, ran⟩ := bind_eq_ok_iff.mp ran
      obtain ⟨withIndexes, indexesOk, ran⟩ := bind_eq_ok_iff.mp ran
      obtain ⟨withRows, rowsOk, ran⟩ := bind_eq_ok_iff.mp ran
      obtain ⟨⟨⟩, -, ran⟩ := bind_eq_ok_iff.mp ran
      obtain ⟨⟨⟩, -, same⟩ := bind_eq_ok_iff.mp ran
      obtain rfl := (Prod.mk.inj (Except.ok.inj same)).2
      rw [executeBatch_createTableSql otherFormed] at tableOk
      have table := createTable_effect tableOk
      obtain ⟨catalogRow, schemasRow, indexesRow, -⟩ := insertRegisteredSchema_effect rowOk
      obtain ⟨registryIndexes, -, growsIndexes, -⟩ :=
        createDeclaredIndexes_effect otherFormed indexesOk
      obtain ⟨catalogRows, schemasRows, indexesRows, -⟩ :=
        insertRegisteredIndexes_effect rowsOk
      have differ : derived.schema.id ≠ schema.id := fun same =>
        findRegisteredSchema_ok_none existingOk _ registered.schema_row same.symm
      have grows : database.catalog.Grows withRows.catalog := by
        rw [catalogRows]
        exact table.grows.trans (catalogRow ▸ growsIndexes)
      refine registered.transport grows.tables
        (fun physical member _ _ _ => grows.indexes member) ?_ ?_
      · rw [schemasRows, registryIndexes, schemasRow, table.registry_eq]
        exact List.mem_append_left _ registered.schema_row
      · rw [indexesRows, registryIndexes, indexesRow, table.registry_eq,
          List.filter_append, filter_foreign_rows differ, List.append_nil]

/-- A migration of another collection keeps a registered one when its callback
does. -/
theorem migrateCollection_keeps {schema : CollectionSchema} {migrationId : String}
    {operation : Database Data → Result (Database Data)}
    (sourceFormed : source.WellFormed host) (targetFormed : target.WellFormed host)
    (differ : source.schema.id ≠ schema.id)
    (leaves : ∀ next, operation database = .ok next → Registered schema next)
    (registered : Registered schema database) :
    Registered schema
      (migrateCollection engine migrationId source target operation database).1 := by
  unfold migrateCollection
  split
  case h_1 => exact registered
  case h_2 validated =>
    have otherId : target.schema.id ≠ schema.id :=
      (validateMigration_ok validated).1 ▸ differ
    refine transaction_keeps registered fun value next ran => ?_
    unfold migrateBody at ran
    simp only [initializeSchemaRegistries_idle registered.registries, ok_bind] at ran
    split at ran
    case h_1 =>
      obtain ⟨⟨⟩, -, same⟩ := bind_eq_ok_iff.mp ran
      obtain rfl := (Prod.mk.inj (Except.ok.inj same)).2
      exact registered
    case h_2 =>
      obtain ⟨final, appliedOk, same⟩ := bind_eq_ok_iff.mp ran
      obtain rfl := (Prod.mk.inj (Except.ok.inj same)).2
      obtain ⟨moved, movedOk, applied⟩ :=
        applyMigration_effect sourceFormed targetFormed appliedOk
      have stays := leaves moved movedOk
      refine stays.transport (applied.tables_eq ▸ List.Subset.refl _) ?_
        (applied.other_rows _ stays.schema_row (Ne.symm otherId)) ?_
      · intro physical member declared inDeclared named
        refine applied.kept physical member fun old inOlds same => ?_
        exact absurd same (named ▸ registered.index_ne_foreign applied.source_index_rows
          applied.source_indexes differ inDeclared inOlds)
      · rw [applied.index_rows, List.filter_append, filter_foreign_rows otherId,
          List.append_nil, List.filter_filter]
        apply List.filter_congr
        intro row _
        by_cases own : row.collectionId = schema.id
        · simp [own, Ne.symm otherId]
        · simp [own]

/-- No condition on the callback of a migration. -/
def AnyCallback (_ : Database Data → Result (Database Data)) : Prop := True

/-- A later state: any derived type may be registered, other collections may be
migrated by callbacks that meet a condition and leave this one alone, and data may
change. -/
inductive Later (engine : Engine Data) (host : MacroHost) (schema : CollectionSchema)
    (callbacks : (Database Data → Result (Database Data)) → Prop) (start : Database Data) :
    Database Data → Prop
  | refl : Later engine host schema callbacks start start
  | register {middle : Database Data} {input : DeriveInput} {other : DerivedCollection}
      (before : Later engine host schema callbacks start middle)
      (accepted : expandCollection host input = .ok other) :
      Later engine host schema callbacks start (registerCollection engine other middle).1
  | migrate {middle : Database Data} {sourceInput targetInput : DeriveInput}
      {source target : DerivedCollection} (migrationId : String)
      (operation : Database Data → Result (Database Data))
      (before : Later engine host schema callbacks start middle)
      (sourceAccepted : expandCollection host sourceInput = .ok source)
      (targetAccepted : expandCollection host targetInput = .ok target)
      (other : source.schema.id ≠ schema.id) (allowed : callbacks operation)
      (leaves : ∀ next, operation middle = .ok next →
        Registered schema middle → Registered schema next) :
      Later engine host schema callbacks start
        (migrateCollection engine migrationId source target operation middle).1
  | change {middle : Database Data} (before : Later engine host schema callbacks start middle)
      (data : Data) : Later engine host schema callbacks start { middle with data := data }

/-- What is registered stays registered. -/
theorem Later.registered {schema : CollectionSchema}
    {callbacks : (Database Data → Result (Database Data)) → Prop}
    {start later : Database Data} (run : Later engine host schema callbacks start later)
    (registered : Registered schema start) :
    Registered schema later := by
  induction run with
  | refl => exact registered
  | register before accepted inductionHypothesis =>
      exact registerCollection_keeps (expandCollection_wellFormed accepted)
        inductionHypothesis
  | migrate migrationId operation before sourceAccepted targetAccepted other allowed
      leaves inductionHypothesis =>
      exact migrateCollection_keeps (expandCollection_wellFormed sourceAccepted)
        (expandCollection_wellFormed targetAccepted) other
        (fun next ran => leaves next ran inductionHypothesis) inductionHypothesis
  | change before data inductionHypothesis =>
      exact
        { registries := inductionHypothesis.registries
          schema_row := inductionHypothesis.schema_row
          index_rows := inductionHypothesis.index_rows
          table_fits := inductionHypothesis.table_fits
          indexes_present := inductionHypothesis.indexes_present }

/-! ## Soundness -/

/-- The declared index stands in the catalog, on the table, with its uniqueness and
its columns in order. -/
def IndexStands (database : Database Data) (table : String) (index : IndexSchema) : Prop :=
  ∃ physical ∈ database.catalog.indexes, physical.name = index.name ∧
    foldName physical.table = foldName table ∧ physical.unique = index.unique ∧
    physical.isPartial = false ∧
    (physical.columns.filter IndexColumn.key).map IndexColumn.name =
      index.columns.map some

theorem IndexPresent.stands {table : String} {index : IndexSchema}
    {physical : PhysicalIndex}
    (present : IndexPresent database.catalog table index physical) :
    IndexStands database table index :=
  ⟨physical, present.member, present.name_eq, present.on_table, present.unique_eq,
    present.total, (keyColumns_ok present.columns_eq).1⟩

/-- An index of the old type whose name the new type does not declare is gone. -/
theorem MigrationApplied.index_gone {origin onto : CollectionSchema}
    {before moved after : Database Data}
    (applied : MigrationApplied origin onto before moved after) {old : IndexSchema}
    (member : old ∈ origin.indexes) (undeclared : ∀ new ∈ onto.indexes, new.name ≠ old.name)
    {physical : PhysicalIndex} (inAfter : physical ∈ after.catalog.indexes)
    (same : foldName physical.name = foldName old.name) :
    ∃ new ∈ onto.indexes, physical.name = new.name := by
  have notRetained : retained onto old = false := by
    unfold retained
    rw [List.any_eq_false]
    intro new inNew
    have differ : (old.name == new.name) = false := by
      simpa using Ne.symm (undeclared new inNew)
    simp [differ]
  exact applied.replaced old member notRetained physical inAfter same

/-- Registration and migration are sound: derived schemas pass the runtime check; a
database without the collection and its names accepts it and reports it unchanged
from then on, whatever else is registered, migrated or written; and an applied
migration leaves the new type registered, the old one refused, every declared index
in place and every index that is no longer declared gone. -/
theorem registration_and_migration_sound (engine : Engine Data) (host : MacroHost) :
    (∀ input derived, expandCollection host input = .ok derived →
      validateCollectionSchema derived.schema = .ok ()) ∧
    (∀ input derived (database : Database Data),
      expandCollection host input = .ok derived → DistinctNames derived →
      AcceptsDefinitions engine derived → Fresh derived database →
        ∃ created, registerCollection engine derived database = (created, .ok .created) ∧
          ∀ later, Later engine host derived.schema AnyCallback created later →
            ∀ otherInput other, expandCollection host otherInput = .ok other →
              SameDescriptors derived other →
                registerCollection engine other later =
                  (later, .ok .alreadyRegistered)) ∧
    (∀ sourceInput source targetInput target migrationId operation
        (database changed : Database Data),
      expandCollection host sourceInput = .ok source →
      expandCollection host targetInput = .ok target → LeavesRegistries operation →
      migrateCollection engine migrationId source target operation database =
          (changed, .ok .applied) →
        registerCollection engine target changed = (changed, .ok .alreadyRegistered) ∧
        registerCollection engine source changed = (changed, .error schemaMismatch) ∧
        (∀ index ∈ target.schema.indexes,
          IndexStands changed target.schema.table index ∧
            indexRow target.schema index ∈ changed.registry.indexes) ∧
        ∀ old ∈ source.schema.indexes,
          (∀ new ∈ target.schema.indexes, new.name ≠ old.name) →
            (∀ physical ∈ changed.catalog.indexes, physical.name ≠ old.name) ∧
            ((∀ new ∈ target.schema.indexes, foldName new.name ≠ foldName old.name) →
              changed.catalog.findIndex old.name = none)) := by
  refine ⟨?_, ?_, ?_⟩
  · intro input derived accepted
    exact validateCollectionSchema_ok_iff.mpr
      (expandCollection_wellFormed accepted).schema_wellFormed
  · intro input derived database accepted distinct accepts fresh
    have formed := expandCollection_wellFormed accepted
    obtain ⟨created, createdOk, registered⟩ :=
      registerCollection_fresh formed distinct fresh accepts
    refine ⟨created, createdOk, ?_⟩
    intro later run otherInput other otherAccepted same
    have otherFormed := expandCollection_wellFormed otherAccepted
    exact registerCollection_registered otherFormed
      ((run.registered registered).of_sameDescriptors formed otherFormed same)
      (accepts.commits later)
  · intro sourceInput source targetInput target migrationId operation database changed
      sourceAccepted targetAccepted leaves ok
    have sourceFormed := expandCollection_wellFormed sourceAccepted
    have targetFormed := expandCollection_wellFormed targetAccepted
    obtain ⟨sameId, differ, committed, registered, before, moved, applied⟩ :=
      migrateCollection_applied sourceFormed targetFormed leaves ok
    refine ⟨registerCollection_registered targetFormed registered committed,
      registerCollection_mismatch sourceFormed targetFormed.schema_wellFormed sameId
        registered (fun same => differ (congrArg SchemaRow.fingerprint same).symm),
      ?_, ?_⟩
    · intro index member
      obtain ⟨physical, present⟩ := registered.indexes_present index member
      exact ⟨present.stands, (List.mem_filter.mp (registered.index_rows.mem_iff.mpr
        (List.mem_map_of_mem member))).1⟩
    · intro old member undeclared
      refine ⟨?_, ?_⟩
      · intro physical inChanged named
        obtain ⟨new, inNew, sameName⟩ := applied.index_gone member undeclared inChanged
          (congrArg foldName named)
        exact undeclared new inNew (sameName.symm.trans named)
      · intro apart
        rw [Catalog.findIndex_eq_none_iff]
        intro physical inChanged same
        obtain ⟨new, inNew, sameName⟩ :=
          applied.index_gone member undeclared inChanged same
        exact apart new inNew (sameName ▸ same)

/-! ## A migration that replaces an index -/

/-- The descriptors of two versions of one collection, with their digests. -/
def firstNotesDescriptor : String :=
  "csgdb-schema-v1\ncollection:5:notes\ntable:5:notes\n" ++
    "version:1\nfield:2:id:2:id:Integer:0:1\n"

def secondNotesDescriptor : String :=
  "csgdb-schema-v1\ncollection:5:notes\ntable:5:notes\n" ++
    "version:2\nfield:2:id:2:id:Integer:0:1\n"

def byIdDescriptor : String :=
  "csgdb-index-v1\ncollection:5:notes\ntable:5:notes\n" ++
    "index:5:by_id\nname:11:notes_by_id\nunique:0\n" ++
    "field:2:id:2:id\n"

def notesKeyDescriptor : String :=
  "csgdb-index-v1\ncollection:5:notes\ntable:5:notes\n" ++
    "index:3:key\nname:9:notes_key\nunique:1\nfield:2:id:2:id\n"

def firstNotesDigest : SchemaFingerprint :=
  #v[0x9e, 0x7d, 0x26, 0x84, 0xe7, 0x1c, 0x10, 0x9f, 0x08, 0x93, 0xb3,
    0x70, 0x91, 0x55, 0x71, 0xb7, 0x38, 0xeb, 0xcd, 0xb4, 0x7f, 0xae,
    0x0c, 0x91, 0x16, 0x40, 0x28, 0x68, 0x8c, 0x01, 0x40, 0x56]

def secondNotesDigest : SchemaFingerprint :=
  #v[0xa3, 0x01, 0xc7, 0x01, 0xaf, 0x8e, 0xec, 0xd2, 0xf6, 0xd5, 0x0e,
    0xe1, 0x08, 0x9f, 0x9e, 0x6c, 0x03, 0xe7, 0x81, 0x8f, 0x08, 0x25,
    0x38, 0x02, 0x23, 0x95, 0xa7, 0x39, 0xc3, 0x24, 0x24, 0x0f]

def byIdDigest : SchemaFingerprint :=
  #v[0xdb, 0x9b, 0xcd, 0xa0, 0xc8, 0x18, 0x0c, 0xdc, 0x96, 0x0f, 0x5f,
    0x5c, 0x63, 0xf1, 0x77, 0xf5, 0xcc, 0x2a, 0x9e, 0x25, 0x3e, 0xe9,
    0x2b, 0xc4, 0xc5, 0xfa, 0x01, 0x27, 0x33, 0xe8, 0xf7, 0x5d]

def notesKeyDigest : SchemaFingerprint :=
  #v[0x45, 0xae, 0x4f, 0x77, 0xf7, 0xa8, 0xd5, 0xfc, 0x22, 0x74, 0x6b,
    0x51, 0x55, 0x6e, 0xd1, 0x76, 0x8b, 0x82, 0x77, 0x3a, 0x5a, 0x09,
    0x23, 0x1a, 0x6e, 0x48, 0x62, 0x67, 0x79, 0x9d, 0xb4, 0x4e]

/-- SHA-256 on the descriptors that the two versions have. -/
def notesHost : MacroHost where
  sha256 := fun text =>
    if text = firstNotesDescriptor then firstNotesDigest
    else if text = secondNotesDescriptor then secondNotesDigest
    else if text = byIdDescriptor then byIdDigest
    else notesKeyDigest
  toUppercase := asciiUppercase
  isRustPath := fun _ => true

def notesInput (version : Nat) (index : List IndexMeta) : DeriveInput where
  hasGenerics := false
  metas := [.collection "notes", .table "notes", .version version, .index index]
  data := .namedStruct
    [{ rustName := "id", ty := .path false "i64",
       metas := [.id "id", .column "id", .primaryKey] }]

def firstNotesInput : DeriveInput :=
  notesInput 1 [.id "by_id", .name "notes_by_id", .field "id"]

def secondNotesInput : DeriveInput :=
  notesInput 2 [.id "key", .name "notes_key", .field "id", .unique]

def notesKeyField : DerivedField :=
  { rustName := "id", ty := .path false "i64", id := "id", column := "id",
    storage := .integer, nullable := false, primaryKey := true }

def byIdIndex : DerivedIndex :=
  { id := "by_id", name := "notes_by_id", columns := ["id"], unique := false,
    canonical := byIdDescriptor, fingerprint := byIdDigest }

def notesKeyIndex : DerivedIndex :=
  { id := "key", name := "notes_key", columns := ["id"], unique := true,
    canonical := notesKeyDescriptor, fingerprint := notesKeyDigest }

def firstNotes : DerivedCollection :=
  { collection := "notes", table := "notes", version := 1, fields := [notesKeyField],
    primaryKey := notesKeyField, indexes := [byIdIndex],
    canonical := firstNotesDescriptor, fingerprint := firstNotesDigest }

def secondNotes : DerivedCollection :=
  { collection := "notes", table := "notes", version := 2, fields := [notesKeyField],
    primaryKey := notesKeyField, indexes := [notesKeyIndex],
    canonical := secondNotesDescriptor, fingerprint := secondNotesDigest }

def willingEngine : Engine Unit where
  refuses := fun _ _ => none
  commit := fun _ => .ok ()

def emptyDatabase : Database Unit where
  catalog := ⟨[], [], by simp, by simp⟩
  registry := ⟨[], [], [], by simp, by simp, by simp, by simp, by simp, by simp, by simp,
    by simp, by simp⟩
  data := ()

/-- The database after the first version is registered, and after the migration. -/
def notesCreated : Database Unit :=
  (registerCollection willingEngine firstNotes emptyDatabase).1

def notesMigrated : Database Unit :=
  (migrateCollection willingEngine "unique-key" firstNotes secondNotes .ok
    notesCreated).1

theorem firstNotes_accepted : expandCollection notesHost firstNotesInput = .ok firstNotes := by
  decide +kernel

theorem secondNotes_accepted :
    expandCollection notesHost secondNotesInput = .ok secondNotes := by
  decide +kernel

theorem firstNotes_distinct : DistinctNames firstNotes := ⟨by decide, by decide⟩

theorem firstNotes_definitions : AcceptsDefinitions willingEngine firstNotes :=
  ⟨fun _ _ _ _ => rfl, fun _ => rfl, fun _ _ _ => rfl, fun _ => rfl⟩

theorem firstNotes_fresh : Fresh firstNotes emptyDatabase :=
  ⟨by simp [emptyDatabase], by simp [emptyDatabase], by simp [emptyDatabase],
    by simp [emptyDatabase, Catalog.findTable], by simp [emptyDatabase, Catalog.findIndex]⟩

theorem notesCreated_created :
    registerCollection willingEngine firstNotes emptyDatabase =
      (notesCreated, .ok .created) := by
  obtain ⟨created, createdOk, -⟩ := registerCollection_fresh
    (expandCollection_wellFormed firstNotes_accepted) firstNotes_distinct firstNotes_fresh
    firstNotes_definitions
  unfold notesCreated
  rw [createdOk]

theorem notesMigrated_applied :
    migrateCollection willingEngine "unique-key" firstNotes secondNotes .ok notesCreated =
      (notesMigrated, .ok .applied) := by
  apply Prod.ext
  · rfl
  · decide +kernel

theorem leavesRegistries_ok :
    LeavesRegistries (Except.ok : Database Data → Result (Database Data)) where
  registry_eq := fun same => by rw [Except.ok.inj same]
  tables_eq := fun same _ _ => by rw [Except.ok.inj same]

/-- Registering, registering again and migrating the two versions on an empty
database. -/
theorem notes_registered_and_migrated :
    registerCollection willingEngine firstNotes emptyDatabase =
        (notesCreated, .ok .created) ∧
      registerCollection willingEngine firstNotes notesCreated =
        (notesCreated, .ok .alreadyRegistered) ∧
      registerCollection willingEngine secondNotes notesMigrated =
        (notesMigrated, .ok .alreadyRegistered) ∧
      registerCollection willingEngine firstNotes notesMigrated =
        (notesMigrated, .error schemaMismatch) ∧
      notesMigrated.catalog.findIndex "notes_by_id" = none := by
  obtain ⟨-, registers, migrates⟩ :=
    registration_and_migration_sound willingEngine notesHost
  obtain ⟨created, createdOk, again⟩ := registers firstNotesInput firstNotes emptyDatabase
    firstNotes_accepted firstNotes_distinct firstNotes_definitions firstNotes_fresh
  obtain rfl : notesCreated = created := congrArg Prod.fst createdOk
  obtain ⟨target, source, -, gone⟩ := migrates firstNotesInput firstNotes secondNotesInput
    secondNotes "unique-key" .ok notesCreated notesMigrated firstNotes_accepted
    secondNotes_accepted leavesRegistries_ok notesMigrated_applied
  exact ⟨createdOk, again _ .refl firstNotesInput firstNotes firstNotes_accepted
    ⟨rfl, fun _ => Iff.rfl⟩, target, source,
    (gone (DerivedCollection.indexSchema byIdIndex) (by decide) (by decide)).2
      (by decide)⟩

end Csgdb.Registry
