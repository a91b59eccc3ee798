/-
Module: Csgdb.Proofs.RegistryRuns
Purpose: Runs of registrations and migrations, and all that one call can do to the
  rows of the schema and the migration registry.
Trusted boundary: a migration callback leaves the internal tables alone.
Main exports: Call, Call.run, runCalls, SchemaAdded, SchemaReplaced, Call.run_registry
-/
import Csgdb.Proofs.Migration

namespace Csgdb.Registry

open Derive Storage Foundation

variable {Data : Type} {engine : Engine Data} {database changed : Database Data}

/-! ## Calls -/

/-- A call of an application: it registers a type, migrates from one type to another,
or changes its own data. -/
inductive Call (Data : Type) where
  | register (derived : DerivedCollection)
  | migrate (migrationId : String) (source target : DerivedCollection)
      (operation : Database Data → Result (Database Data))
  | write (change : Data → Data)

/-- What a call reports. -/
inductive CallOutcome where
  | registered (registration : SchemaRegistration)
  | migrated (status : MigrationStatus)
  | written
deriving Repr, DecidableEq

def Call.run (engine : Engine Data) :
    Call Data → Database Data → Database Data × Result CallOutcome
  | .register derived, database =>
      let (next, result) := registerCollection engine derived database
      (next, result.map .registered)
  | .migrate migrationId source target operation, database =>
      let (next, result) :=
        migrateCollection engine migrationId source target operation database
      (next, result.map .migrated)
  | .write change, database => ({ database with data := change database.data }, .ok .written)

/-- The database after calls in a row. -/
def runCalls (engine : Engine Data) : List (Call Data) → Database Data → Database Data
  | [], database => database
  | call :: rest, database => runCalls engine rest (call.run engine database).1

/-- A callback of the call leaves the internal tables alone. -/
def Call.LeavesRegistries : Call Data → Prop
  | .migrate _ _ _ operation => Registry.LeavesRegistries operation
  | _ => True

/-! ## Definitions leave the registries alone -/

theorem executeBatch_registry {sql : String}
    (ok : executeBatch engine sql database = .ok changed) :
    changed.registry = database.registry := by
  obtain ⟨prepared, -, ok⟩ := bind_eq_ok_iff.mp ok
  split at ok
  · exact (createTable_effect ok).registry_eq
  · exact (createIndex_effect ok).registry_eq
  · exact (dropIndex_effect ok).1
  · cases ok

theorem executeBatches_registry {batches : List String}
    (ok : executeBatches engine batches database = .ok changed) :
    changed.registry = database.registry := by
  induction batches generalizing database with
  | nil =>
      obtain rfl := Except.ok.inj ok
      rfl
  | cons sql rest inductionHypothesis =>
      obtain ⟨next, ran, more⟩ := bind_eq_ok_iff.mp ok
      exact (inductionHypothesis more).trans (executeBatch_registry ran)

theorem createDeclaredIndexes_registry {derived : DerivedCollection}
    (ok : createDeclaredIndexes engine derived database = .ok changed) :
    changed.registry = database.registry :=
  executeBatches_registry (ite_error_eq_ok_iff.mp ok).2

theorem dropReplacedIndexes_registry {target : CollectionSchema} {olds : List IndexSchema}
    (ok : dropReplacedIndexes engine target olds database = .ok changed) :
    changed.registry = database.registry := by
  induction olds generalizing database with
  | nil =>
      obtain rfl := Except.ok.inj ok
      rfl
  | cons old rest inductionHypothesis =>
      unfold dropReplacedIndexes at ok
      split at ok
      · exact inductionHypothesis ok
      · obtain ⟨next, ran, more⟩ := bind_eq_ok_iff.mp ok
        exact (inductionHypothesis more).trans (executeBatch_registry ran)

theorem replaceDeclaredIndexes_registry {source target : DerivedCollection}
    (ok : replaceDeclaredIndexes engine source target database = .ok changed) :
    changed.registry = database.registry := by
  obtain ⟨next, dropped, created⟩ := bind_eq_ok_iff.mp ok
  exact (createDeclaredIndexes_registry created).trans (dropReplacedIndexes_registry dropped)

/-! ## One call -/

/-- A type was registered for the first time. -/
structure SchemaAdded (schema : CollectionSchema) (before after : RegistryRows) : Prop where
  accepted : schema.WellFormed
  new : ∀ row ∈ before.schemas, row.collectionId ≠ schema.id
  unclaimed : ∀ row ∈ before.schemas, row.tableName ≠ schema.table
  schemas_eq : after.schemas = before.schemas ++ [schemaRow schema]
  migrations_eq : after.migrations = before.migrations

/-- A collection was migrated. -/
structure SchemaReplaced (migrationId : String) (source target : CollectionSchema)
    (before after : RegistryRows) : Prop where
  accepted : target.WellFormed
  id_eq : source.id = target.id
  version_lt : source.version < target.version
  source_row : schemaRow source ∈ before.schemas
  new : ∀ row ∈ before.migrations,
    ¬(row.collectionId = source.id ∧ row.migrationId = migrationId)
  unclaimed : ∀ row ∈ before.schemas, row.collectionId ≠ target.id →
    row.tableName ≠ target.table
  schemas_eq : after.schemas = before.schemas.map fun row =>
    if row.collectionId = target.id then schemaRow target else row
  migrations_eq : after.migrations =
    before.migrations ++ [migrationRow migrationId source target]

theorem ensureTableIsUnclaimed_ok {schema : CollectionSchema}
    (ok : ensureTableIsUnclaimed schema database = .ok ()) :
    ∀ row ∈ database.registry.schemas, row.collectionId ≠ schema.id →
      row.tableName ≠ schema.table := by
  unfold ensureTableIsUnclaimed at ok
  split at ok
  case isFalse => cases ok
  case isTrue none =>
    intro row member foreign same
    have unclaimed := List.countP_eq_zero.mp none row member
    simp [foreign, same] at unclaimed

theorem registerBody_registry {derived : DerivedCollection}
    {registration : SchemaRegistration} (formed : derived.schema.WellFormed)
    (ran : registerBody engine derived database = .ok (registration, changed)) :
    (registration = .alreadyRegistered ∧ changed.registry = database.registry) ∨
      (registration = .created ∧
        SchemaAdded derived.schema database.registry changed.registry) := by
  unfold registerBody at ran
  simp only [ok_bind] at ran
  obtain ⟨initialized, initializedOk, ran⟩ := bind_eq_ok_iff.mp ran
  have sameRegistry := (initializeSchemaRegistries_effect initializedOk).registry_eq
  obtain ⟨existing, existingOk, ran⟩ := bind_eq_ok_iff.mp ran
  cases existing with
  | some row =>
      obtain ⟨⟨⟩, -, ran⟩ := bind_eq_ok_iff.mp ran
      obtain ⟨⟨⟩, -, ran⟩ := bind_eq_ok_iff.mp ran
      obtain ⟨⟨⟩, -, ran⟩ := bind_eq_ok_iff.mp ran
      obtain ⟨⟨⟩, -, same⟩ := bind_eq_ok_iff.mp ran
      obtain ⟨rfl, rfl⟩ := Prod.mk.inj (Except.ok.inj same)
      exact .inl ⟨rfl, sameRegistry⟩
  | none =>
      obtain ⟨⟨⟩, unclaimedOk, ran⟩ := bind_eq_ok_iff.mp ran
      obtain ⟨withTable, tableOk, ran⟩ := bind_eq_ok_iff.mp ran
      obtain ⟨withRow, rowOk, ran⟩ := bind_eq_ok_iff.mp ran
      obtain ⟨withIndexes, indexesOk, ran⟩ := bind_eq_ok_iff.mp ran
      obtain ⟨withRows, rowsOk, ran⟩ := bind_eq_ok_iff.mp ran
      obtain ⟨⟨⟩, -, ran⟩ := bind_eq_ok_iff.mp ran
      obtain ⟨⟨⟩, -, same⟩ := bind_eq_ok_iff.mp ran
      obtain ⟨rfl, rfl⟩ := Prod.mk.inj (Except.ok.inj same)
      have sameTable := (executeBatch_registry tableOk).trans sameRegistry
      obtain ⟨-, schemasRow, -, migrationsRow⟩ := insertRegisteredSchema_effect rowOk
      have sameIndexes := createDeclaredIndexes_registry indexesOk
      obtain ⟨-, schemasRows, -, migrationsRows⟩ := insertRegisteredIndexes_effect rowsOk
      have new := findRegisteredSchema_ok_none existingOk
      have unclaimed := ensureTableIsUnclaimed_ok unclaimedOk
      rw [sameRegistry] at new unclaimed
      exact .inr ⟨rfl,
        { accepted := formed
          new := new
          unclaimed := fun row member => unclaimed row member (new row member)
          schemas_eq := by rw [schemasRows, sameIndexes, schemasRow, sameTable]
          migrations_eq := by rw [migrationsRows, sameIndexes, migrationsRow, sameTable] }⟩

/-- All that a registration does to the registries. -/
theorem registerCollection_registry (derived : DerivedCollection) (database : Database Data) :
    ((registerCollection engine derived database).2 ≠ .ok .created ∧
        (registerCollection engine derived database).1.registry = database.registry) ∨
      ((registerCollection engine derived database).2 = .ok .created ∧
        SchemaAdded derived.schema database.registry
          (registerCollection engine derived database).1.registry) := by
  unfold registerCollection
  cases validated : validateCollectionSchema derived.schema with
  | error failure => exact .inl ⟨by simp, rfl⟩
  | ok =>
      simp only [transaction]
      cases ran : registerBody engine derived database with
      | error failure => exact .inl ⟨by simp, rfl⟩
      | ok result =>
          obtain ⟨registration, next⟩ := result
          cases committed : engine.commit next with
          | error failure => exact .inl ⟨by simp [committed], by simp [committed]⟩
          | ok =>
              simp only [committed]
              rcases registerBody_registry (validateCollectionSchema_ok_iff.mp validated) ran
                with ⟨rfl, same⟩ | ⟨rfl, added⟩
              · exact .inl ⟨by simp, same⟩
              · exact .inr ⟨rfl, added⟩

theorem ensureRegisteredSchemaMatches_ok {schema : CollectionSchema} {row : SchemaRow}
    (ok : ensureRegisteredSchemaMatches schema row = .ok ()) : row = schemaRow schema := by
  unfold ensureRegisteredSchemaMatches at ok
  split at ok
  case isTrue same => exact same
  case isFalse => cases ok

/-- What the branch of a new migration checks in the registries and does to them. -/
theorem applyMigration_registry {migrationId : String} {source target : DerivedCollection}
    {operation : Database Data → Result (Database Data)}
    (leaves : LeavesRegistries operation)
    (ok : applyMigration engine migrationId source target operation database =
      .ok changed) :
    schemaRow source.schema ∈ database.registry.schemas ∧
      (∀ row ∈ database.registry.schemas, row.collectionId ≠ target.schema.id →
        row.tableName ≠ target.schema.table) ∧
      changed.registry.schemas = (database.registry.schemas.map fun row =>
        if row.collectionId = target.schema.id then schemaRow target.schema else row) ∧
      changed.registry.migrations = database.registry.migrations ++
        [migrationRow migrationId source.schema target.schema] := by
  unfold applyMigration at ok
  obtain ⟨current, currentOk, ok⟩ := bind_eq_ok_iff.mp ok
  obtain ⟨⟨⟩, matchesOk, ok⟩ := bind_eq_ok_iff.mp ok
  obtain ⟨⟨⟩, -, ok⟩ := bind_eq_ok_iff.mp ok
  obtain ⟨⟨⟩, -, ok⟩ := bind_eq_ok_iff.mp ok
  obtain ⟨⟨⟩, -, ok⟩ := bind_eq_ok_iff.mp ok
  obtain ⟨moved, operationOk, ok⟩ := bind_eq_ok_iff.mp ok
  obtain ⟨⟨⟩, unclaimedOk, ok⟩ := bind_eq_ok_iff.mp ok
  obtain ⟨⟨⟩, -, ok⟩ := bind_eq_ok_iff.mp ok
  obtain ⟨replaced, replaceOk, ok⟩ := bind_eq_ok_iff.mp ok
  obtain ⟨⟨⟩, -, ok⟩ := bind_eq_ok_iff.mp ok
  obtain ⟨updated, updateOk, ok⟩ := bind_eq_ok_iff.mp ok
  obtain ⟨reindexed, reindexOk, insertOk⟩ := bind_eq_ok_iff.mp ok
  have sameMoved := leaves.registry_eq operationOk
  have sameReplaced := (replaceDeclaredIndexes_registry replaceOk).trans sameMoved
  have currentRow :=
    ensureRegisteredSchemaMatches_ok (orMigrationMismatch_ok_iff.mp matchesOk)
  have unclaimed := ensureTableIsUnclaimed_ok unclaimedOk
  obtain ⟨-, schemasUpdated, -, migrationsUpdated, -⟩ := updateRegisteredSchema_effect updateOk
  obtain ⟨-, schemasReindexed, -, migrationsReindexed⟩ :=
    replaceRegisteredIndexes_effect reindexOk
  obtain ⟨-, schemasInserted, -, migrationsInserted⟩ := insertMigration_effect insertOk
  rw [sameMoved] at unclaimed
  refine ⟨currentRow ▸ currentSchema_mem currentOk, unclaimed, ?_, ?_⟩
  · rw [schemasInserted, schemasReindexed, schemasUpdated, sameReplaced]
  · rw [migrationsInserted, migrationsReindexed, migrationsUpdated, sameReplaced]

theorem findMigration_none {collectionId migrationId : String}
    (none : findMigration database collectionId migrationId = none) :
    ∀ row ∈ database.registry.migrations,
      ¬(row.collectionId = collectionId ∧ row.migrationId = migrationId) := by
  intro row member same
  have differ := List.find?_eq_none.mp none row member
  exact differ (decide_eq_true same)

theorem migrateBody_registry {migrationId : String} {source target : DerivedCollection}
    {operation : Database Data → Result (Database Data)} {status : MigrationStatus}
    (leaves : LeavesRegistries operation)
    (validated : validateMigration source.schema target.schema migrationId = .ok ())
    (ran : migrateBody engine migrationId source target operation database =
      .ok (status, changed)) :
    (status = .alreadyApplied ∧ changed.registry = database.registry) ∨
      (status = .applied ∧ SchemaReplaced migrationId source.schema target.schema
        database.registry changed.registry) := by
  obtain ⟨initialized, initializedOk, ran⟩ := bind_eq_ok_iff.mp ran
  have sameRegistry := (initializeSchemaRegistries_effect initializedOk).registry_eq
  cases found : findMigration initialized source.schema.id migrationId with
  | some recorded =>
      simp only [found] at ran
      obtain ⟨⟨⟩, -, same⟩ := bind_eq_ok_iff.mp ran
      obtain ⟨rfl, rfl⟩ := Prod.mk.inj (Except.ok.inj same)
      exact .inl ⟨rfl, sameRegistry⟩
  | none =>
      simp only [found] at ran
      obtain ⟨final, applied, same⟩ := bind_eq_ok_iff.mp ran
      obtain ⟨rfl, rfl⟩ := Prod.mk.inj (Except.ok.inj same)
      obtain ⟨sameId, -, climbs, formed⟩ := validateMigration_ok validated
      obtain ⟨sourceRow, unclaimed, schemas, migrations⟩ :=
        applyMigration_registry leaves applied
      have new := findMigration_none found
      rw [sameRegistry] at sourceRow unclaimed schemas migrations new
      exact .inr ⟨rfl, formed, sameId, climbs, sourceRow, new, unclaimed, schemas, migrations⟩

/-- All that a migration does to the registries. -/
theorem migrateCollection_registry (migrationId : String) (source target : DerivedCollection)
    {operation : Database Data → Result (Database Data)}
    (leaves : LeavesRegistries operation) (database : Database Data) :
    ((migrateCollection engine migrationId source target operation database).2 ≠
        .ok .applied ∧
        (migrateCollection engine migrationId source target operation database).1.registry =
          database.registry) ∨
      ((migrateCollection engine migrationId source target operation database).2 =
        .ok .applied ∧
        SchemaReplaced migrationId source.schema target.schema database.registry
          (migrateCollection engine migrationId source target operation
            database).1.registry) := by
  unfold migrateCollection
  cases validated : validateMigration source.schema target.schema migrationId with
  | error failure => exact .inl ⟨by simp, rfl⟩
  | ok =>
      simp only [transaction]
      cases ran : migrateBody engine migrationId source target operation database with
      | error failure => exact .inl ⟨by simp, rfl⟩
      | ok result =>
          obtain ⟨status, next⟩ := result
          cases committed : engine.commit next with
          | error failure => exact .inl ⟨by simp [committed], by simp [committed]⟩
          | ok =>
              simp only [committed]
              rcases migrateBody_registry leaves validated ran with
                ⟨rfl, same⟩ | ⟨rfl, replaced⟩
              · exact .inl ⟨by simp, same⟩
              · exact .inr ⟨rfl, replaced⟩

/-! ## Runs -/

/-- The type that a call has registered for the first time. -/
def Call.creates (engine : Engine Data) (call : Call Data) (database : Database Data) :
    List CollectionSchema :=
  match call with
  | .register derived =>
      if (registerCollection engine derived database).2 = .ok .created then [derived.schema]
      else []
  | _ => []

/-- The migration that a call has applied, as a row of its registry. -/
def Call.applies (engine : Engine Data) (call : Call Data) (database : Database Data) :
    List MigrationRow :=
  match call with
  | .migrate migrationId source target operation =>
      if (migrateCollection engine migrationId source target operation database).2 =
          .ok .applied then
        [migrationRow migrationId source.schema target.schema]
      else []
  | _ => []

/-- The first registrations of a run, in order. -/
def created (engine : Engine Data) : List (Call Data) → Database Data → List CollectionSchema
  | [], _ => []
  | call :: rest, database =>
      call.creates engine database ++ created engine rest (call.run engine database).1

/-- The migrations that a run has applied, in order. -/
def applied (engine : Engine Data) : List (Call Data) → Database Data → List MigrationRow
  | [], _ => []
  | call :: rest, database =>
      call.applies engine database ++ applied engine rest (call.run engine database).1

/-- All that one call can do to the registries, next to what it reports. -/
inductive RegistryStep : List CollectionSchema → List MigrationRow →
    RegistryRows → RegistryRows → Prop
  | same {before after : RegistryRows} (same : after = before) :
      RegistryStep [] [] before after
  | added {schema : CollectionSchema} {before after : RegistryRows}
      (added : SchemaAdded schema before after) : RegistryStep [schema] [] before after
  | replaced {migrationId : String} {source target : CollectionSchema}
      {before after : RegistryRows}
      (replaced : SchemaReplaced migrationId source target before after) :
      RegistryStep [] [migrationRow migrationId source target] before after

theorem Call.run_registry (call : Call Data) (leaves : call.LeavesRegistries)
    (database : Database Data) :
    RegistryStep (call.creates engine database) (call.applies engine database)
      database.registry (call.run engine database).1.registry := by
  cases call with
  | register derived =>
      rcases (@registerCollection_registry _ engine derived database) with
        ⟨notCreated, same⟩ | ⟨isCreated, added⟩
      · simp only [Call.creates, Call.applies, if_neg notCreated]
        exact .same same
      · simp only [Call.creates, Call.applies, if_pos isCreated]
        exact .added added
  | migrate migrationId source target operation =>
      rcases (@migrateCollection_registry _ engine migrationId source target operation leaves
        database) with ⟨notApplied, same⟩ | ⟨isApplied, replaced⟩
      · simp only [Call.creates, Call.applies, if_neg notApplied]
        exact .same same
      · simp only [Call.creates, Call.applies, if_pos isApplied]
        exact .replaced replaced
  | write change => exact .same rfl

end Csgdb.Registry
