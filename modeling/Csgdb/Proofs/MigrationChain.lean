/-
Module: Csgdb.Proofs.MigrationChain
Purpose: The migration registry of every collection is one chain, from the version of
  its first registration to the version that is in force.
Trusted boundary: none
Main exports: LinearHistory, migration_history_is_linear
-/
import Csgdb.Foundation.LinkedPath
import Csgdb.Proofs.RegistryRuns

namespace Csgdb.Registry

open Derive Storage Foundation

variable {Data : Type} {engine : Engine Data} {database : Database Data}

/-! ## Versions -/

/-- A version of a collection with its fingerprint. -/
abbrev SchemaVersion := UInt32 × SchemaFingerprint

def MigrationRow.start (row : MigrationRow) : SchemaVersion :=
  (row.fromVersion, row.fromFingerprint)

def MigrationRow.finish (row : MigrationRow) : SchemaVersion :=
  (row.toVersion, row.toFingerprint)

def SchemaRow.inForce (row : SchemaRow) : SchemaVersion := (row.version, row.fingerprint)

def schemaVersion (schema : CollectionSchema) : SchemaVersion :=
  (schema.version, schema.fingerprint)

/-- The rows of one collection. -/
def RegistryRows.migrationsOf (registry : RegistryRows) (collectionId : String) :
    List MigrationRow :=
  registry.migrations.filter fun row => row.collectionId = collectionId

theorem RegistryRows.migrationsOf_climb (registry : RegistryRows) (collectionId : String) :
    ∀ row ∈ registry.migrationsOf collectionId,
      row.start.1.toNat < row.finish.1.toNat := by
  intro row member
  have climbs := (registry.migrations_increase row (List.mem_filter.mp member).1).2
  exact UInt32.lt_iff_toNat_lt.mp climbs

/-! ## One call -/

/-- The registries of a run: every registered collection has one first registration,
from which its migrations lead to its row. -/
structure Chained (firsts : List CollectionSchema) (registry : RegistryRows) : Prop where
  registered : firsts.map CollectionSchema.id = registry.schemas.map SchemaRow.collectionId
  linked : ∀ row ∈ registry.schemas, ∀ first ∈ firsts, first.id = row.collectionId →
    Linked MigrationRow.start MigrationRow.finish (schemaVersion first)
      (registry.migrationsOf row.collectionId) row.inForce

theorem Chained.added {firsts : List CollectionSchema} {schema : CollectionSchema}
    {before after : RegistryRows} (chained : Chained firsts before)
    (added : SchemaAdded schema before after) : Chained (firsts ++ [schema]) after := by
  have sameMigrations : ∀ id, after.migrationsOf id = before.migrationsOf id := by
    intro id
    rw [RegistryRows.migrationsOf, added.migrations_eq, RegistryRows.migrationsOf]
  constructor
  · rw [added.schemas_eq, List.map_append, List.map_append, chained.registered]
    rfl
  · intro row member first isFirst sameId
    rw [added.schemas_eq] at member
    rw [sameMigrations]
    rcases List.mem_append.mp member with old | new
    · rcases List.mem_append.mp isFirst with oldFirst | newFirst
      · exact chained.linked row old first oldFirst sameId
      · obtain rfl := List.mem_singleton.mp newFirst
        exact absurd sameId.symm (added.new row old)
    · obtain rfl := List.mem_singleton.mp new
      rcases List.mem_append.mp isFirst with oldFirst | newFirst
      · have known : first.id ∈ before.schemas.map SchemaRow.collectionId := by
          rw [← chained.registered]
          exact List.mem_map_of_mem oldFirst
        obtain ⟨other, inSchemas, same⟩ := List.mem_map.mp known
        exact absurd (same.trans sameId) (added.new other inSchemas)
      · obtain rfl := List.mem_singleton.mp newFirst
        -- nothing has been migrated that was not registered
        have none : before.migrationsOf (schemaRow first).collectionId = [] := by
          rw [RegistryRows.migrationsOf, List.filter_eq_nil_iff]
          intro migration inMigrations same
          obtain ⟨owner, inSchemas, owns⟩ :=
            List.mem_map.mp (before.migrations_owned migration inMigrations)
          exact added.new owner inSchemas (owns.trans (of_decide_eq_true same))
        rw [none]
        exact .nil _

theorem Chained.replaced {firsts : List CollectionSchema} {migrationId : String}
    {source target : CollectionSchema} {before after : RegistryRows}
    (chained : Chained firsts before)
    (replaced : SchemaReplaced migrationId source target before after) :
    Chained firsts after := by
  constructor
  · rw [replaced.schemas_eq, List.map_map, chained.registered]
    apply List.map_congr_left
    intro row member
    by_cases own : row.collectionId = target.id
    · simp [own, schemaRow]
    · simp [own]
  · intro row member first isFirst sameId
    rw [replaced.schemas_eq] at member
    obtain ⟨old, inBefore, rfl⟩ := List.mem_map.mp member
    by_cases own : old.collectionId = target.id
    · simp only [own, if_true] at sameId ⊢
      have isSource : old = schemaRow source :=
        List.inj_on_of_nodup_map before.collectionIds_nodup inBefore replaced.source_row
          (own.trans replaced.id_eq.symm)
      have path := chained.linked old inBefore first isFirst (sameId.trans own.symm)
      have rows : after.migrationsOf target.id = before.migrationsOf old.collectionId ++
          [migrationRow migrationId source target] := by
        rw [RegistryRows.migrationsOf, replaced.migrations_eq, List.filter_append,
          RegistryRows.migrationsOf, own]
        simp [migrationRow, replaced.id_eq]
      have here : old.inForce = (migrationRow migrationId source target).start := by
        rw [isSource]
        rfl
      rw [here] at path
      show Linked _ _ _ (after.migrationsOf target.id) _
      rw [rows]
      exact path.snoc
    · simp only [own, if_false] at sameId ⊢
      have rows : after.migrationsOf old.collectionId =
          before.migrationsOf old.collectionId := by
        rw [RegistryRows.migrationsOf, replaced.migrations_eq, List.filter_append,
          RegistryRows.migrationsOf]
        simp [migrationRow, replaced.id_eq, Ne.symm own]
      rw [rows]
      exact chained.linked old inBefore first isFirst sameId

theorem RegistryStep.chained {firsts creates : List CollectionSchema}
    {applies : List MigrationRow} {before after : RegistryRows}
    (step : RegistryStep creates applies before after) (chained : Chained firsts before) :
    Chained (firsts ++ creates) after := by
  cases step with
  | same same =>
      rw [same, List.append_nil]
      exact chained
  | added added => exact chained.added added
  | replaced replaced =>
      rw [List.append_nil]
      exact chained.replaced replaced

theorem RegistryStep.migrations_eq {creates : List CollectionSchema}
    {applies : List MigrationRow} {before after : RegistryRows}
    (step : RegistryStep creates applies before after) :
    after.migrations = before.migrations ++ applies := by
  cases step with
  | same same => rw [same, List.append_nil]
  | added added => rw [added.migrations_eq, List.append_nil]
  | replaced replaced => exact replaced.migrations_eq

/-! ## Runs -/

theorem Chained.run {calls : List (Call Data)}
    (leaves : ∀ call ∈ calls, call.LeavesRegistries) {firsts : List CollectionSchema}
    (chained : Chained firsts database.registry) :
    Chained (firsts ++ created engine calls database)
      (runCalls engine calls database).registry := by
  induction calls generalizing database firsts with
  | nil =>
      rw [created, List.append_nil]
      exact chained
  | cons call rest inductionHypothesis =>
      rw [List.forall_mem_cons] at leaves
      have step := (@Call.run_registry _ engine call leaves.1 database).chained chained
      rw [created, ← List.append_assoc]
      exact inductionHypothesis leaves.2 step

theorem migrations_of_run {calls : List (Call Data)}
    (leaves : ∀ call ∈ calls, call.LeavesRegistries) :
    (runCalls engine calls database).registry.migrations =
      database.registry.migrations ++ applied engine calls database := by
  induction calls generalizing database with
  | nil => rw [applied, List.append_nil, runCalls]
  | cons call rest inductionHypothesis =>
      rw [List.forall_mem_cons] at leaves
      have step := (@Call.run_registry _ engine call leaves.1 database).migrations_eq
      rw [runCalls, inductionHypothesis leaves.2, step, applied, List.append_assoc]

/-! ## The history of a collection -/

/-- The order of the rows by version. -/
def migrationRowLe (left right : MigrationRow) : Bool :=
  decide (left.fromVersion ≤ right.fromVersion)

/-- The rows of a collection, ordered by version, are one path from its first
registration to its version in force; versions increase along it, and no migration id
occurs twice. -/
structure LinearHistory (first : CollectionSchema) (row : SchemaRow)
    (rows : List MigrationRow) : Prop where
  linked : Linked MigrationRow.start MigrationRow.finish (schemaVersion first)
    (rows.mergeSort migrationRowLe) row.inForce
  increasing : (first.version ::
    (rows.mergeSort migrationRowLe).map MigrationRow.toVersion).Pairwise (· < ·)
  ids : (rows.map MigrationRow.migrationId).Nodup

/-- A path of rows is ordered by version. -/
theorem mergeSort_of_linked {rows : List MigrationRow} {origin last : SchemaVersion}
    (path : Linked MigrationRow.start MigrationRow.finish origin rows last)
    (climbs : ∀ row ∈ rows, row.start.1.toNat < row.finish.1.toNat) :
    rows.mergeSort migrationRowLe = rows := by
  apply List.mergeSort_of_pairwise
  have ordered := (@Linked.climbs _ _ _ _ _ _ _ _ _ fun version : SchemaVersion =>
    version.1.toNat) path climbs
  refine ordered.imp_of_mem ?_
  intro earlier later inRows _ above
  have below := climbs earlier inRows
  apply decide_eq_true
  exact UInt32.le_iff_toNat_le.mpr (Nat.le_of_lt (Nat.lt_of_lt_of_le below above))

theorem increasing_of_linked {rows : List MigrationRow} {first : CollectionSchema}
    {last : SchemaVersion}
    (path : Linked MigrationRow.start MigrationRow.finish (schemaVersion first) rows last)
    (climbs : ∀ row ∈ rows, row.start.1.toNat < row.finish.1.toNat) :
    (first.version :: rows.map MigrationRow.toVersion).Pairwise (· < ·) := by
  have ordered := (@Linked.climbs _ _ _ _ _ _ _ _ _ fun version : SchemaVersion =>
    version.1.toNat) path climbs
  have between := (@Linked.rank_between _ _ _ _ _ _ _ _ _ fun version : SchemaVersion =>
    version.1.toNat) path climbs
  constructor
  · intro version member
    obtain ⟨row, inRows, rfl⟩ := List.mem_map.mp member
    apply UInt32.lt_iff_toNat_lt.mpr
    exact Nat.lt_of_le_of_lt (between row inRows).1 (climbs row inRows)
  · refine List.pairwise_map.mpr (ordered.imp_of_mem ?_)
    intro earlier later _ inRows above
    apply UInt32.lt_iff_toNat_lt.mpr
    exact Nat.lt_of_le_of_lt above (climbs later inRows)

theorem RegistryRows.migrationsOf_ids (registry : RegistryRows) (collectionId : String) :
    ((registry.migrationsOf collectionId).map MigrationRow.migrationId).Nodup := by
  apply List.Nodup.of_map (fun migrationId => (collectionId, migrationId))
  rw [List.map_map]
  have own : (registry.migrationsOf collectionId).map
      (fun row => (row.collectionId, row.migrationId)) =
        (registry.migrationsOf collectionId).map
          ((fun migrationId => (collectionId, migrationId)) ∘ MigrationRow.migrationId) := by
    apply List.map_congr_left
    intro row member
    have ofCollection : row.collectionId = collectionId := by
      simpa using (List.mem_filter.mp member).2
    rw [Function.comp_apply, ofCollection]
  rw [← own]
  exact registry.migrationKeys_nodup.sublist (List.filter_sublist.map _)

/-- In every run of registrations, migrations and writes on a database without
collections, with callbacks that leave the internal tables alone and whatever fails, the
rows of the migration registry are those of the applied migrations, and they tell a
linear history of every registered collection. -/
theorem migration_history_is_linear (engine : Engine Data) (start : Database Data)
    (empty : start.registry.schemas = []) (calls : List (Call Data))
    (leaves : ∀ call ∈ calls, call.LeavesRegistries) :
    (runCalls engine calls start).registry.migrations = applied engine calls start ∧
      ∀ row ∈ (runCalls engine calls start).registry.schemas,
        ∃ first ∈ created engine calls start, first.id = row.collectionId ∧
        (∀ other ∈ created engine calls start, other.id = row.collectionId →
          other = first) ∧
        LinearHistory first row
          ((applied engine calls start).filter fun migration =>
            migration.collectionId = row.collectionId) := by
  have noMigrations : start.registry.migrations = [] := by
    apply List.eq_nil_iff_forall_not_mem.mpr
    intro row member
    have owned := start.registry.migrations_owned row member
    rw [empty] at owned
    cases owned
  have chained : Chained [] start.registry := by
    refine ⟨by rw [empty]; rfl, ?_⟩
    rw [empty]
    intro row member
    cases member
  have rows := (@migrations_of_run _ engine start) leaves
  rw [noMigrations, List.nil_append] at rows
  have history := (@Chained.run _ engine _ _) leaves chained
  rw [List.nil_append] at history
  refine ⟨rows, ?_⟩
  intro row member
  have isCreated : row.collectionId ∈
      (created engine calls start).map CollectionSchema.id := by
    rw [history.registered]
    exact List.mem_map_of_mem member
  obtain ⟨first, isFirst, sameId⟩ := List.mem_map.mp isCreated
  have unique : ((created engine calls start).map CollectionSchema.id).Nodup := by
    rw [history.registered]
    exact (runCalls engine calls start).registry.collectionIds_nodup
  have path := history.linked row member first isFirst sameId
  have climbs := (runCalls engine calls start).registry.migrationsOf_climb row.collectionId
  have ids := (runCalls engine calls start).registry.migrationsOf_ids row.collectionId
  rw [← rows]
  refine ⟨first, isFirst, sameId, ?_, ?_, ?_, ids⟩
  · intro other isOther otherId
    exact List.inj_on_of_nodup_map unique isOther isFirst (otherId.trans sameId.symm)
  · show Linked _ _ _ (List.mergeSort (RegistryRows.migrationsOf _ _) _) _
    rw [mergeSort_of_linked path climbs]
    exact path
  · show List.Pairwise _ (_ :: (List.mergeSort (RegistryRows.migrationsOf _ _) _).map _)
    rw [mergeSort_of_linked path climbs]
    exact increasing_of_linked path climbs

/-- A registration, and a migration. -/
def notesCalls : List (Call Unit) :=
  [.register firstNotes, .migrate "unique-key" firstNotes secondNotes .ok]

theorem notes_history_is_linear :
    schemaRow secondNotes.schema ∈
        (runCalls willingEngine notesCalls emptyDatabase).registry.schemas ∧
      applied willingEngine notesCalls emptyDatabase =
        [migrationRow "unique-key" firstNotes.schema secondNotes.schema] ∧
      LinearHistory firstNotes.schema (schemaRow secondNotes.schema)
        [migrationRow "unique-key" firstNotes.schema secondNotes.schema] := by
  have final : runCalls willingEngine notesCalls emptyDatabase = notesMigrated := rfl
  have member : schemaRow secondNotes.schema ∈
      (runCalls willingEngine notesCalls emptyDatabase).registry.schemas := by
    rw [final]
    exact (migrateCollection_applied (expandCollection_wellFormed firstNotes_accepted)
      (expandCollection_wellFormed secondNotes_accepted) leavesRegistries_ok
      notesMigrated_applied).2.2.2.1.schema_row
  have isCreated : created willingEngine notesCalls emptyDatabase = [firstNotes.schema] := by
    simp only [notesCalls, created, Call.creates, notesCreated_created, if_true,
      List.append_nil]
  have isApplied : applied willingEngine notesCalls emptyDatabase =
      [migrationRow "unique-key" firstNotes.schema secondNotes.schema] := by
    simp only [notesCalls, applied, Call.applies, Call.run, notesCreated_created,
      notesMigrated_applied, if_true, List.append_nil, List.nil_append]
  obtain ⟨-, history⟩ := migration_history_is_linear willingEngine emptyDatabase rfl
    notesCalls (by
      simp only [notesCalls, List.forall_mem_cons, Call.LeavesRegistries]
      exact ⟨trivial, leavesRegistries_ok, fun _ none => absurd none List.not_mem_nil⟩)
  rw [isCreated, isApplied] at history
  obtain ⟨first, isFirst, -, -, linear⟩ := history _ member
  obtain rfl := List.mem_singleton.mp isFirst
  exact ⟨member, isApplied, linear⟩

end Csgdb.Registry
