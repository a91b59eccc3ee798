/-
Module: Csgdb.Proofs.MigrationReplay
Purpose: What happens when migrations that were applied one behind the other are
  applied again with the same ids and endpoints.
Trusted boundary: none
Main exports: AppliedChain, ChainKept, replay_succeeds_iff_newest,
  older_migration_not_replayed
-/
import Csgdb.Proofs.MigrationChain

namespace Csgdb.Registry

open Derive Storage Foundation

variable {Data : Type} {engine : Engine Data} {host : MacroHost}
  {database changed : Database Data}

/-! ## Applied migrations -/

theorem RegistryStep.migrations_subset {creates : List CollectionSchema}
    {applies : List MigrationRow} {before after : RegistryRows}
    (step : RegistryStep creates applies before after) :
    before.migrations ⊆ after.migrations := by
  rw [step.migrations_eq]
  exact List.subset_append_left _ _

/-- Recorded migrations stay recorded. -/
theorem Later.migrations {schema : CollectionSchema} {start final : Database Data}
    (run : Later engine host schema LeavesRegistries start final) :
    start.registry.migrations ⊆ final.registry.migrations := by
  induction run with
  | refl => exact List.Subset.refl _
  | @register middle input other before accepted inductionHypothesis =>
      have step := @Call.run_registry _ engine (.register other) trivial middle
      exact List.Subset.trans inductionHypothesis step.migrations_subset
  | @migrate middle _ _ source target migrationId operation before _ _ other leaves spares
      inductionHypothesis =>
      have step := @Call.run_registry _ engine
        (.migrate migrationId source target operation) leaves middle
      exact List.Subset.trans inductionHypothesis step.migrations_subset
  | change before data inductionHypothesis => exact inductionHypothesis

/-- A migration with its id and its endpoints. -/
structure AppliedMigration where
  migrationId : String
  source : DerivedCollection
  target : DerivedCollection

def AppliedMigration.start (migration : AppliedMigration) : SchemaRow :=
  schemaRow migration.source.schema

def AppliedMigration.finish (migration : AppliedMigration) : SchemaRow :=
  schemaRow migration.target.schema

def AppliedMigration.row (migration : AppliedMigration) : MigrationRow :=
  migrationRow migration.migrationId migration.source.schema migration.target.schema

/-- `migrate_collection` with the id and the endpoints of a migration. -/
def AppliedMigration.migrate (engine : Engine Data)
    (operation : Database Data → Result (Database Data)) (migration : AppliedMigration)
    (database : Database Data) : Database Data × Result MigrationStatus :=
  migrateCollection engine migration.migrationId migration.source migration.target operation
    database

/-- Migrations of one collection that were applied one behind the other, with the
version that is in force after them. -/
inductive AppliedChain (engine : Engine Data) (host : MacroHost) (start : Database Data) :
    List AppliedMigration → DerivedCollection → Database Data → Prop
  | first {sourceInput targetInput : DeriveInput} {migration : AppliedMigration}
      {operation : Database Data → Result (Database Data)} {next : Database Data}
      (sourceAccepted : expandCollection host sourceInput = .ok migration.source)
      (targetAccepted : expandCollection host targetInput = .ok migration.target)
      (leaves : LeavesRegistries operation)
      (ok : migration.migrate engine operation start = (next, .ok .applied)) :
      AppliedChain engine host start [migration] migration.target next
  | meanwhile {chain : List AppliedMigration} {current : DerivedCollection}
      {middle next : Database Data}
      (before : AppliedChain engine host start chain current middle)
      (run : Later engine host current.schema LeavesRegistries middle next) :
      AppliedChain engine host start chain current next
  | next {chain : List AppliedMigration} {current : DerivedCollection}
      {middle next : Database Data} {sourceInput targetInput : DeriveInput}
      {migration : AppliedMigration} {operation : Database Data → Result (Database Data)}
      (before : AppliedChain engine host start chain current middle)
      (sourceAccepted : expandCollection host sourceInput = .ok migration.source)
      (targetAccepted : expandCollection host targetInput = .ok migration.target)
      (same : migration.source.schema.id = current.schema.id)
      (leaves : LeavesRegistries operation)
      (ok : migration.migrate engine operation middle = (next, .ok .applied)) :
      AppliedChain engine host start (chain ++ [migration]) migration.target next

/-! ## What a chain leaves -/

/-- A migration that stands in the registry, for the collection in force. -/
structure AppliedMigration.Stands (migration : AppliedMigration)
    (current : CollectionSchema) (database : Database Data) : Prop where
  validated : validateMigration migration.source.schema migration.target.schema
    migration.migrationId = .ok ()
  id_eq : migration.source.schema.id = current.id
  recorded : migration.row ∈ database.registry.migrations

/-- What applied migrations leave behind them: the last version is registered, they are
all recorded, and they lead up to it. -/
structure ChainKept (chain : List AppliedMigration) (current : DerivedCollection)
    (database : Database Data) : Prop where
  formed : current.schema.WellFormed
  registered : Registered current.schema database
  linked : ∃ origin, Linked AppliedMigration.start AppliedMigration.finish origin chain
    (schemaRow current.schema)
  newest : chain.getLast?.map AppliedMigration.target = some current
  stands : ∀ migration ∈ chain, migration.Stands current.schema database

theorem migrateCollection_validated {migrationId : String}
    {source target : DerivedCollection} {status : MigrationStatus}
    {operation : Database Data → Result (Database Data)}
    (ok : migrateCollection engine migrationId source target operation database =
      (changed, .ok status)) :
    validateMigration source.schema target.schema migrationId = .ok () := by
  unfold migrateCollection at ok
  split at ok
  case h_1 => cases (Prod.mk.inj ok).2
  case h_2 validated => exact validated

/-- What one applied migration adds. -/
structure MigrationStands (migration : AppliedMigration) (before after : Database Data) :
    Prop where
  formed : migration.target.schema.WellFormed
  registered : Registered migration.target.schema after
  source_row : migration.start ∈ before.registry.schemas
  stands : migration.Stands migration.target.schema after
  kept : before.registry.migrations ⊆ after.registry.migrations

theorem AppliedMigration.migrate_stands {sourceInput targetInput : DeriveInput}
    {migration : AppliedMigration} {operation : Database Data → Result (Database Data)}
    (sourceAccepted : expandCollection host sourceInput = .ok migration.source)
    (targetAccepted : expandCollection host targetInput = .ok migration.target)
    (leaves : LeavesRegistries operation)
    (ok : migration.migrate engine operation database = (changed, .ok .applied)) :
    MigrationStands migration database changed := by
  have validated := migrateCollection_validated ok
  obtain ⟨sameId, -, -, registered, -⟩ := migrateCollection_applied
    (expandCollection_wellFormed sourceAccepted) (expandCollection_wellFormed targetAccepted)
    leaves ok
  have result : (migration.migrate engine operation database).2 = .ok .applied := by rw [ok]
  have next : (migration.migrate engine operation database).1 = changed := by rw [ok]
  rcases (@migrateCollection_registry _ engine migration.migrationId migration.source
    migration.target operation leaves database) with ⟨notApplied, -⟩ | ⟨-, replaced⟩
  · exact absurd result notApplied
  · change SchemaReplaced _ _ _ _
      (migration.migrate engine operation database).1.registry at replaced
    rw [next] at replaced
    exact
      { formed := replaced.accepted
        registered := registered
        source_row := replaced.source_row
        stands :=
          { validated := validated
            id_eq := sameId
            recorded := by
              rw [replaced.migrations_eq]
              exact List.mem_append_right _ (List.mem_singleton.mpr rfl) }
        kept := by
          rw [replaced.migrations_eq]
          exact List.subset_append_left _ _ }

theorem AppliedChain.kept {start final : Database Data} {chain : List AppliedMigration}
    {current : DerivedCollection} (applied : AppliedChain engine host start chain current final) :
    ChainKept chain current final := by
  induction applied with
  | @first _ _ migration _ _ sourceAccepted targetAccepted leaves ok =>
      have stands := migration.migrate_stands sourceAccepted targetAccepted leaves ok
      exact
        { formed := stands.formed
          registered := stands.registered
          linked := ⟨_, .cons (.nil _)⟩
          newest := rfl
          stands := by
            intro other member
            obtain rfl := List.mem_singleton.mp member
            exact stands.stands }
  | meanwhile before run inductionHypothesis =>
      exact
        { formed := inductionHypothesis.formed
          registered := run.registered inductionHypothesis.registered
          linked := inductionHypothesis.linked
          newest := inductionHypothesis.newest
          stands := by
            intro migration member
            have stands := inductionHypothesis.stands migration member
            exact ⟨stands.validated, stands.id_eq, run.migrations stands.recorded⟩ }
  | @next chain current middle final _ _ migration operation before sourceAccepted
      targetAccepted same leaves ok inductionHypothesis =>
      have stands := migration.migrate_stands sourceAccepted targetAccepted leaves ok
      obtain ⟨origin, path⟩ := inductionHypothesis.linked
      -- the version in force is where the migration starts
      have here : schemaRow current.schema = migration.start :=
        List.inj_on_of_nodup_map middle.registry.collectionIds_nodup
          inductionHypothesis.registered.schema_row stands.source_row same.symm
      rw [here] at path
      exact
        { formed := stands.formed
          registered := stands.registered
          linked := ⟨origin, path.snoc⟩
          newest := by rw [List.getLast?_concat]; rfl
          stands := by
            intro other member
            rcases List.mem_append.mp member with earlier | last
            · have old := inductionHypothesis.stands other earlier
              refine ⟨old.validated, ?_, stands.kept old.recorded⟩
              exact old.id_eq.trans (same.symm.trans stands.stands.id_eq)
            · obtain rfl := List.mem_singleton.mp last
              exact stands.stands }

/-- Along a chain versions increase. -/
theorem ChainKept.climbs {chain : List AppliedMigration} {current : DerivedCollection}
    (kept : ChainKept chain current database) :
    ∀ migration ∈ chain,
      migration.start.version.toNat < migration.finish.version.toNat := by
  intro migration member
  have climbs := (validateMigration_ok (kept.stands migration member).validated).2.2.1
  exact UInt32.lt_iff_toNat_lt.mp climbs

/-- A migration of a chain is the last one when it leads to the version in force. -/
theorem ChainKept.newest_of_finish {chain : List AppliedMigration}
    {current : DerivedCollection} (kept : ChainKept chain current database)
    {migration : AppliedMigration} (member : migration ∈ chain)
    (inForce : migration.finish = schemaRow current.schema) :
    chain.getLast? = some migration := by
  obtain ⟨origin, path⟩ := kept.linked
  exact (@Linked.eq_last_of_target _ _ _ _ _ _ _ _ _ fun row : SchemaRow =>
    row.version.toNat) path kept.climbs member
    (by rw [inForce])

/-! ## Replay -/

theorem findMigration_of_mem {migration : AppliedMigration}
    (recorded : migration.row ∈ database.registry.migrations) :
    findMigration database migration.source.schema.id migration.migrationId =
      some migration.row := by
  have found := find?_of_nodup_map database.registry.migrationKeys_nodup recorded
  unfold findMigration
  rw [← found]
  congr 1
  funext other
  simp [AppliedMigration.row, migrationRow]

theorem currentSchema_of_registered {schema : CollectionSchema} (formed : schema.WellFormed)
    (registered : Registered schema database) :
    currentSchema database schema.id = .ok (schemaRow schema) := by
  unfold currentSchema
  rw [findRegisteredSchema_of_mem formed registered.schema_row]
  rfl

theorem ensureMigrationMatches_row (migration : AppliedMigration) :
    ensureMigrationMatches migration.row migration.source.schema migration.target.schema =
      .ok () := by
  simp [ensureMigrationMatches, AppliedMigration.row, migrationRow]

/-- The check of a recorded migration whose target is no longer in force. -/
theorem checkApplied_older {current : DerivedCollection} {migration : AppliedMigration}
    (formed : current.schema.WellFormed) (registered : Registered current.schema database)
    (stands : migration.Stands current.schema database)
    (older : migration.finish ≠ schemaRow current.schema) :
    checkApplied migration.row migration.source.schema migration.target.schema database =
      .error migrationMismatch := by
  have mismatch : ensureRegisteredSchemaMatches migration.target.schema
      (schemaRow current.schema) = .error schemaMismatch :=
    if_neg fun inForce => older inForce.symm
  unfold checkApplied
  rw [ensureMigrationMatches_row, ok_bind, stands.id_eq,
    currentSchema_of_registered formed registered, ok_bind, mismatch]
  rfl

/-- The check of a recorded migration whose target is in force. -/
theorem checkApplied_newest {migration : AppliedMigration}
    (formed : migration.target.schema.WellFormed)
    (registered : Registered migration.target.schema database)
    (stands : migration.Stands migration.target.schema database) :
    checkApplied migration.row migration.source.schema migration.target.schema database =
      .ok () := by
  have indexesOk := (validateRegisteredIndexes_ok_iff formed).mpr registered.index_rows
  have tableOk := (validatePhysicalTable_ok_iff
    (fields_ne_nil_of_wellFormed formed)).mpr registered.table_fits
  have physicalOk := validatePhysicalIndexes_ok_iff.mpr registered.indexes_present
  have inForce : ensureRegisteredSchemaMatches migration.target.schema
      (schemaRow migration.target.schema) = .ok () := if_pos rfl
  unfold checkApplied
  rw [ensureMigrationMatches_row, ok_bind, stands.id_eq,
    currentSchema_of_registered formed registered, ok_bind, inForce, indexesOk, tableOk,
    physicalOk]
  rfl

/-- A recorded migration runs its check only, and changes nothing. -/
theorem AppliedMigration.replay {current : DerivedCollection} {migration : AppliedMigration}
    (registered : Registered current.schema database)
    (stands : migration.Stands current.schema database)
    (committed : engine.commit database = .ok ())
    (operation : Database Data → Result (Database Data)) :
    migration.migrate engine operation database =
      (database, (checkApplied migration.row migration.source.schema
        migration.target.schema database).map fun _ => .alreadyApplied) := by
  unfold AppliedMigration.migrate migrateCollection
  simp only [stands.validated, transaction, migrateBody,
    initializeSchemaRegistries_idle registered.registries, ok_bind,
    findMigration_of_mem stands.recorded]
  cases checkApplied migration.row migration.source.schema migration.target.schema
      database with
  | error failure => rfl
  | ok =>
      simp only [ok_bind, committed]
      rfl

/-- In a chain exactly the last migration is reported as applied. -/
theorem ChainKept.replay {chain : List AppliedMigration} {current : DerivedCollection}
    (kept : ChainKept chain current database) (committed : engine.commit database = .ok ())
    {migration : AppliedMigration} (member : migration ∈ chain)
    (operation : Database Data → Result (Database Data)) :
    (chain.getLast? = some migration ∧ migration.migrate engine operation database =
        (database, .ok .alreadyApplied)) ∨
      (chain.getLast? ≠ some migration ∧ migration.migrate engine operation database =
        (database, .error migrationMismatch)) := by
  have stands := kept.stands migration member
  rw [AppliedMigration.replay kept.registered stands committed]
  by_cases inForce : migration.finish = schemaRow current.schema
  · have newest := kept.newest_of_finish member inForce
    have target := kept.newest
    rw [newest] at target
    obtain rfl : migration.target = current := Option.some.inj target
    rw [checkApplied_newest kept.formed kept.registered stands]
    exact .inl ⟨newest, rfl⟩
  · rw [checkApplied_older kept.formed kept.registered stands inForce]
    refine .inr ⟨fun newest => inForce ?_, rfl⟩
    have target := kept.newest
    rw [newest] at target
    obtain rfl : migration.target = current := Option.some.inj target
    rfl

/-- Replays migrations in order, each with its callback. -/
def replayAll (engine : Engine Data)
    (operation : AppliedMigration → Database Data → Result (Database Data)) :
    List AppliedMigration → Database Data →
      Database Data × List (Result MigrationStatus)
  | [], database => (database, [])
  | migration :: rest, database =>
      let (next, status) := migration.migrate engine (operation migration) database
      let (final, statuses) := replayAll engine operation rest next
      (final, status :: statuses)

/-- The first migration of a chain of two or more is not the last one. -/
theorem ChainKept.first_ne_last {first second : AppliedMigration}
    {rest : List AppliedMigration} {current : DerivedCollection}
    (kept : ChainKept (first :: second :: rest) current database) :
    (first :: second :: rest).getLast? ≠ some first := by
  intro newest
  obtain ⟨origin, path⟩ := kept.linked
  have ordered := (@Linked.climbs _ _ _ _ _ _ _ _ _ fun row : SchemaRow =>
    row.version.toNat) path kept.climbs
  have isLater : first ∈ second :: rest := by
    rw [List.getLast?_cons_cons] at newest
    exact List.mem_of_getLast? newest
  have above := (List.pairwise_cons.mp ordered).1 first isLater
  have below := kept.climbs first List.mem_cons_self
  omega

/-- Replaying a migration that was applied reports that it was applied, without its
callback and without a change, exactly when it is the newest one of its chain; and
replaying a whole chain does so for each of its migrations exactly when it has only
one. -/
theorem replay_succeeds_iff_newest (engine : Engine Data) (host : MacroHost)
    (commits : ∀ database, engine.commit database = .ok ())
    (start final : Database Data) (chain : List AppliedMigration)
    (current : DerivedCollection)
    (applied : AppliedChain engine host start chain current final) :
    (∀ migration ∈ chain,
      (∀ operation, migration.migrate engine operation final =
        (final, .ok .alreadyApplied)) ↔ chain.getLast? = some migration) ∧
    ((∀ operation, replayAll engine operation chain final =
        (final, chain.map fun _ => .ok .alreadyApplied)) ↔ chain.length = 1) := by
  have kept := applied.kept
  constructor
  · intro migration member
    constructor
    · intro replays
      rcases kept.replay (commits final) member Except.ok with ⟨newest, -⟩ | ⟨-, refused⟩
      · exact newest
      · rw [replays Except.ok] at refused
        cases (Prod.mk.inj refused).2
    · intro newest operation
      rcases kept.replay (commits final) member operation with ⟨-, ok⟩ | ⟨older, -⟩
      · exact ok
      · exact absurd newest older
  · cases chain with
    | nil =>
        have newest := kept.newest
        cases newest
    | cons first rest =>
        cases rest with
        | nil =>
            refine ⟨fun _ => rfl, fun _ operation => ?_⟩
            rcases kept.replay (commits final) List.mem_cons_self (operation first) with
              ⟨-, ok⟩ | ⟨older, -⟩
            · simp only [replayAll, ok, List.map_cons, List.map_nil]
            · exact absurd rfl older
        | cons second rest =>
            refine ⟨fun replays => ?_, fun one => by simp at one⟩
            rcases kept.replay (commits final) List.mem_cons_self Except.ok with
              ⟨newest, -⟩ | ⟨-, refused⟩
            · exact absurd newest kept.first_ne_last
            · have statuses := congrArg Prod.snd (replays fun _ => Except.ok)
              simp only [replayAll, refused, List.map_cons] at statuses
              cases (List.cons.inj statuses).1

/-! ## Three versions -/

def thirdNotesDescriptor : String :=
  "csgdb-schema-v1\ncollection:5:notes\ntable:5:notes\n" ++
    "version:3\nfield:2:id:2:id:Integer:0:1\n"

def thirdNotesDigest : SchemaFingerprint :=
  #v[0xf7, 0xbb, 0x03, 0x6b, 0x32, 0x21, 0x1a, 0xc3, 0x44, 0x85, 0x22,
    0xcf, 0xed, 0x53, 0x45, 0x34, 0x46, 0xe4, 0xfb, 0x1b, 0x12, 0xe7,
    0x2d, 0x9b, 0x04, 0xe9, 0x27, 0x3a, 0x76, 0xda, 0x74, 0x07]

/-- SHA-256 on the descriptors of the three versions. -/
def threeNotesHost : MacroHost :=
  { notesHost with
    sha256 := fun text =>
      if text = thirdNotesDescriptor then thirdNotesDigest else notesHost.sha256 text }

def thirdNotesInput : DeriveInput :=
  notesInput 3 [.id "key", .name "notes_key", .field "id", .unique]

def thirdNotes : DerivedCollection :=
  { secondNotes with
    version := 3, canonical := thirdNotesDescriptor, fingerprint := thirdNotesDigest }

def uniqueKeyMigration : AppliedMigration := ⟨"unique-key", firstNotes, secondNotes⟩

def renumberMigration : AppliedMigration := ⟨"renumber", secondNotes, thirdNotes⟩

/-- The database after both migrations. -/
def notesRenumbered : Database Unit :=
  (renumberMigration.migrate willingEngine .ok notesMigrated).1

theorem notesRenumbered_applied :
    renumberMigration.migrate willingEngine .ok notesMigrated =
      (notesRenumbered, .ok .applied) := by
  have status : (renumberMigration.migrate willingEngine .ok notesMigrated).2 =
      .ok .applied := by
    decide +kernel
  unfold notesRenumbered
  rw [← status]

theorem threeNotes_applied :
    AppliedChain willingEngine threeNotesHost notesCreated
      [uniqueKeyMigration, renumberMigration] thirdNotes notesRenumbered := by
  have firstAccepted : expandCollection threeNotesHost firstNotesInput = .ok firstNotes := by
    decide +kernel
  have secondAccepted :
      expandCollection threeNotesHost secondNotesInput = .ok secondNotes := by
    decide +kernel
  have thirdAccepted : expandCollection threeNotesHost thirdNotesInput = .ok thirdNotes := by
    decide +kernel
  have one : AppliedChain willingEngine threeNotesHost notesCreated [uniqueKeyMigration]
      secondNotes notesMigrated :=
    .first firstAccepted secondAccepted leavesRegistries_ok notesMigrated_applied
  exact .next one secondAccepted thirdAccepted rfl leavesRegistries_ok
    notesRenumbered_applied

/-- Both migrations were applied; the first one, applied again, is reported as a
mismatch, by itself and at the head of the list. -/
theorem older_migration_not_replayed :
    AppliedChain willingEngine threeNotesHost notesCreated
        [uniqueKeyMigration, renumberMigration] thirdNotes notesRenumbered ∧
      uniqueKeyMigration.migrate willingEngine .ok notesRenumbered =
        (notesRenumbered, .error migrationMismatch) ∧
      (replayAll willingEngine (fun _ => .ok) [uniqueKeyMigration, renumberMigration]
        notesRenumbered).2 ≠ [.ok .alreadyApplied, .ok .alreadyApplied] := by
  have differ : renumberMigration ≠ uniqueKeyMigration := fun same =>
    absurd (congrArg AppliedMigration.migrationId same) (by decide)
  have refused : uniqueKeyMigration.migrate willingEngine .ok notesRenumbered =
      (notesRenumbered, .error migrationMismatch) := by
    have committed : willingEngine.commit notesRenumbered = .ok () := rfl
    rcases threeNotes_applied.kept.replay committed List.mem_cons_self Except.ok with
      ⟨newest, -⟩ | ⟨-, refused⟩
    · exact absurd (Option.some.inj newest) differ
    · exact refused
  refine ⟨threeNotes_applied, refused, ?_⟩
  simp [replayAll, refused]

theorem newest_migration_replayed :
    renumberMigration.migrate willingEngine .ok notesRenumbered =
      (notesRenumbered, .ok .alreadyApplied) := by
  have replays := replay_succeeds_iff_newest willingEngine threeNotesHost (fun _ => rfl)
    notesCreated notesRenumbered _ thirdNotes threeNotes_applied
  exact (replays.1 renumberMigration (by simp)).mpr rfl .ok

end Csgdb.Registry
