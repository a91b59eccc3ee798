/-
Module: Csgdb.Proofs.TableOwners
Purpose: Which runs of registrations and migrations leave every physical table with
  one owner and the internal tables with none.
Trusted boundary: the engine compares table names without regard to ASCII case; a
  migration callback leaves the internal tables alone.
Main exports: TablesOwned, KeepsSpelling, tables_have_one_owner
-/
import Csgdb.Proofs.RegistryRuns

namespace Csgdb.Registry

open Derive Storage Foundation

variable {Data : Type} {engine : Engine Data} {database : Database Data}

/-! ## Owners -/

/-- Two collections never denote one table. -/
def OneOwner (registry : RegistryRows) : Prop :=
  ∀ left ∈ registry.schemas, ∀ right ∈ registry.schemas,
    foldName left.tableName = foldName right.tableName →
      left.collectionId = right.collectionId

/-- No collection denotes an internal table. -/
def InternalUnowned (registry : RegistryRows) : Prop :=
  ∀ row ∈ registry.schemas, ∀ internal ∈ internalTables,
    foldName row.tableName ≠ foldName internal

/-- The engine's reading of the registered table names. -/
structure TablesOwned (registry : RegistryRows) : Prop where
  one_owner : OneOwner registry
  internal_unowned : InternalUnowned registry

/-- The registry compares bytes.  A table name keeps the spelling when it is written
exactly like every internal table, and every table of another collection, that the
engine takes for the same. -/
def KeepsSpelling (schema : CollectionSchema) (registry : RegistryRows) : Prop :=
  (∀ internal ∈ internalTables,
    foldName internal = foldName schema.table → internal = schema.table) ∧
  ∀ row ∈ registry.schemas, row.collectionId ≠ schema.id →
    foldName row.tableName = foldName schema.table → row.tableName = schema.table

/-! ## One call -/

/-- A schema took its place among the registered ones, by a registration or by a
migration. -/
structure SchemaPut (schema : CollectionSchema) (before after : RegistryRows) : Prop where
  accepted : schema.WellFormed
  unclaimed : ∀ row ∈ before.schemas, row.collectionId ≠ schema.id →
    row.tableName ≠ schema.table
  mem_iff : ∀ row, row ∈ after.schemas ↔
    row = schemaRow schema ∨ (row ∈ before.schemas ∧ row.collectionId ≠ schema.id)

theorem SchemaAdded.put {schema : CollectionSchema} {before after : RegistryRows}
    (added : SchemaAdded schema before after) : SchemaPut schema before after where
  accepted := added.accepted
  unclaimed := fun row member _ => added.unclaimed row member
  mem_iff := by
    intro row
    rw [added.schemas_eq, List.mem_append, List.mem_singleton, or_comm]
    constructor
    · rintro (rfl | member)
      · exact .inl rfl
      · exact .inr ⟨member, added.new row member⟩
    · rintro (rfl | ⟨member, -⟩)
      · exact .inl rfl
      · exact .inr member

theorem SchemaReplaced.put {migrationId : String} {source target : CollectionSchema}
    {before after : RegistryRows}
    (replaced : SchemaReplaced migrationId source target before after) :
    SchemaPut target before after where
  accepted := replaced.accepted
  unclaimed := replaced.unclaimed
  mem_iff := by
    intro row
    rw [replaced.schemas_eq, List.mem_map]
    constructor
    · rintro ⟨old, member, rfl⟩
      by_cases own : old.collectionId = target.id
      · rw [if_pos own]
        exact .inl rfl
      · rw [if_neg own]
        exact .inr ⟨member, own⟩
    · rintro (rfl | ⟨member, foreign⟩)
      · exact ⟨schemaRow source, replaced.source_row, if_pos replaced.id_eq⟩
      · exact ⟨row, member, if_neg foreign⟩

/-- A name with an internal table's spelling has the reserved beginning. -/
theorem hasReservedPrefix_internal {internal : String} (member : internal ∈ internalTables) :
    hasReservedPrefix internal = true := by
  have all : ∀ name ∈ internalTables, hasReservedPrefix name = true := by decide
  exact all internal member

/-- Exactly the schemas that keep the spelling leave every table with one owner. -/
theorem SchemaPut.tablesOwned_iff {schema : CollectionSchema} {before after : RegistryRows}
    (put : SchemaPut schema before after) (owned : TablesOwned before) :
    TablesOwned after ↔ KeepsSpelling schema before := by
  have placed : schemaRow schema ∈ after.schemas := (put.mem_iff _).mpr (.inl rfl)
  constructor
  · intro next
    constructor
    · intro internal member same
      exact absurd same.symm (next.internal_unowned _ placed internal member)
    · intro row member foreign same
      have kept : row ∈ after.schemas := (put.mem_iff row).mpr (.inr ⟨member, foreign⟩)
      exact absurd (next.one_owner row kept _ placed same) foreign
  · intro keeps
    have apart : ∀ row ∈ before.schemas, row.collectionId ≠ schema.id →
        foldName row.tableName ≠ foldName schema.table := by
      intro row member foreign same
      exact put.unclaimed row member foreign (keeps.2 row member foreign same)
    constructor
    · intro left leftMember right rightMember same
      rcases (put.mem_iff left).mp leftMember with rfl | ⟨leftOld, leftForeign⟩
      · rcases (put.mem_iff right).mp rightMember with rfl | ⟨rightOld, rightForeign⟩
        · rfl
        · exact absurd same.symm (apart right rightOld rightForeign)
      · rcases (put.mem_iff right).mp rightMember with rfl | ⟨rightOld, -⟩
        · exact absurd same (apart left leftOld leftForeign)
        · exact owned.one_owner left leftOld right rightOld same
    · intro row member internal isInternal same
      rcases (put.mem_iff row).mp member with rfl | ⟨old, -⟩
      · have spelled : internal = schema.table := keeps.1 internal isInternal same.symm
        have reserved := hasReservedPrefix_internal isInternal
        rw [spelled, put.accepted.table_unreserved] at reserved
        cases reserved
      · exact owned.internal_unowned row old internal isInternal same

/-- The schema that a call puts in force when it takes effect. -/
def Call.puts : Call Data → Option CollectionSchema
  | .register derived => some derived.schema
  | .migrate _ _ target _ => some target.schema
  | .write _ => none

theorem Call.run_put (call : Call Data) (leaves : call.LeavesRegistries)
    (database : Database Data) :
    (call.run engine database).1.registry = database.registry ∨
      ∃ schema, call.puts = some schema ∧
        SchemaPut schema database.registry (call.run engine database).1.registry := by
  cases call with
  | register derived =>
      rcases (@registerCollection_registry _ engine derived database) with
        ⟨-, same⟩ | ⟨-, added⟩
      · exact .inl same
      · exact .inr ⟨derived.schema, rfl, added.put⟩
  | migrate migrationId source target operation =>
      rcases (@migrateCollection_registry _ engine migrationId source target operation leaves
        database) with ⟨-, same⟩ | ⟨-, replaced⟩
      · exact .inl same
      · exact .inr ⟨target.schema, rfl, replaced.put⟩
  | write change => exact .inl rfl

theorem Call.run_register (derived : DerivedCollection) (database : Database Data) :
    (Call.run engine (.register derived) database).1 =
      (registerCollection engine derived database).1 := rfl

/-! ## Runs -/

/-- A call whose table name keeps the spelling of the names there are. -/
def Call.KeepsSpelling (call : Call Data) (database : Database Data) : Prop :=
  ∀ schema ∈ call.puts, Registry.KeepsSpelling schema database.registry

theorem Call.run_tablesOwned (call : Call Data) (leaves : call.LeavesRegistries)
    (keeps : call.KeepsSpelling database) (owned : TablesOwned database.registry) :
    TablesOwned (call.run engine database).1.registry := by
  rcases (@Call.run_put _ engine call leaves database) with same | ⟨schema, isPut, put⟩
  · rw [same]
    exact owned
  · exact (put.tablesOwned_iff owned).mpr (keeps schema isPut)

/-- Every call of a run keeps the spelling, in the state it runs in. -/
def RunKeepsSpelling (engine : Engine Data) : List (Call Data) → Database Data → Prop
  | [], _ => True
  | call :: rest, database =>
      call.KeepsSpelling database ∧
        RunKeepsSpelling engine rest (call.run engine database).1

/-- In a run whose calls all keep the spelling, every state reached has one owner for
each table and none for the internal tables. -/
theorem tables_have_one_owner (engine : Engine Data) (database : Database Data)
    (owned : TablesOwned database.registry) (calls : List (Call Data))
    (leaves : ∀ call ∈ calls, call.LeavesRegistries)
    (keeps : RunKeepsSpelling engine calls database) (count : Nat) :
    TablesOwned (runCalls engine (calls.take count) database).registry := by
  induction calls generalizing database count with
  | nil =>
      rw [List.take_nil]
      exact owned
  | cons call rest inductionHypothesis =>
      cases count with
      | zero => exact owned
      | succ count =>
          rw [List.forall_mem_cons] at leaves
          have next := @Call.run_tablesOwned _ engine _ call leaves.1 keeps.1 owned
          exact inductionHypothesis _ next leaves.2 keeps.2 count

/-! ## Spellings -/

def memosDescriptor : String :=
  "csgdb-schema-v1\ncollection:5:memos\ntable:5:memos\n" ++
    "version:1\nfield:2:id:2:id:Integer:0:1\n"

def capitalNotesDescriptor : String :=
  "csgdb-schema-v1\ncollection:5:memos\ntable:5:Notes\n" ++
    "version:1\nfield:2:id:2:id:Integer:0:1\n"

def mirrorDescriptor : String :=
  "csgdb-schema-v1\ncollection:6:mirror\ntable:14:__CSGDB_SCHEMA\nversion:1\n" ++
    "field:13:collection_id:13:collection_id:Text:0:1\n" ++
    "field:10:descriptor:10:descriptor:Text:0:0\n" ++
    "field:11:fingerprint:11:fingerprint:Blob:0:0\n" ++
    "field:14:schema_version:14:schema_version:Integer:0:0\n" ++
    "field:10:table_name:10:table_name:Text:0:0\n"

def memosDigest : SchemaFingerprint :=
  #v[0x61, 0x4c, 0xdb, 0x11, 0x13, 0xa8, 0xcf, 0xba, 0x15, 0xfb, 0x6e,
    0xcc, 0x0d, 0x55, 0xad, 0xdf, 0x1e, 0xe8, 0x3d, 0x5b, 0x3e, 0x65,
    0xa3, 0xe3, 0xfb, 0x42, 0xb5, 0x4b, 0x32, 0xfe, 0xe2, 0x3a]

def capitalNotesDigest : SchemaFingerprint :=
  #v[0x0f, 0x18, 0xb0, 0x14, 0x5b, 0x70, 0x52, 0x80, 0xa6, 0x29, 0xe5,
    0xf3, 0x7a, 0x67, 0x70, 0xb7, 0x82, 0x22, 0x5c, 0x7e, 0x39, 0xe7,
    0x65, 0x24, 0x55, 0x2f, 0x65, 0x68, 0x33, 0x7d, 0xcd, 0xa3]

def mirrorDigest : SchemaFingerprint :=
  #v[0xa5, 0xc0, 0xb1, 0xd6, 0xbe, 0x81, 0x46, 0x07, 0xc3, 0xe7, 0x1a,
    0x34, 0x83, 0x22, 0xc6, 0x6e, 0x47, 0xa7, 0xfc, 0xd4, 0xf3, 0xd5,
    0x96, 0x84, 0xcf, 0x10, 0x69, 0x52, 0xfa, 0x7a, 0x51, 0x72]

/-- SHA-256 on the descriptors of these collections. -/
def spellingHost : MacroHost :=
  { notesHost with
    sha256 := fun text =>
      if text = mirrorDescriptor then mirrorDigest
      else if text = capitalNotesDescriptor then capitalNotesDigest
      else if text = memosDescriptor then memosDigest
      else notesHost.sha256 text }

def memosInput (table : String) : DeriveInput where
  hasGenerics := false
  metas := [.collection "memos", .table table, .version 1]
  data := .namedStruct
    [{ rustName := "id", ty := .path false "i64",
       metas := [.id "id", .column "id", .primaryKey] }]

/-- The collection of memos in a table of its own. -/
def memos : DerivedCollection :=
  { collection := "memos", table := "memos", version := 1, fields := [notesKeyField],
    primaryKey := notesKeyField, indexes := [],
    canonical := memosDescriptor, fingerprint := memosDigest }

/-- The same collection in the table of the notes, spelled with a capital. -/
def memosInNotes : DerivedCollection :=
  { memos with
    table := "Notes", canonical := capitalNotesDescriptor,
    fingerprint := capitalNotesDigest }

def mirrorInputField (name type : String) (key : List FieldMeta) : FieldInput :=
  { rustName := name, ty := .path false type, metas := [.id name, .column name] ++ key }

/-- A struct with the columns of the schema registry. -/
def mirrorInput : DeriveInput where
  hasGenerics := false
  metas := [.collection "mirror", .table "__CSGDB_SCHEMA", .version 1]
  data := .namedStruct
    [mirrorInputField "collection_id" "String" [.primaryKey],
      mirrorInputField "descriptor" "String" [],
      { rustName := "fingerprint", ty := .generic false "Vec" (.path false "u8"),
        metas := [.id "fingerprint", .column "fingerprint"] },
      mirrorInputField "schema_version" "i64" [],
      mirrorInputField "table_name" "String" []]

def mirrorField (name type : String) (storage : ColumnType) (primaryKey : Bool) :
    DerivedField :=
  { rustName := name, ty := .path false type, id := name, column := name,
    storage := storage, nullable := false, primaryKey := primaryKey }

def mirrorFields : List DerivedField :=
  [mirrorField "collection_id" "String" .text true,
    mirrorField "descriptor" "String" .text false,
    { mirrorField "fingerprint" "Vec" .blob false with
      ty := .generic false "Vec" (.path false "u8") },
    mirrorField "schema_version" "i64" .integer false,
    mirrorField "table_name" "String" .text false]

/-- The collection that this struct declares, in the schema registry in capitals. -/
def mirror : DerivedCollection :=
  { collection := "mirror", table := "__CSGDB_SCHEMA", version := 1,
    fields := mirrorFields,
    primaryKey := mirrorField "collection_id" "String" .text true, indexes := [],
    canonical := mirrorDescriptor, fingerprint := mirrorDigest }

theorem mirror_canonical :
    canonicalSchema "mirror" "__CSGDB_SCHEMA" 1 mirrorFields = mirrorDescriptor := by
  have sorted : mirrorFields.mergeSort idLe = mirrorFields :=
    List.mergeSort_of_pairwise (by decide)
  unfold canonicalSchema
  rw [sorted]
  decide +kernel

theorem mirror_accepted : expandCollection spellingHost mirrorInput = .ok mirror := by
  have digest : spellingHost.sha256 mirrorDescriptor = mirrorDigest := by
    simp only [spellingHost, if_true]
  have expanded : expandCollection spellingHost mirrorInput = .ok { mirror with
      canonical := canonicalSchema "mirror" "__CSGDB_SCHEMA" 1 mirrorFields
      fingerprint := spellingHost.sha256
        (canonicalSchema "mirror" "__CSGDB_SCHEMA" 1 mirrorFields) } := by
    rfl
  rw [expanded, mirror_canonical, digest]
  rfl

/-- Each of the three collections is accepted and registered, although the second one
shares the table of the first and the third one has the schema registry for a table. -/
theorem tables_shared_across_spellings :
    expandCollection spellingHost firstNotesInput = .ok firstNotes ∧
      expandCollection spellingHost (memosInput "Notes") = .ok memosInNotes ∧
      expandCollection spellingHost mirrorInput = .ok mirror ∧
      ¬OneOwner (runCalls willingEngine
        [.register firstNotes, .register memosInNotes, .register mirror]
        emptyDatabase).registry ∧
      ¬InternalUnowned (runCalls willingEngine
        [.register firstNotes, .register memosInNotes, .register mirror]
        emptyDatabase).registry := by
  have rows : (runCalls willingEngine
      [.register firstNotes, .register memosInNotes, .register mirror]
      emptyDatabase).registry.schemas =
        [schemaRow firstNotes.schema, schemaRow memosInNotes.schema,
          schemaRow mirror.schema] := by
    decide +kernel
  refine ⟨by decide +kernel, by decide +kernel, mirror_accepted, ?_, ?_⟩
  · intro oneOwner
    have same := oneOwner (schemaRow firstNotes.schema) (by simp [rows])
      (schemaRow memosInNotes.schema) (by simp [rows]) (by decide)
    exact absurd same (by decide)
  · intro unowned
    exact unowned (schemaRow mirror.schema) (by simp [rows]) schemaRegistryTable
      (by decide) (by decide)

/-- Two collections whose tables differ in more than case. -/
theorem notes_and_memos_owned :
    TablesOwned (runCalls willingEngine [.register firstNotes, .register memos]
      emptyDatabase).registry ∧
    (runCalls willingEngine [.register firstNotes, .register memos]
      emptyDatabase).registry.schemas =
        [schemaRow firstNotes.schema, schemaRow memos.schema] := by
  have rows : (registerCollection willingEngine firstNotes
      emptyDatabase).1.registry.schemas = [schemaRow firstNotes.schema] := by
    rcases (@registerCollection_registry _ willingEngine firstNotes emptyDatabase) with
      ⟨notCreated, -⟩ | ⟨-, added⟩
    · exact absurd (congrArg Prod.snd notesCreated_created) notCreated
    · exact added.schemas_eq
  have keeps : RunKeepsSpelling willingEngine [.register firstNotes, .register memos]
      emptyDatabase := by
    refine ⟨?_, ?_, trivial⟩
    · rintro schema ⟨⟩
      exact ⟨by decide, by simp [emptyDatabase]⟩
    · rintro schema ⟨⟩
      rw [KeepsSpelling, Call.run_register, rows]
      exact ⟨by decide, by decide⟩
  have owned := tables_have_one_owner willingEngine emptyDatabase
    ⟨by simp [OneOwner, emptyDatabase], by simp [InternalUnowned, emptyDatabase]⟩
    [.register firstNotes, .register memos]
    (by simp only [List.forall_mem_cons, Call.LeavesRegistries]; simp) keeps 2
  exact ⟨owned, by decide +kernel⟩

end Csgdb.Registry
