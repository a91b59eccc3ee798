/-
Module: Csgdb.Proofs.PhysicalSchema
Purpose: What the definition statements do to the catalog, and what the physical
  checks of registration say about it.
Trusted boundary: none
Main exports: Catalog.Grows, IndexPresent, TableFits, validatePhysicalIndexes_ok_iff,
  validatePhysicalTable_ok_iff, createTable_effect, createIndex_effect
-/
import Csgdb.Collection.Register
import Csgdb.Proofs.DerivedStatements

namespace Csgdb.Registry

open Derive Storage Foundation

/-! ## Lookup by name -/

/-- With different keys, the first match is the only one. -/
theorem find?_of_nodup_map {α β : Type} [DecidableEq β] {key : α → β} {value : α} :
    ∀ {values : List α}, (values.map key).Nodup → value ∈ values →
      values.find? (fun other => key other = key value) = some value
  | [], _, member => nomatch member
  | head :: rest, nodup, member => by
      rw [List.map_cons, List.nodup_cons] at nodup
      rcases List.mem_cons.mp member with rfl | inRest
      · simp
      · have differ : key head ≠ key value := by
          intro same
          exact nodup.1 (same ▸ List.mem_map_of_mem inRest)
        rw [List.find?_cons_of_neg (by simpa using differ)]
        exact find?_of_nodup_map nodup.2 inRest

theorem Catalog.findTable_of_mem {catalog : Catalog} {table : PhysicalTable} {name : String}
    (member : table ∈ catalog.tables) (same : foldName table.name = foldName name) :
    catalog.findTable name = some table := by
  have found := find?_of_nodup_map catalog.tables_nodup member
  unfold Catalog.findTable
  rw [← same]
  exact found

theorem Catalog.findIndex_of_mem {catalog : Catalog} {index : PhysicalIndex} {name : String}
    (member : index ∈ catalog.indexes) (same : foldName index.name = foldName name) :
    catalog.findIndex name = some index := by
  have found := find?_of_nodup_map catalog.indexes_nodup member
  unfold Catalog.findIndex
  rw [← same]
  exact found

theorem Catalog.mem_of_findTable {catalog : Catalog} {table : PhysicalTable} {name : String}
    (found : catalog.findTable name = some table) :
    table ∈ catalog.tables ∧ foldName table.name = foldName name :=
  ⟨List.mem_of_find?_eq_some found, by simpa using List.find?_some found⟩

theorem Catalog.findIndex_eq_none_iff {catalog : Catalog} {name : String} :
    catalog.findIndex name = none ↔
      ∀ index ∈ catalog.indexes, foldName index.name ≠ foldName name := by
  unfold Catalog.findIndex
  simp

/-! ## Growth -/

/-- No table and no index is lost. -/
structure Catalog.Grows (before after : Catalog) : Prop where
  tables : before.tables ⊆ after.tables
  indexes : before.indexes ⊆ after.indexes

theorem Catalog.Grows.refl (catalog : Catalog) : catalog.Grows catalog :=
  ⟨List.Subset.refl _, List.Subset.refl _⟩

theorem Catalog.Grows.trans {before middle after : Catalog} (first : before.Grows middle)
    (last : middle.Grows after) : before.Grows after :=
  ⟨List.Subset.trans first.tables last.tables, List.Subset.trans first.indexes last.indexes⟩

theorem Catalog.Grows.findTable {before after : Catalog} (grows : before.Grows after)
    {name : String} {table : PhysicalTable} (found : before.findTable name = some table) :
    after.findTable name = some table := by
  obtain ⟨member, same⟩ := Catalog.mem_of_findTable found
  exact Catalog.findTable_of_mem (grows.tables member) same

/-! ## Statements -/

variable {Data : Type} {engine : Engine Data} {database changed : Database Data}

/-- The effect of creating a table: one more name, everything else unchanged. -/
structure TableCreated (name : String) (columns : List Sql.ColumnDefinition)
    (before after : Database Data) : Prop where
  registry_eq : after.registry = before.registry
  indexes_eq : after.catalog.indexes = before.catalog.indexes
  grows : before.catalog.Grows after.catalog
  present : (after.catalog.findTable name).isSome
  others : ∀ other, foldName other ≠ foldName name →
    after.catalog.findTable other = before.catalog.findTable other
  fresh : before.catalog.findTable name = none → after.catalog.findTable name =
    some { name := name, columns := columns.map tableColumn }
  idle : (before.catalog.findTable name).isSome → after = before

/-- Nothing else changes, and a table of that name that was there before stays as it was. -/
theorem createTable_effect {name : String} {columns : List Sql.ColumnDefinition}
    (ok : createTable engine name columns database = .ok changed) :
    TableCreated name columns database changed := by
  unfold createTable at ok
  split at ok
  case isTrue new =>
    obtain ⟨-, accepted⟩ := ite_error_eq_ok_iff.mp ok
    split at accepted
    case h_1 => cases accepted
    case h_2 =>
      obtain rfl := Except.ok.inj accepted
      refine
        { registry_eq := rfl
          indexes_eq := rfl
          grows := ⟨List.subset_append_left _ _, List.Subset.refl _⟩
          present := ?_
          others := ?_
          fresh := fun _ => ?_
          idle := fun old => by simp [new] at old }
      · rw [(@Catalog.findTable_of_mem _ ⟨name, columns.map tableColumn⟩)
          (List.mem_append_right _ (List.mem_singleton_self _)) rfl]
        rfl
      · intro other differ
        unfold Catalog.findTable Catalog.addTable
        rw [List.find?_append]
        simp [Ne.symm differ]
      · exact Catalog.findTable_of_mem
          (List.mem_append_right _ (List.mem_singleton_self _)) rfl
  case isFalse old =>
    obtain rfl := Except.ok.inj ok
    exact
      { registry_eq := rfl
        indexes_eq := rfl
        grows := .refl _
        present := Option.isSome_iff_ne_none.mpr old
        others := fun _ _ => rfl
        fresh := fun new => absurd new old
        idle := fun _ => rfl }

/-- Only an index of that name, a repeated column and the engine can refuse a table. -/
theorem createTable_succeeds {name : String} {columns : List Sql.ColumnDefinition}
    (noIndex : database.catalog.findIndex name = none)
    (different : (columns.map fun column => foldName column.name).Nodup)
    (accepts : engine.refuses (.createTable name columns) database = none) :
    ∃ created, createTable engine name columns database = .ok created := by
  unfold createTable
  split
  · rw [noIndex, accepts]
    simp [different]
  · exact ⟨_, rfl⟩

/-- The effect of creating an index. -/
structure IndexCreated (unique : Bool) (name table : String) (columns : List String)
    (before after : Database Data) : Prop where
  registry_eq : after.registry = before.registry
  tables_eq : after.catalog.tables = before.catalog.tables
  grows : before.catalog.Grows after.catalog
  created : ∀ index ∈ after.catalog.indexes, index ∈ before.catalog.indexes ∨
    index.name = name
  fresh : before.catalog.findIndex name = none →
    ∃ physical found, before.catalog.findTable table = some physical ∧
      columns.mapM (findColumn physical) = some found ∧
      { name := name, table := physical.name, unique := unique, origin := "c",
        isPartial := false,
        columns := found.map indexColumn ++ [rowidColumn] } ∈ after.catalog.indexes

/-- An index is added at most, on the columns that were asked for. -/
theorem createIndex_effect {unique : Bool} {name table : String} {columns : List String}
    (ok : createIndex engine unique name table columns database = .ok changed) :
    IndexCreated unique name table columns database changed := by
  unfold createIndex at ok
  split at ok
  case isTrue new =>
    obtain ⟨-, found⟩ := ite_error_eq_ok_iff.mp ok
    split at found
    case h_1 => cases found
    case h_2 physical onTable =>
      split at found
      case h_1 => cases found
      case h_2 columnsFound named =>
        split at found
        case h_1 => cases found
        case h_2 =>
          obtain rfl := Except.ok.inj found
          refine
            { registry_eq := rfl
              tables_eq := rfl
              grows := ⟨List.Subset.refl _, List.subset_append_left _ _⟩
              created := ?_
              fresh := fun _ => ⟨physical, columnsFound, onTable, named,
                List.mem_append_right _ (List.mem_singleton_self _)⟩ }
          intro index member
          rcases List.mem_append.mp member with old | added
          · exact .inl old
          · obtain rfl := List.mem_singleton.mp added
            exact .inr rfl
  case isFalse old =>
    obtain rfl := Except.ok.inj ok
    exact
      { registry_eq := rfl
        tables_eq := rfl
        grows := .refl _
        created := fun _ member => .inl member
        fresh := fun new => absurd new old }

/-- Only a table of that name, a missing table or column and the engine can refuse an
index. -/
theorem createIndex_succeeds {unique : Bool} {name table : String} {columns : List String}
    {physical : PhysicalTable} {found : List TableColumn}
    (noTable : database.catalog.findTable name = none)
    (onTable : database.catalog.findTable table = some physical)
    (named : columns.mapM (findColumn physical) = some found)
    (accepts : engine.refuses (.createIndex unique name table columns) database = none) :
    ∃ created, createIndex engine unique name table columns database = .ok created := by
  unfold createIndex
  split
  · rw [noTable, onTable]
    simp [named, accepts]
  · exact ⟨_, rfl⟩

/-- The effect of dropping an index. -/
theorem dropIndex_effect {name : String}
    (ok : dropIndex engine name database = .ok changed) :
    changed.registry = database.registry ∧
      changed.catalog.tables = database.catalog.tables ∧
      ∀ index, index ∈ changed.catalog.indexes ↔
        index ∈ database.catalog.indexes ∧ foldName index.name ≠ foldName name := by
  unfold dropIndex at ok
  split at ok
  case h_1 => cases ok
  case h_2 =>
    obtain rfl := Except.ok.inj ok
    refine ⟨rfl, rfl, fun index => ?_⟩
    simp [Catalog.removeIndex]

/-! ## Texts of the derive -/

section Texts

variable {host : MacroHost} {derived : DerivedCollection}

/-- `CREATE_TABLE_SQL` creates the table that the fields declare. -/
theorem executeBatch_createTableSql (formed : derived.WellFormed host)
    (database : Database Data) :
    executeBatch engine derived.createTableSql database =
      createTable engine derived.table (derived.fields.map columnDefinition) database := by
  obtain ⟨count, prepared⟩ := prepare_createTableSql formed
  unfold executeBatch
  rw [prepared]
  rfl

/-- Each `CREATE INDEX` text creates the index that it was written for. -/
theorem executeBatch_createIndexSql (formed : derived.WellFormed host)
    {index : DerivedIndex} (member : index ∈ derived.indexes) (database : Database Data) :
    executeBatch engine (createIndexSql (quoteIdentifier derived.table) index) database =
      createIndex engine index.unique index.name derived.table index.columns
        database := by
  obtain ⟨count, prepared⟩ := prepare_createIndexSql formed member
  unfold executeBatch
  rw [prepared]
  rfl

/-- A `DROP INDEX` text names its index, whatever characters are in the name. -/
theorem executeBatch_dropIndexSql {name : String} (valid : validName name = true)
    (database : Database Data) :
    executeBatch engine ("DROP INDEX IF EXISTS " ++ quoteSqlIdentifier name) database =
      dropIndex engine name database := by
  have drop : Sql.lex "DROP INDEX IF EXISTS " =
      some [.word "DROP", .word "INDEX", .word "IF", .word "EXISTS"] := by decide
  have read := Sql.lex_append_ends ⟨' ', by decide, by decide⟩ drop
    (lex_quoteIdentifier valid)
  have prepared := (@prepare_of_text _ (.dropIndex name)) read trivial rfl
  unfold executeBatch
  rw [show quoteSqlIdentifier name = quoteIdentifier name from rfl, prepared]
  rfl

end Texts

/-! ## Physical checks -/

/-- A physical index that is the declared one. -/
structure IndexPresent (catalog : Catalog) (table : String) (expected : IndexSchema)
    (index : PhysicalIndex) : Prop where
  member : index ∈ catalog.indexes
  name_eq : index.name = expected.name
  on_table : foldName index.table = foldName table
  unique_eq : index.unique = expected.unique
  origin_eq : index.origin = "c"
  total : index.isPartial = false
  columns_eq : keyColumns index.columns = .ok expected.columns

theorem IndexPresent.grow {before after : Catalog} {table : String}
    {expected : IndexSchema} {index : PhysicalIndex}
    (present : IndexPresent before table expected index)
    (stays : index ∈ after.indexes) : IndexPresent after table expected index :=
  { present with member := stays }

/-- The accepted key columns are named, in order, by the index. -/
theorem keyColumns_ok {names : List String} :
    ∀ {columns : List IndexColumn}, keyColumns columns = .ok names →
      (columns.filter IndexColumn.key).map IndexColumn.name = names.map some ∧
        ∀ column ∈ columns.filter IndexColumn.key, column.descending = false ∧
          eqIgnoreAsciiCase (column.collation.getD "") "BINARY" = true := by
  intro columns
  induction columns generalizing names with
  | nil =>
      intro ok
      obtain rfl := Except.ok.inj ok
      simp
  | cons column rest inductionHypothesis =>
      intro ok
      unfold keyColumns at ok
      split at ok
      case isTrue other =>
        have skipped : column.key = false := by simpa using other
        rw [List.filter_cons_of_neg (by simp [skipped])]
        exact inductionHypothesis ok
      case isFalse isKey =>
        have kept : column.key = true := by simpa using isKey
        obtain ⟨plain, more⟩ := ite_error_eq_ok_iff.mp ok
        obtain ⟨others, restOk, same⟩ := bind_eq_ok_iff.mp more
        obtain rfl := Except.ok.inj same
        obtain ⟨namesEq, plainRest⟩ := inductionHypothesis restOk
        simp only [Bool.or_eq_true, not_or, Bool.not_eq_true,
          Bool.not_eq_eq_eq_not, Bool.not_true, Bool.not_eq_false] at plain
        obtain ⟨⟨named, ascending⟩, binary⟩ := plain
        have someName : column.name = some (column.name.getD "") := by
          cases nameEq : column.name with
          | none => simp [nameEq] at named
          | some name => rfl
        rw [List.filter_cons_of_pos kept]
        refine ⟨?_, ?_⟩
        · rw [List.map_cons, List.map_cons, namesEq, ← someName]
        · intro other member
          rcases List.mem_cons.mp member with rfl | inRest
          · exact ⟨ascending, binary⟩
          · exact plainRest other inRest

theorem validatePhysicalIndex_ok_iff {table : String} {expected : IndexSchema} :
    validatePhysicalIndex table expected database = .ok () ↔
      ∃ index, IndexPresent database.catalog table expected index := by
  constructor
  · intro ok
    unfold validatePhysicalIndex at ok
    cases listed : indexList database table expected.name with
    | nil =>
        rw [listed] at ok
        cases ok
    | cons index others =>
        rw [listed] at ok
        obtain ⟨checked, more⟩ := ite_error_eq_ok_iff.mp ok
        obtain ⟨columns, columnsOk, same⟩ := bind_eq_ok_iff.mp more
        have columnsEq : columns = expected.columns := by
          by_contra differ
          simp [differ] at same
        have inList : index ∈ indexList database table expected.name := by simp [listed]
        simp only [indexList, List.mem_filter, decide_eq_true_eq] at inList
        obtain ⟨member, onTable, nameEq⟩ := inList
        have found := Catalog.findIndex_of_mem member (congrArg foldName nameEq)
        simp only [indexXinfo, found, Option.map_some, Option.getD_some] at columnsOk
        simp only [Bool.or_eq_true, not_or, bne_iff_ne, ne_eq, not_not,
          Bool.not_eq_true] at checked
        exact ⟨index, member, nameEq, onTable, checked.1.1.1, checked.1.1.2, checked.1.2,
          columnsEq ▸ columnsOk⟩
  · rintro ⟨index, present⟩
    have listed : indexList database table expected.name = [index] := by
      have inList : index ∈ indexList database table expected.name := by
        simp [indexList, present.member, present.on_table, present.name_eq]
      have alone : ∀ other ∈ indexList database table expected.name, other = index := by
        intro other member
        simp only [indexList, List.mem_filter, decide_eq_true_eq] at member
        exact List.inj_on_of_nodup_map database.catalog.indexes_nodup member.1
          present.member (congrArg foldName (member.2.2.trans present.name_eq.symm))
      have nodup : (indexList database table expected.name).Nodup :=
        (List.Nodup.of_map _ database.catalog.indexes_nodup).filter _
      exact List.perm_singleton.mp
        ((List.perm_ext_iff_of_nodup nodup (List.nodup_singleton _)).mpr fun other =>
          ⟨fun member => List.mem_singleton.mpr (alone other member),
            fun member => List.mem_singleton.mp member ▸ inList⟩)
    have found := Catalog.findIndex_of_mem present.member
      (congrArg foldName present.name_eq)
    unfold validatePhysicalIndex
    rw [listed]
    simp [present.unique_eq, present.origin_eq, present.total, indexXinfo, found,
      present.columns_eq]

theorem validateEachIndex_ok_iff {table : String} :
    ∀ {expected : List IndexSchema}, validateEachIndex table expected database = .ok () ↔
      ∀ declared ∈ expected, ∃ index,
        IndexPresent database.catalog table declared index
  | [] => by simp [validateEachIndex]
  | declared :: rest => by
      unfold validateEachIndex
      rw [bind_eq_ok_iff]
      simp only [@validateEachIndex_ok_iff _ rest, List.forall_mem_cons,
        ← validatePhysicalIndex_ok_iff]
      exact ⟨fun ⟨_, first, others⟩ => ⟨first, others⟩,
        fun ⟨first, others⟩ => ⟨(), first, others⟩⟩

/-- The check of the indexes passes exactly when each declared one is present. -/
theorem validatePhysicalIndexes_ok_iff {schema : CollectionSchema} :
    validatePhysicalIndexes schema database = .ok () ↔
      ∀ declared ∈ schema.indexes, ∃ index,
        IndexPresent database.catalog schema.table declared index :=
  validateEachIndex_ok_iff

/-- What the physical table shows agrees with the declared fields. -/
structure TableFits (catalog : Catalog) (schema : CollectionSchema)
    (table : PhysicalTable) : Prop where
  found : catalog.findTable schema.table = some table
  columns_length : table.shown.length = schema.fields.length
  columns_fit : ∀ field ∈ schema.fields, validatePhysicalColumn table.shown field = true

/-- The check of the table passes exactly when some table fits the schema. -/
theorem validatePhysicalTable_ok_iff {schema : CollectionSchema}
    (declared : schema.fields ≠ []) :
    validatePhysicalTable schema database = .ok () ↔
      ∃ table, TableFits database.catalog schema table := by
  unfold validatePhysicalTable tableInfo
  cases found : database.catalog.findTable schema.table with
  | none =>
      have noFields : ([] : List TableColumn).length ≠ schema.fields.length := by
        simpa using fun empty => declared (List.length_eq_zero_iff.mp (Eq.symm empty))
      have noTable : ¬ ∃ table, TableFits database.catalog schema table := by
        rintro ⟨table, fits⟩
        simp [fits.found] at found
      simp only [Option.map_none, Option.getD_none, noTable, iff_false]
      rw [if_pos (by simpa using noFields)]
      simp
  | some table =>
      simp only [Option.map_some, Option.getD_some, ite_error_eq_ok_iff, bne_iff_ne,
        ne_eq, not_not]
      constructor
      · rintro ⟨sameLength, rest⟩
        refine ⟨table, found, sameLength, ?_⟩
        by_contra misfit
        rw [if_neg (by simpa using misfit)] at rest
        cases rest
      · rintro ⟨other, fits⟩
        obtain rfl := Option.some.inj (found.symm.trans fits.found)
        exact ⟨fits.columns_length, if_pos (by simpa using fits.columns_fit)⟩

theorem TableFits.grow {before after : Catalog} {schema : CollectionSchema}
    {table : PhysicalTable} (fits : TableFits before schema table)
    (grows : before.Grows after) : TableFits after schema table :=
  { fits with found := grows.findTable fits.found }

end Csgdb.Registry
