/-
Module: Csgdb.Proofs.CrudLaws
Purpose: Typed insert, get, update and delete obey the laws of a store, for
  every derived collection and every content of its table.
Trusted boundary: none
Main exports: Crud.StoreLaws, crud_obeys_store_laws
-/
import Csgdb.Proofs.StoredRecords

namespace Csgdb

open Derive Foundation Sql

/-! ## The laws -/

namespace Crud

variable {V Cell : Type} [Scalar Cell] [DecidableEq Cell]

/-- What the operations of a collection promise on one content of its table. -/
structure StoreLaws (crud : Crud V Cell) (table : crud.Content) : Prop where
  /-- After an insert the record is found under its key, cell by cell. -/
  insert_law : ∀ (record : Record crud.derived V) (key : V) (count : Nat)
      (next : crud.Content), record.key = some key →
    crud.insert record table = .ok (count, next) →
      ∃ cells keyCell row,
        record.cells crud.codec = .ok cells ∧
        (crud.codec crud.derived.primaryKey).toValue key = .ok keyCell ∧
        count = 1 ∧ table.view keyCell = none ∧ next.view keyCell = some row ∧
        crud.derived.columns.map row = cells ∧
        crud.get key next =
          (decodeCells crud.codec (crud.derived.fields.zip cells)).map some ∧
        (RoundTrips crud.codec → crud.get key next = .ok (some record.values)) ∧
        ∀ other : Row Cell, other crud.derived.primaryKey.column ≠ keyCell →
          (other ∈ next.rows ↔ other ∈ table.rows)
  /-- An update replaces the record stored under its key, or changes nothing. -/
  update_law : ∀ (record : Record crud.derived V) (key : V) (count : Nat)
      (next : crud.Content), record.key = some key →
    crud.update record table = .ok (count, next) →
      ∃ cells keyCell,
        record.cells crud.codec = .ok cells ∧
        (crud.codec crud.derived.primaryKey).toValue key = .ok keyCell ∧
        (table.view keyCell = none → count = 0 ∧ next = table) ∧
        (table.view keyCell ≠ none → count = 1 ∧
          (∃ row, next.view keyCell = some row ∧ crud.derived.columns.map row = cells) ∧
          crud.get key next =
            (decodeCells crud.codec (crud.derived.fields.zip cells)).map some ∧
          (RoundTrips crud.codec → crud.get key next = .ok (some record.values))) ∧
        ∀ other : Row Cell, other crud.derived.primaryKey.column ≠ keyCell →
          (other ∈ next.rows ↔ other ∈ table.rows)
  /-- A delete asks for exactly the rows without the given key, and gets them unless they
  break a constraint. -/
  delete_runs : ∀ (key : V) (keyCell : Cell),
    (crud.codec crud.derived.primaryKey).toValue key = .ok keyCell →
      crud.delete key table =
          crud.replaced (if (table.view keyCell).isSome then 1 else 0)
            (table.rows.filter fun row => row crud.derived.primaryKey.column ≠ keyCell) ∧
        (crud.accepts (table.rows.filter fun row =>
            row crud.derived.primaryKey.column ≠ keyCell) = true →
          ∃ next, crud.delete key table =
              .ok (if (table.view keyCell).isSome then 1 else 0, next) ∧
            crud.get key next = .ok none ∧
            ∀ row, row ∈ next.rows ↔
              row ∈ table.rows ∧ row crud.derived.primaryKey.column ≠ keyCell)
  /-- A delete that succeeds has removed exactly the row with the given key. -/
  delete_law : ∀ (key : V) (count : Nat) (next : crud.Content),
    crud.delete key table = .ok (count, next) →
      ∃ keyCell, (crud.codec crud.derived.primaryKey).toValue key = .ok keyCell ∧
        (count = if (table.view keyCell).isSome then 1 else 0) ∧
        ∀ row, row ∈ next.rows ↔
          row ∈ table.rows ∧ row crud.derived.primaryKey.column ≠ keyCell
  /-- Every generated text has as many parameters as it is given values. -/
  parameter_law :
    (∀ (record : Record crud.derived V) (cells : List Cell),
      record.cells crud.codec = .ok cells →
        ∃ statement, Storage.prepare crud.derived.insertSql = .ok statement ∧
          statement.parameterCount = cells.length) ∧
    (∀ (record : Record crud.derived V) (cells : List Cell),
      updateValues crud.codec record = .ok cells →
        ∃ statement, Storage.prepare crud.derived.updateSql = .ok statement ∧
          statement.parameterCount = cells.length) ∧
    (∃ statement, Storage.prepare crud.derived.selectByKeySql = .ok statement ∧
      statement.parameterCount = 1) ∧
    ∃ statement, Storage.prepare crud.derived.deleteByKeySql = .ok statement ∧
      statement.parameterCount = 1

variable {crud : Crud V Cell} {host : MacroHost}

/-- An insert that succeeds has written the cells of its record. -/
theorem insert_writes (formed : crud.derived.WellFormed host) {table next : crud.Content}
    {record : Record crud.derived V} {key : V} {count : Nat}
    (isKey : record.key = some key)
    (ok : crud.insert record table = .ok (count, next)) :
    ∃ cells keyCell row,
      record.cells crud.codec = .ok cells ∧
      (crud.codec crud.derived.primaryKey).toValue key = .ok keyCell ∧
      count = 1 ∧ table.view keyCell = none ∧ next.view keyCell = some row ∧
      crud.derived.columns.map row = cells ∧
      ∀ other : Row Cell, other crud.derived.primaryKey.column ≠ keyCell →
        (other ∈ next.rows ↔ other ∈ table.rows) := by
  simp only [insert, bind_eq_ok_iff] at ok
  obtain ⟨cells, encoded, executed⟩ := ok
  obtain ⟨index, keyCell, -, atField, atCell, keyEncoded⟩ := key_cell formed isKey encoded
  have sameLength := cells_length encoded
  have ran := executeRecord_ok (by rw [prepare_insertSql formed, sameLength]) executed
  obtain ⟨rfl, rows⟩ := table.execute_insert_ok (insertedRow_eq sameLength) ran
  have sameCells := map_writtenRow formed sameLength
  have rowKey : writtenRow crud.derived cells crud.derived.primaryKey.column = keyCell := by
    have atColumn : crud.derived.columns[index]? = some crud.derived.primaryKey.column := by
      simp [DerivedCollection.columns, atField]
    have atRow := congrArg (fun list => list[index]?) sameCells
    simp only [List.getElem?_map, atColumn, Option.map_some, atCell,
      Option.some.injEq] at atRow
    exact atRow
  have stored : next.view keyCell = some (writtenRow crud.derived cells) :=
    Table.view_eq_some_iff.mpr ⟨by simp [rows], rowKey⟩
  have wasFree : table.view keyCell = none := by
    rw [Table.view_eq_none_iff]
    intro row member sameKey
    have keysNodup := next.keys_nodup
    rw [rows, List.map_append, List.nodup_append] at keysNodup
    exact keysNodup.2.2 _ (List.mem_map_of_mem member) _ (by simp) (sameKey.trans rowKey.symm)
  refine ⟨cells, keyCell, writtenRow crud.derived cells, encoded, keyEncoded, rfl, wasFree,
    stored, sameCells, ?_⟩
  intro other differs
  rw [rows, List.mem_append, List.mem_singleton]
  constructor
  · rintro (inTable | rfl)
    · exact inTable
    · exact absurd rowKey differs
  · exact Or.inl

/-- An update that succeeds has written the cells of its record over the row
stored under its key, or nothing. -/
theorem update_writes [ExactEquality Cell] (formed : crud.derived.WellFormed host)
    {table next : crud.Content} {record : Record crud.derived V} {key : V} {count : Nat}
    (isKey : record.key = some key)
    (ok : crud.update record table = .ok (count, next)) :
    ∃ cells keyCell,
      record.cells crud.codec = .ok cells ∧
      (crud.codec crud.derived.primaryKey).toValue key = .ok keyCell ∧
      (table.view keyCell = none → count = 0 ∧ next = table) ∧
      (table.view keyCell ≠ none → count = 1 ∧
        ∃ row, next.view keyCell = some row ∧ crud.derived.columns.map row = cells) ∧
      ∀ other : Row Cell, other crud.derived.primaryKey.column ≠ keyCell →
        (other ∈ next.rows ↔ other ∈ table.rows) := by
  simp only [update, bind_eq_ok_iff] at ok
  obtain ⟨passed, updated, executed⟩ := ok
  obtain ⟨cells, encoded⟩ : ∃ cells, record.cells crud.codec = .ok cells := by
    obtain ⟨cells, encoded, -⟩ := bind_eq_ok_iff.mp updated
    exact ⟨cells, encoded⟩
  obtain ⟨index, keyCell, found, atField, atCell, keyEncoded⟩ :=
    key_cell formed isKey encoded
  obtain rfl := updateValues_ok encoded found atCell updated
  have sameLength := cells_length encoded
  have foundField : crud.derived.fields.findIdx? DerivedField.primaryKey = some index := by
    rw [← primaryKeyIndex_eq]
    exact found
  have mutableLength : (cells.eraseIdx index).length =
      (mutableFields crud.derived.fields).length := by
    have inRange : index < cells.length := (List.getElem?_eq_some_iff.mp atCell).1
    have fieldCount := length_mutableFields formed
    rw [List.length_eraseIdx_of_lt inRange]
    omega
  have prepared : Storage.prepare crud.derived.updateSql =
      .ok { statement := crud.derived.updateStatement
            parameterCount := (cells.eraseIdx index ++ [keyCell]).length } := by
    rw [prepare_updateSql formed, List.length_append, mutableLength, List.length_singleton]
  have ran := executeRecord_ok prepared executed
  have boundKey : boundValue (cells.eraseIdx index ++ [keyCell])
      ((mutableFields crud.derived.fields).length + 1) = some keyCell := by
    rw [boundValue_succ, ← mutableLength]
    simp
  obtain ⟨counted, rows⟩ := table.execute_update_ok boundKey
    (fun row _ => assignedRow_eq mutableLength keyCell row) ran
  have keepsKey := rewrittenRow_key formed mutableLength
  refine ⟨cells, keyCell, encoded, keyEncoded, ?_, ?_, ?_⟩
  · intro absent
    refine ⟨by simpa [absent] using counted, ?_⟩
    have sameRows : next.rows = table.rows := by
      rw [rows]
      conv_rhs => rw [← List.map_id table.rows]
      apply List.map_congr_left
      intro row member
      rw [if_neg (Table.view_eq_none_iff.mp absent row member), id_eq]
    exact Table.ext sameRows
  · intro present
    obtain ⟨old, stored⟩ := Option.ne_none_iff_exists'.mp present
    obtain ⟨oldMember, oldKey⟩ := Table.view_eq_some_iff.mp stored
    have rewritten : next.view keyCell =
        some (rewrittenRow crud.derived (cells.eraseIdx index) old) := by
      rw [Table.view_eq_some_iff]
      refine ⟨?_, (keepsKey old).trans oldKey⟩
      rw [rows]
      exact List.mem_map.mpr ⟨old, oldMember, if_pos oldKey⟩
    exact ⟨by simpa [stored] using counted, _, rewritten,
      map_rewrittenRow formed sameLength foundField atField mutableLength atCell oldKey⟩
  · intro other differs
    rw [rows, List.mem_map]
    constructor
    · rintro ⟨row, member, rfl⟩
      by_cases sameKey : row crud.derived.primaryKey.column = keyCell
      · rw [if_pos sameKey, keepsKey, sameKey] at differs
        exact absurd rfl differs
      · rwa [if_neg sameKey]
    · intro member
      exact ⟨other, member, if_neg differs⟩

section Engine

variable [ExactEquality Cell]

/-- The query of a get, for a key that the engine stores. -/
theorem queryRows_key (formed : crud.derived.WellFormed host) {keyCell : Cell}
    (binds : crud.rawBindParameter 1 keyCell = .ok ()) (table : crud.Content) :
    ∃ statement, Storage.prepare crud.derived.selectByKeySql = .ok statement ∧
      Storage.queryRows crud.rawBindParameter crud.derived.table table statement [keyCell] =
        .ok ((table.view keyCell).toList.map fun row => crud.derived.columns.map row) := by
  have bound : Storage.bindIter crud.rawBindParameter
      { statement := crud.derived.selectStatement, parameterCount := 1 } [keyCell] =
        .ok [keyCell] := by
    simp [Storage.bindIter, Storage.bindSlots, binds]
  have queried : table.query crud.derived.table [keyCell] crud.derived.selectStatement =
      .ok ((table.view keyCell).toList.map fun row => crud.derived.columns.map row) :=
    table.query_key (show boundValue [keyCell] 1 = some keyCell from rfl) crud.derived.columns
  refine ⟨_, prepare_selectByKeySql formed, ?_⟩
  simp only [Storage.queryRows, bound, ok_bind, queried, Except.mapError]

/-- A get decodes the row stored under the key. -/
theorem get_eq (formed : crud.derived.WellFormed host) {key : V} {keyCell : Cell}
    (binds : crud.rawBindParameter 1 keyCell = .ok ())
    (encoded : (crud.codec crud.derived.primaryKey).toValue key = .ok keyCell)
    {table : crud.Content} {row : Row Cell} (stored : table.view keyCell = some row) :
    crud.get key table =
      (decodeCells crud.codec
        (crud.derived.fields.zip (crud.derived.columns.map row))).map some := by
  obtain ⟨statement, prepared, queried⟩ := queryRows_key formed binds table
  have sameLength : (crud.derived.columns.map row).length =
      crud.derived.fields.length := by
    simp [DerivedCollection.columns]
  simp only [get, encoded, ok_bind, prepared, queried, stored, Option.toList_some,
    List.map_cons, List.map_nil, fromRow_eq sameLength]
  cases decodeCells crud.codec (crud.derived.fields.zip (crud.derived.columns.map row)) <;>
    rfl

/-- A get finds nothing under a key that is not stored. -/
theorem get_absent (formed : crud.derived.WellFormed host) {key : V} {keyCell : Cell}
    (binds : crud.rawBindParameter 1 keyCell = .ok ())
    (encoded : (crud.codec crud.derived.primaryKey).toValue key = .ok keyCell)
    {table : crud.Content} (absent : table.view keyCell = none) :
    crud.get key table = .ok none := by
  obtain ⟨statement, prepared, queried⟩ := queryRows_key formed binds table
  simp only [get, encoded, ok_bind, prepared, queried, absent, Option.toList_none,
    List.map_nil]

variable (binds : ∀ index value, crud.rawBindParameter index value = .ok ())

include binds

/-- Inserting a record. -/
theorem insert_law (formed : crud.derived.WellFormed host) {table next : crud.Content}
    {record : Record crud.derived V} {key : V} {count : Nat}
    (isKey : record.key = some key)
    (ok : crud.insert record table = .ok (count, next)) :
    ∃ cells keyCell row,
      record.cells crud.codec = .ok cells ∧
      (crud.codec crud.derived.primaryKey).toValue key = .ok keyCell ∧
      count = 1 ∧ table.view keyCell = none ∧ next.view keyCell = some row ∧
      crud.derived.columns.map row = cells ∧
      crud.get key next =
        (decodeCells crud.codec (crud.derived.fields.zip cells)).map some ∧
      (RoundTrips crud.codec → crud.get key next = .ok (some record.values)) ∧
      ∀ other : Row Cell, other crud.derived.primaryKey.column ≠ keyCell →
        (other ∈ next.rows ↔ other ∈ table.rows) := by
  obtain ⟨cells, keyCell, row, encoded, keyEncoded, counted, wasFree, stored, sameCells,
    others⟩ := insert_writes formed isKey ok
  refine ⟨cells, keyCell, row, encoded, keyEncoded, counted, wasFree, stored, sameCells,
    ?_, ?_, others⟩
  · rw [get_eq formed (binds _ _) keyEncoded stored, sameCells]
  · intro roundTrip
    rw [get_eq formed (binds _ _) keyEncoded stored, sameCells,
      decodeCells_encodeValues roundTrip record.length_eq encoded]
    rfl

/-- Updating a record. -/
theorem update_law (formed : crud.derived.WellFormed host) {table next : crud.Content}
    {record : Record crud.derived V} {key : V} {count : Nat}
    (isKey : record.key = some key)
    (ok : crud.update record table = .ok (count, next)) :
    ∃ cells keyCell,
      record.cells crud.codec = .ok cells ∧
      (crud.codec crud.derived.primaryKey).toValue key = .ok keyCell ∧
      (table.view keyCell = none → count = 0 ∧ next = table) ∧
      (table.view keyCell ≠ none → count = 1 ∧
        (∃ row, next.view keyCell = some row ∧ crud.derived.columns.map row = cells) ∧
        crud.get key next =
          (decodeCells crud.codec (crud.derived.fields.zip cells)).map some ∧
        (RoundTrips crud.codec → crud.get key next = .ok (some record.values))) ∧
      ∀ other : Row Cell, other crud.derived.primaryKey.column ≠ keyCell →
        (other ∈ next.rows ↔ other ∈ table.rows) := by
  obtain ⟨cells, keyCell, encoded, keyEncoded, missing, present, others⟩ :=
    update_writes formed isKey ok
  refine ⟨cells, keyCell, encoded, keyEncoded, missing, ?_, others⟩
  intro found
  obtain ⟨counted, row, stored, sameCells⟩ := present found
  refine ⟨counted, ⟨row, stored, sameCells⟩, ?_, ?_⟩
  · rw [get_eq formed (binds _ _) keyEncoded stored, sameCells]
  · intro roundTrip
    rw [get_eq formed (binds _ _) keyEncoded stored, sameCells,
      decodeCells_encodeValues roundTrip record.length_eq encoded]
    rfl

/-- Deleting a record whose removal the constraints admit. -/
theorem delete_runs (formed : crud.derived.WellFormed host) {key : V} {keyCell : Cell}
    (encoded : (crud.codec crud.derived.primaryKey).toValue key = .ok keyCell)
    {table : crud.Content}
    (admitted : crud.accepts (table.rows.filter fun row =>
      row crud.derived.primaryKey.column ≠ keyCell) = true) :
    ∃ next, crud.delete key table =
        .ok (if (table.view keyCell).isSome then 1 else 0, next) ∧
      crud.get key next = .ok none ∧
      ∀ row, row ∈ next.rows ↔
        row ∈ table.rows ∧ row crud.derived.primaryKey.column ≠ keyCell := by
  have kept : (table.rows.filter fun row =>
      row crud.derived.primaryKey.column ≠ keyCell).Sublist table.rows := List.filter_sublist
  have nodup := table.keys_nodup.sublist
    (kept.map fun row => row crud.derived.primaryKey.column)
  have present := fun row member => table.keys_notNull row (kept.subset member)
  refine ⟨⟨_, nodup, present⟩, ?_, ?_, fun row => ?_⟩
  · rw [delete_eq binds formed encoded table, replaced_admitted _ nodup present admitted]
  · apply get_absent formed (binds _ _) encoded
    rw [Table.view_eq_none_iff]
    intro row member
    simpa using (List.mem_filter.mp member).2
  · rw [List.mem_filter, decide_eq_true_iff]

/-- A delete that succeeds has removed the row stored under its key. -/
theorem delete_law (formed : crud.derived.WellFormed host)
    {table next : crud.Content} {key : V} {count : Nat}
    (ok : crud.delete key table = .ok (count, next)) :
    ∃ keyCell, (crud.codec crud.derived.primaryKey).toValue key = .ok keyCell ∧
      (count = if (table.view keyCell).isSome then 1 else 0) ∧
      ∀ row, row ∈ next.rows ↔
        row ∈ table.rows ∧ row crud.derived.primaryKey.column ≠ keyCell := by
  obtain ⟨keyCell, encoded, -⟩ := bind_eq_ok_iff.mp ok
  rw [delete_eq binds formed encoded] at ok
  obtain ⟨counted, rows⟩ := replaced_ok ok
  refine ⟨keyCell, encoded, counted, fun row => ?_⟩
  rw [rows, List.mem_filter, decide_eq_true_iff]

end Engine

/-- Typed CRUD obeys the laws of a store, for every declaration the derive
accepts and every content of the table. -/
theorem crud_obeys_store_laws [ExactEquality Cell] (host : MacroHost)
    (input : DeriveInput) (crud : Crud V Cell)
    (expanded : expandCollection host input = .ok crud.derived)
    (binds : ∀ index value, crud.rawBindParameter index value = .ok ())
    (table : crud.Content) : crud.StoreLaws table := by
  have formed := expandCollection_wellFormed expanded
  exact
    { insert_law := fun _ _ _ _ isKey ok => insert_law binds formed isKey ok
      update_law := fun _ _ _ _ isKey ok => update_law binds formed isKey ok
      delete_runs := fun _ _ encoded =>
        ⟨delete_eq binds formed encoded table, fun admitted =>
          delete_runs binds formed encoded admitted⟩
      delete_law := fun _ _ _ ok => delete_law binds formed ok
      parameter_law := by
        refine ⟨fun record cells encoded => ?_, fun record cells passed => ?_, ?_, ?_⟩
        · exact ⟨_, prepare_insertSql formed, (cells_length encoded).symm⟩
        · refine ⟨_, prepare_updateSql formed, ?_⟩
          rw [updateValues_length formed passed]
          exact length_mutableFields formed
        · exact ⟨_, prepare_selectByKeySql formed, rfl⟩
        · exact ⟨_, prepare_deleteByKeySql formed, rfl⟩ }

/-- Cells that are numbers or absent. -/
instance numberScalar : Scalar (Option Nat) where
  null := none
  isNull := Option.isNone
  order := fun left right => if left = right then .eq else .lt
  isNull_null := rfl

instance numberExactEquality : ExactEquality (Option Nat) where
  order_eq_iff := by
    intro left right
    unfold Scalar.order numberScalar
    by_cases same : left = right <;> simp [same]

/-- A struct whose key is declared between two other fields. -/
def keyBetweenInput : DeriveInput where
  hasGenerics := false
  metas := [.collection "agent.memory", .table "memory", .version 1]
  data := .namedStruct
    [{ rustName := "score", ty := .generic false "Option" (.path false "i64"),
       metas := [.id "score", .column "the \"score\""] },
     { rustName := "id", ty := .path false "i64",
       metas := [.id "id", .column "id", .primaryKey] },
     { rustName := "rank", ty := .path false "i64",
       metas := [.id "rank", .column "rank"] }]

/-- A host that needs one digest only, and whose identifiers are ASCII. -/
def plainHost : MacroHost where
  sha256 := fun _ =>
    #v[0x1d, 0x42, 0xe6, 0xb0, 0x38, 0x5e, 0x77, 0x5f, 0x08, 0x05, 0x49,
      0x28, 0x56, 0x51, 0xbc, 0xa6, 0x6d, 0xd1, 0xa2, 0x3f, 0x6c, 0x24,
      0x06, 0x0e, 0x7b, 0x1b, 0xba, 0xac, 0x76, 0xdc, 0x3c, 0x9a]
  toUppercase := asciiUppercase
  isRustPath := fun _ => true

def keyField : DerivedField where
  rustName := "id"
  ty := .path false "i64"
  id := "id"
  column := "id"
  storage := .integer
  nullable := false
  primaryKey := true

def scoreField : DerivedField where
  rustName := "score"
  ty := .generic false "Option" (.path false "i64")
  id := "score"
  column := "the \"score\""
  storage := .integer
  nullable := true
  primaryKey := false

def rankField : DerivedField where
  rustName := "rank"
  ty := .path false "i64"
  id := "rank"
  column := "rank"
  storage := .integer
  nullable := false
  primaryKey := false

def keyBetween : DerivedCollection where
  collection := "agent.memory"
  table := "memory"
  version := 1
  fields := [scoreField, keyField, rankField]
  primaryKey := keyField
  indexes := []
  canonical := canonicalSchema "agent.memory" "memory" 1 [scoreField, keyField, rankField]
  fingerprint := plainHost.sha256 ""

theorem keyBetween_accepted :
    expandCollection plainHost keyBetweenInput = .ok keyBetween := rfl

/-- Typed operations on a table of this collection without further constraints. -/
def numberCrud : Crud Nat (Option Nat) where
  derived := keyBetween
  codec := fun _ =>
    { toValue := fun value => .ok (some value)
      fromValue := fun cell => .ok (cell.getD 0) }
  rawBindParameter := fun _ _ => .ok ()
  accepts := fun _ => true

def numberRecord (score id rank : Nat) : Record numberCrud.derived Nat :=
  ⟨[score, id, rank], rfl⟩

theorem numberRecord_encodes (score id rank : Nat) :
    (numberRecord score id rank).Encodes numberCrud.codec :=
  ⟨[some score, some id, some rank], rfl⟩

/-- Rows of scores, keys and ranks. -/
def numberRows (values : List (Nat × Nat × Nat)) : List (Row (Option Nat)) :=
  values.map fun value => (numberRecord value.1 value.2.1 value.2.2).row numberCrud.codec

def NumberKeys (values : List (Nat × Nat × Nat)) : Prop :=
  (values.map fun value => value.2.1).Nodup

/-- Rows with distinct numbers for keys. -/
theorem numberRows_valid {values : List (Nat × Nat × Nat)} (distinct : NumberKeys values) :
    ((numberRows values).map fun row => row numberCrud.derived.primaryKey.column).Nodup ∧
      ∀ row ∈ numberRows values,
        Scalar.isNull (row numberCrud.derived.primaryKey.column) = false := by
  unfold numberRows
  constructor
  · have keys : (values.map fun value =>
        (numberRecord value.1 value.2.1 value.2.2).row numberCrud.codec).map
          (fun row => row numberCrud.derived.primaryKey.column) =
            (values.map fun value => value.2.1).map some := by
      rw [List.map_map, List.map_map]
      rfl
    rw [keys]
    exact List.Nodup.map (fun _ _ => Option.some.inj) distinct
  · rw [List.forall_mem_map]
    intro value _
    rfl

def numberTable (values : List (Nat × Nat × Nat)) (distinct : NumberKeys values) :
    numberCrud.Content :=
  ⟨numberRows values, (numberRows_valid distinct).1, (numberRows_valid distinct).2⟩

theorem twoRecords_distinct : NumberKeys [(5, 1, 50), (7, 2, 70)] := by
  unfold NumberKeys
  decide

/-- Records with the keys 1 and 2. -/
def twoRecords : numberCrud.Content :=
  numberTable [(5, 1, 50), (7, 2, 70)] twoRecords_distinct

theorem keyBetween_formed : numberCrud.derived.WellFormed plainHost :=
  expandCollection_wellFormed keyBetween_accepted

/-- Rows that replace the table. -/
theorem number_replaced (count : Nat) {values : List (Nat × Nat × Nat)}
    (distinct : NumberKeys values) :
    numberCrud.replaced count (numberRows values) =
      .ok (count, numberTable values distinct) :=
  replaced_admitted count (numberRows_valid distinct).1 (numberRows_valid distinct).2 rfl

theorem number_get {values : List (Nat × Nat × Nat)} {distinct : NumberKeys values}
    {score id rank : Nat} (member : (score, id, rank) ∈ values) :
    numberCrud.get id (numberTable values distinct) = .ok (some [score, id, rank]) := by
  have stored : (numberTable values distinct).view (some id) =
      some ((numberRecord score id rank).row numberCrud.codec) :=
    Table.view_eq_some_iff.mpr ⟨List.mem_map.mpr ⟨(score, id, rank), member, rfl⟩, rfl⟩
  rw [get_eq keyBetween_formed rfl rfl stored]
  rfl

/-- A table of two records obeys the laws; and updating the first, inserting a third and
deleting the first succeed on it, although an update passes the key behind the rank. -/
theorem key_between_obeys_store_laws :
    numberCrud.StoreLaws twoRecords ∧
      updateValues numberCrud.codec (numberRecord 9 1 90) = .ok [some 9, some 90, some 1] ∧
      (∃ next, numberCrud.update (numberRecord 9 1 90) twoRecords = .ok (1, next) ∧
        numberCrud.get 1 next = .ok (some [9, 1, 90]) ∧
        numberCrud.get 2 next = .ok (some [7, 2, 70])) ∧
      (∃ next, numberCrud.insert (numberRecord 3 4 30) twoRecords = .ok (1, next) ∧
        numberCrud.get 4 next = .ok (some [3, 4, 30]) ∧
        numberCrud.get 2 next = .ok (some [7, 2, 70])) ∧
      ∃ next, numberCrud.delete 1 twoRecords = .ok (1, next) ∧
        numberCrud.get 1 next = .ok none ∧
        numberCrud.get 2 next = .ok (some [7, 2, 70]) := by
  have laws := crud_obeys_store_laws plainHost keyBetweenInput numberCrud
    keyBetween_accepted (fun _ _ => rfl) twoRecords
  have binds : ∀ index value, numberCrud.rawBindParameter index value = .ok () :=
    fun _ _ => rfl
  have records : ∀ row ∈ twoRecords.rows,
      ∃ old : Record numberCrud.derived Nat, old.row numberCrud.codec = row := by
    intro row member
    obtain ⟨value, -, rfl⟩ := List.mem_map.mp member
    exact ⟨numberRecord value.1 value.2.1 value.2.2, rfl⟩
  refine ⟨laws, rfl, ?_, ?_, ?_⟩
  · have updated := (update_eq binds keyBetween_formed (numberRecord_encodes 9 1 90)
      records).trans
        (@number_replaced 1 [(9, 1, 90), (7, 2, 70)] (by unfold NumberKeys; decide))
    exact ⟨_, updated, number_get (by simp), number_get (by simp)⟩
  · have inserted := (insert_eq binds keyBetween_formed (numberRecord_encodes 3 4 30)
      twoRecords).trans
        (@number_replaced 1 [(5, 1, 50), (7, 2, 70), (3, 4, 30)]
          (by unfold NumberKeys; decide))
    exact ⟨_, inserted, number_get (by simp), number_get (by simp)⟩
  · obtain ⟨next, deleted, gone, kept⟩ := (laws.delete_runs 1 (some 1) rfl).2 rfl
    have member : (numberRecord 7 2 70).row numberCrud.codec ∈ twoRecords.rows :=
      List.mem_cons_of_mem _ List.mem_cons_self
    have stays : next.view (some 2) = some ((numberRecord 7 2 70).row numberCrud.codec) :=
      Table.view_eq_some_iff.mpr ⟨(kept _).mpr ⟨member, by decide⟩, rfl⟩
    exact ⟨next, deleted, gone, get_eq keyBetween_formed rfl rfl stays⟩

end Crud

end Csgdb
