/-
Module: Csgdb.Proofs.StoredRecords
Purpose: The rows that stand for records: which row a record has, when two records share
  one, and what the generated changes make of the rows of a table, succeeding or not.
Trusted boundary: none
Main exports: Record.row, RoundTrips.row_injective, Crud.insert_eq, Crud.update_eq,
  Crud.delete_eq, replaceRows_admitted, replaceRows_refused
-/
import Csgdb.Collection.Session
import Csgdb.Proofs.RecordCells

namespace Csgdb

open Derive Foundation Sql

variable {V Cell : Type} [Scalar Cell] {host : MacroHost} {derived : DerivedCollection}
variable {codec : DerivedField → FieldCodec V Cell}

/-! ## The row of a record -/

/-- The cells of a record, by the columns of their fields. -/
def Record.row (codec : DerivedField → FieldCodec V Cell) (record : Record derived V) :
    Row Cell :=
  match record.cells codec with
  | .ok cells => writtenRow derived cells
  | .error _ => fun _ => Scalar.null

/-- The value of the field with the given column. -/
def Record.valueOf (record : Record derived V) (column : String) : Option V :=
  (derived.columns.zip record.values).lookup column

/-- The values of a record have cells. -/
def Record.Encodes (codec : DerivedField → FieldCodec V Cell) (record : Record derived V) :
    Prop :=
  ∃ cells, record.cells codec = .ok cells

theorem Record.row_eq {record : Record derived V} {cells : List Cell}
    (encoded : record.cells codec = .ok cells) : record.row codec = writtenRow derived cells := by
  rw [Record.row, encoded]

theorem map_row (formed : derived.WellFormed host) {record : Record derived V}
    {cells : List Cell} (encoded : record.cells codec = .ok cells) :
    derived.columns.map (record.row codec) = cells := by
  rw [Record.row_eq encoded]
  exact map_writtenRow formed (encodeValues_length record.length_eq encoded)

/-- Outside the columns of the collection a row holds nothing. -/
theorem writtenRow_foreign {cells : List Cell} (sameLength : cells.length = derived.fields.length)
    {column : String} (foreign : column ∉ derived.columns) :
    writtenRow derived cells column = Scalar.null := by
  unfold writtenRow
  rw [lookup_of_not_mem, Option.getD_none]
  rwa [List.map_fst_zip (by simp [DerivedCollection.columns, sameLength])]

theorem Record.row_foreign (record : Record derived V) {column : String}
    (foreign : column ∉ derived.columns) : record.row codec column = Scalar.null := by
  cases encoded : record.cells codec with
  | error failure => rw [Record.row, encoded]
  | ok cells =>
      rw [Record.row_eq encoded]
      exact writtenRow_foreign (encodeValues_length record.length_eq encoded) foreign

/-- The decoded row is the record. -/
theorem fromRow_row (formed : derived.WellFormed host) (roundTrip : RoundTrips codec)
    {record : Record derived V} (encodes : record.Encodes codec) :
    fromRow codec derived (derived.columns.map (record.row codec)) = .ok record.values := by
  obtain ⟨cells, encoded⟩ := encodes
  rw [map_row formed encoded, fromRow_eq (encodeValues_length record.length_eq encoded)]
  exact decodeCells_encodeValues roundTrip record.length_eq encoded

/-- Codecs that round-trip give different records different rows. -/
theorem RoundTrips.row_injective (roundTrip : RoundTrips codec)
    (formed : derived.WellFormed host) {left right : Record derived V}
    (leftEncodes : left.Encodes codec) (rightEncodes : right.Encodes codec)
    (same : left.row codec = right.row codec) : left = right := by
  have leftRead := fromRow_row formed roundTrip leftEncodes
  have rightRead := fromRow_row formed roundTrip rightEncodes
  rw [same, rightRead] at leftRead
  have sameValues := Except.ok.inj leftRead
  cases left with
  | mk leftValues leftLength =>
      cases right with
      | mk rightValues rightLength =>
          cases sameValues
          rfl

omit [Scalar Cell] in
/-- Codecs that round-trip give different values different cells. -/
theorem RoundTrips.toValue_injective (roundTrip : RoundTrips codec) {field : DerivedField}
    {left right : V} {cell : Cell} (leftCell : (codec field).toValue left = .ok cell)
    (rightCell : (codec field).toValue right = .ok cell) : left = right := by
  have leftRead := roundTrip field left cell leftCell
  rw [roundTrip field right cell rightCell] at leftRead
  exact (Except.ok.inj leftRead).symm

theorem getElem?_columns {index : Nat} {field : DerivedField}
    (atField : derived.fields[index]? = some field) :
    derived.columns[index]? = some field.column := by
  rw [DerivedCollection.columns, List.getElem?_map, atField, Option.map_some]

/-- The cell of a record in the column of a field encodes the value of the field. -/
theorem row_field (formed : derived.WellFormed host) {record : Record derived V}
    (encodes : record.Encodes codec) {field : DerivedField} (member : field ∈ derived.fields) :
    ∃ value, record.valueOf field.column = some value ∧
      (codec field).toValue value = .ok (record.row codec field.column) := by
  obtain ⟨cells, encoded⟩ := encodes
  obtain ⟨index, atField⟩ := List.mem_iff_getElem?.mp member
  have inRange : index < record.values.length := by
    rw [record.length_eq]
    exact (List.getElem?_eq_some_iff.mp atField).1
  obtain ⟨cell, atCell, fieldEncoded⟩ := encodeValues_getElem encoded atField
    (List.getElem?_eq_getElem inRange)
  have sameLength := encodeValues_length record.length_eq encoded
  refine ⟨record.values[index], ?_, ?_⟩
  · unfold Record.valueOf
    apply lookup_of_mem
    · rw [List.map_fst_zip (by simp [DerivedCollection.columns, record.length_eq])]
      exact formed.columns_nodup
    · apply List.mem_iff_getElem?.mpr
      exact ⟨index, List.getElem?_zip_eq_some.mpr
        ⟨getElem?_columns atField, List.getElem?_eq_getElem inRange⟩⟩
  · have sameCells := congrArg (fun list => list[index]?) (map_row formed encoded)
    simp only [List.getElem?_map, getElem?_columns atField, Option.map_some, atCell,
      Option.some.injEq] at sameCells
    rw [fieldEncoded, sameCells]

/-- The cell of a record in the key column encodes its key. -/
theorem row_key (formed : derived.WellFormed host) {record : Record derived V} {key : V}
    (isKey : record.key = some key) (encodes : record.Encodes codec) :
    (codec derived.primaryKey).toValue key =
      .ok (record.row codec derived.primaryKey.column) := by
  obtain ⟨cells, encoded⟩ := encodes
  obtain ⟨index, found, atField⟩ := primaryKeyIndex_spec formed
  have atValue : record.values[index]? = some key := by
    simpa [Record.key, found] using isKey
  obtain ⟨keyCell, atCell, keyEncoded⟩ := encodeValues_getElem encoded atField atValue
  have sameCells := congrArg (fun list => list[index]?) (map_row formed encoded)
  simp only [List.getElem?_map, getElem?_columns atField, Option.map_some, atCell,
    Option.some.injEq] at sameCells
  rw [keyEncoded, sameCells]

/-! ## Checked rows -/

section Checked

variable [DecidableEq Cell] {key : String} {accepts : List (Row Cell) → Bool}
variable {rows : List (Row Cell)}

/-- Rows with distinct and present keys become a table when the constraints admit them. -/
theorem replaceRows_admitted (nodup : (rows.map fun row => row key).Nodup)
    (present : ∀ row ∈ rows, Scalar.isNull (row key) = false) (admitted : accepts rows = true) :
    (Table.replaceRows accepts rows : Except Failure (Table Cell key)) =
      .ok ⟨rows, nodup, present⟩ := by
  unfold Table.replaceRows
  rw [dif_pos ⟨nodup, present⟩, if_pos admitted]

theorem replaceRows_refused (conflict : ¬ (rows.map fun row => row key).Nodup ∨
      accepts rows = false) :
    (Table.replaceRows accepts rows : Except Failure (Table Cell key)) =
      .error .constraint := by
  unfold Table.replaceRows
  by_cases valid : (rows.map fun row => row key).Nodup ∧
      ∀ row ∈ rows, Scalar.isNull (row key) = false
  · rw [dif_pos valid]
    rcases conflict with twice | rejected
    · exact absurd valid.1 twice
    · rw [rejected]
      rfl
  · rw [dif_neg valid]

end Checked

/-! ## The generated changes -/

namespace Crud

variable [DecidableEq Cell] {crud : Crud V Cell}

/-- Replaced rows as the outcome of a change. -/
def replaced (crud : Crud V Cell) (count : Nat) (rows : List (Row Cell)) :
    Result (Nat × crud.Content) :=
  ((Table.replaceRows crud.accepts rows).map fun next => (count, next)).mapError
    Storage.mapFailure

/-- A successful change has executed the statement that the text stands for. -/
theorem executeRecord_ok {sql : String} {statement : Statement} {values : List Cell}
    {table next : crud.Content} {count : Nat}
    (prepared : Storage.prepare sql =
      .ok { statement := statement, parameterCount := values.length })
    (ok : crud.executeRecord sql values table = .ok (count, next)) :
    table.execute crud.accepts crud.derived.table values statement = .ok (count, next) := by
  have bindings := Storage.bindIter_cases crud.rawBindParameter
    (show Prepared.parameterCount ⟨statement, values.length⟩ = values.length from rfl)
  simp only [executeRecord, prepared, ok_bind, Storage.executeValues] at ok
  rcases bindings with bound | ⟨index, value, failure, -, refused⟩
  · simp only [bound, ok_bind] at ok
    cases executed : table.execute crud.accepts crud.derived.table values statement with
    | error failure => simp [executed, Except.mapError] at ok
    | ok result =>
        simp only [executed, Except.mapError, Except.ok.injEq] at ok
        rw [ok]
  · simp [refused] at ok

/-- Rows with distinct and present keys that the constraints admit replace the table. -/
theorem replaced_admitted (count : Nat) {rows : List (Row Cell)}
    (nodup : (rows.map fun row => row crud.derived.primaryKey.column).Nodup)
    (present : ∀ row ∈ rows, Scalar.isNull (row crud.derived.primaryKey.column) = false)
    (admitted : crud.accepts rows = true) :
    crud.replaced count rows = .ok (count, ⟨rows, nodup, present⟩) := by
  rw [replaced, replaceRows_admitted nodup present admitted]
  rfl

/-- Rows that have replaced the table were counted as the change says. -/
theorem replaced_ok {changed count : Nat} {rows : List (Row Cell)} {next : crud.Content}
    (ok : crud.replaced changed rows = .ok (count, next)) :
    count = changed ∧ next.rows = rows := by
  unfold replaced at ok
  cases outcome : (Table.replaceRows crud.accepts rows :
      Except Failure crud.Content).map fun next => (changed, next) with
  | error failure => simp [outcome, Except.mapError] at ok
  | ok result =>
      simp only [outcome, Except.mapError, Except.ok.injEq] at ok
      exact Table.map_replaceRows_ok (outcome.trans (congrArg _ ok))

variable (binds : ∀ index value, crud.rawBindParameter index value = .ok ())

include binds

/-- A change executes the statement that its text stands for. -/
theorem executeRecord_eq {sql : String} {statement : Statement} {values : List Cell}
    (prepared : Storage.prepare sql =
      .ok { statement := statement, parameterCount := values.length })
    (table : crud.Content) :
    crud.executeRecord sql values table =
      (table.execute crud.accepts crud.derived.table values statement).mapError
        Storage.mapFailure := by
  have bindings := Storage.bindIter_cases crud.rawBindParameter
    (show Prepared.parameterCount ⟨statement, values.length⟩ = values.length from rfl)
  rcases bindings with bound | ⟨index, value, failure, refuses, -⟩
  · simp only [executeRecord, prepared, ok_bind, Storage.executeValues, bound]
  · rw [binds] at refuses
    cases refuses

/-- An insert puts the row of its record behind the others. -/
theorem insert_eq (formed : crud.derived.WellFormed host)
    {record : Record crud.derived V} (encodes : record.Encodes crud.codec)
    (table : crud.Content) :
    crud.insert record table = crud.replaced 1 (table.rows ++ [record.row crud.codec]) := by
  obtain ⟨cells, encoded⟩ := encodes
  have sameLength := cells_length encoded
  have columnCount : crud.derived.columns.length =
      ((List.range' 1 crud.derived.fields.length).map Term.parameter).length := by
    simp [DerivedCollection.columns]
  have inserted := insertedRow_eq sameLength
  rw [insert, encoded, ok_bind, executeRecord_eq binds
    (by rw [prepare_insertSql formed, sameLength]), Record.row_eq encoded, replaced]
  simp only [DerivedCollection.insertStatement, Table.execute, inserted, columnCount,
    and_self, if_true]

/-- A delete takes out the row with its key. -/
theorem delete_eq [ExactEquality Cell] (formed : crud.derived.WellFormed host) {key : V}
    {keyCell : Cell}
    (encoded : (crud.codec crud.derived.primaryKey).toValue key = .ok keyCell)
    (table : crud.Content) :
    crud.delete key table =
      crud.replaced (if (table.view keyCell).isSome then 1 else 0)
        (table.rows.filter fun row => row crud.derived.primaryKey.column ≠ keyCell) := by
  have bound : boundValue [keyCell] 1 = some keyCell := rfl
  rw [delete, encoded, ok_bind, executeRecord_eq binds (prepare_deleteByKeySql formed), replaced,
    DerivedCollection.deleteStatement, table.execute_delete bound]

omit binds [DecidableEq Cell] in
/-- Rewriting the row of a record with the cells of another one of its key gives the row
of the other one. -/
theorem rewrittenRow_eq (formed : derived.WellFormed host) {old record : Record derived V}
    {cells : List Cell} (encoded : record.cells codec = .ok cells) {index : Nat}
    (found : primaryKeyIndex derived.schema = some index)
    (atField : derived.fields[index]? = some derived.primaryKey)
    (mutableLength : (cells.eraseIdx index).length = (mutableFields derived.fields).length)
    (sameKey : old.row codec derived.primaryKey.column =
      record.row codec derived.primaryKey.column) :
    rewrittenRow derived (cells.eraseIdx index) (old.row codec) = record.row codec := by
  have sameLength := encodeValues_length record.length_eq encoded
  have atCell : cells[index]? = some (record.row codec derived.primaryKey.column) := by
    have sameCells := congrArg (fun list => list[index]?) (map_row formed encoded)
    simp only [List.getElem?_map, getElem?_columns atField, Option.map_some] at sameCells
    exact sameCells.symm
  have onColumns := map_rewrittenRow formed sameLength
    (by rw [← primaryKeyIndex_eq]; exact found) atField mutableLength atCell sameKey
  have sameColumns : derived.columns.map (rewrittenRow derived (cells.eraseIdx index)
      (old.row codec)) = derived.columns.map (record.row codec) :=
    onColumns.trans (map_row formed encoded).symm
  funext column
  by_cases named : column ∈ derived.columns
  · exact List.map_inj_left.mp sameColumns column named
  · have notMutable : column ∉ (mutableFields derived.fields).map DerivedField.column := by
      intro member
      obtain ⟨field, inMutable, rfl⟩ := List.mem_map.mp member
      exact named (List.mem_map_of_mem (List.mem_filter.mp inMutable).1)
    rw [record.row_foreign named, rewrittenRow, lookup_of_not_mem, Option.getD_none,
      old.row_foreign named]
    rwa [List.map_fst_zip (by simp [mutableLength])]

/-- An update puts the row of its record in the place of the row with its key, in a table
whose rows stand for records. -/
theorem update_eq [ExactEquality Cell] (formed : crud.derived.WellFormed host)
    {record : Record crud.derived V} (encodes : record.Encodes crud.codec)
    {table : crud.Content}
    (records : ∀ row ∈ table.rows, ∃ old : Record crud.derived V, old.row crud.codec = row) :
    crud.update record table =
      crud.replaced
        (if (table.view (record.row crud.codec crud.derived.primaryKey.column)).isSome then 1
          else 0)
        (table.rows.map fun row =>
          if row crud.derived.primaryKey.column =
              record.row crud.codec crud.derived.primaryKey.column
            then record.row crud.codec else row) := by
  obtain ⟨cells, encoded⟩ := encodes
  obtain ⟨index, found, atField⟩ := primaryKeyIndex_spec formed
  have sameLength := cells_length encoded
  have inRange : index < cells.length := by
    rw [sameLength]
    exact (List.getElem?_eq_some_iff.mp atField).1
  have mutableLength : (cells.eraseIdx index).length =
      (mutableFields crud.derived.fields).length := by
    have fieldCount := length_mutableFields formed
    rw [List.length_eraseIdx_of_lt inRange]
    omega
  generalize keyIs : record.row crud.codec crud.derived.primaryKey.column = keyCell
  have atCell : cells[index]? = some keyCell := by
    have sameCells := congrArg (fun list => list[index]?) (map_row formed encoded)
    simp only [List.getElem?_map, getElem?_columns atField, Option.map_some, keyIs] at sameCells
    exact sameCells.symm
  have passed : updateValues crud.codec record = .ok (cells.eraseIdx index ++ [keyCell]) := by
    simp only [updateValues, encoded, ok_bind, found, atCell]
  have prepared : Storage.prepare crud.derived.updateSql =
      .ok { statement := crud.derived.updateStatement
            parameterCount := (cells.eraseIdx index ++ [keyCell]).length } := by
    rw [prepare_updateSql formed, List.length_append, mutableLength, List.length_singleton]
  have boundKey : boundValue (cells.eraseIdx index ++ [keyCell])
      ((mutableFields crud.derived.fields).length + 1) = some keyCell := by
    rw [boundValue_succ, ← mutableLength]
    simp
  have assigns : ∀ row ∈ table.rows, row crud.derived.primaryKey.column = keyCell →
      assignedRow (cells.eraseIdx index ++ [keyCell]) crud.derived.assignments row =
        some (record.row crud.codec) := by
    intro row member sameKey
    obtain ⟨old, rfl⟩ := records row member
    rw [assignedRow_eq mutableLength,
      rewrittenRow_eq formed encoded found atField mutableLength (sameKey.trans keyIs.symm)]
  rw [update, passed, ok_bind, executeRecord_eq binds prepared, replaced,
    DerivedCollection.updateStatement, table.execute_update boundKey assigns]

end Crud

end Csgdb
