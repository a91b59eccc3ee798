/-
Module: Csgdb.Proofs.RecordCells
Purpose: The cells of a record: they are decoded to the record, the key stands at the
  position that the runtime finds, and the generated changes write every cell to the
  column of its own field.
Trusted boundary: none
Main exports: decodeCells, fromRow_eq, RoundTrips, decodeCells_encodeValues,
  primaryKeyIndex_spec, writtenRow, map_writtenRow, rewrittenRow, map_rewrittenRow
-/
import Csgdb.Collection.Crud
import Csgdb.Foundation.Replacement
import Csgdb.Proofs.DerivedStatements
import Csgdb.Sql.Store

namespace Csgdb

open Derive Foundation Sql

/-! ## Encoding and decoding -/

section Codec

variable {V Cell : Type} {codec : DerivedField → FieldCodec V Cell}

theorem encodeValues_length :
    ∀ {fields : List DerivedField} {values : List V} {cells : List Cell},
      values.length = fields.length → encodeValues codec fields values = .ok cells →
        cells.length = fields.length
  | [], [], cells, _, ok => by
      obtain rfl := Except.ok.inj ok
      rfl
  | field :: fields, value :: values, cells, sameLength, ok => by
      simp only [encodeValues, bind_eq_ok_iff, Except.ok.injEq] at ok
      obtain ⟨cell, -, others, encoded, rfl⟩ := ok
      have rest := encodeValues_length (by simpa using sameLength) encoded
      simp [rest]

/-- The cell at a position is the encoded value at that position. -/
theorem encodeValues_getElem :
    ∀ {fields : List DerivedField} {values : List V} {cells : List Cell} {index : Nat}
      {field : DerivedField} {value : V},
      encodeValues codec fields values = .ok cells → fields[index]? = some field →
        values[index]? = some value →
          ∃ cell, cells[index]? = some cell ∧ (codec field).toValue value = .ok cell
  | [], _, _, _, _, _, _, atField, _ => by simp at atField
  | _ :: _, [], _, _, _, _, _, _, atValue => by simp at atValue
  | field :: fields, value :: values, cells, index, other, wanted, ok, atField, atValue => by
      simp only [encodeValues, bind_eq_ok_iff, Except.ok.injEq] at ok
      obtain ⟨cell, encoded, others, encodedRest, rfl⟩ := ok
      cases index with
      | zero =>
          simp only [List.getElem?_cons_zero, Option.some.injEq] at atField atValue
          obtain rfl := atField
          obtain rfl := atValue
          exact ⟨cell, rfl, encoded⟩
      | succ index =>
          simp only [List.getElem?_cons_succ] at atField atValue ⊢
          exact encodeValues_getElem encodedRest atField atValue

/-- Decoding a list of cells field by field. -/
def decodeCells (codec : DerivedField → FieldCodec V Cell) :
    List (DerivedField × Cell) → Result (List V)
  | [] => .ok []
  | (field, cell) :: rest => do
      let value ← (codec field).fromValue cell
      let values ← decodeCells codec rest
      .ok (value :: values)

/-- Decoding by position pairs every field with the cell of its own column. -/
theorem decodeFields_eq {row : List Cell} :
    ∀ {fields : List DerivedField} {cells : List Cell} {index : Nat},
      cells.length = fields.length → row.drop index = cells →
        decodeFields codec row index fields = decodeCells codec (fields.zip cells)
  | [], [], _, _, _ => rfl
  | field :: fields, cell :: cells, index, sameLength, dropped => by
      have here : row[index]? = some cell := by
        rw [← List.head?_drop, dropped, List.head?_cons]
      have next : row.drop (index + 1) = cells := by
        rw [← List.tail_drop, dropped, List.tail_cons]
      have rest := decodeFields_eq (by simpa using sameLength) next
      simp only [decodeFields, Storage.valueRef, here, ok_bind, rest, List.zip_cons_cons,
        decodeCells]

theorem fromRow_eq {derived : DerivedCollection} {cells : List Cell}
    (sameLength : cells.length = derived.fields.length) :
    fromRow codec derived cells = decodeCells codec (derived.fields.zip cells) :=
  decodeFields_eq sameLength rfl

/-- Every encoded value is decoded to itself. -/
def RoundTrips (codec : DerivedField → FieldCodec V Cell) : Prop :=
  ∀ field value cell, (codec field).toValue value = .ok cell →
    (codec field).fromValue cell = .ok value

/-- Codecs that round-trip give every record back. -/
theorem decodeCells_encodeValues (roundTrip : RoundTrips codec) :
    ∀ {fields : List DerivedField} {values : List V} {cells : List Cell},
      values.length = fields.length → encodeValues codec fields values = .ok cells →
        decodeCells codec (fields.zip cells) = .ok values
  | [], [], cells, _, ok => by
      obtain rfl := Except.ok.inj ok
      rfl
  | field :: fields, value :: values, cells, sameLength, ok => by
      simp only [encodeValues, bind_eq_ok_iff, Except.ok.injEq] at ok
      obtain ⟨cell, encoded, others, encodedRest, rfl⟩ := ok
      have rest := decodeCells_encodeValues roundTrip (by simpa using sameLength) encodedRest
      simp only [List.zip_cons_cons, decodeCells, roundTrip field value cell encoded, rest,
        ok_bind]

end Codec

/-! ## The position of the key -/

section Key

variable {host : MacroHost} {derived : DerivedCollection}

theorem primaryKeyIndex_eq (fields : List DerivedField) :
    (fields.map DerivedField.schema).findIdx? FieldSchema.primaryKey =
      fields.findIdx? DerivedField.primaryKey := by
  rw [List.findIdx?_map]
  rfl

/-- The only key field stands at the position that the runtime finds. -/
theorem primaryKeyIndex_spec (formed : derived.WellFormed host) :
    ∃ index, primaryKeyIndex derived.schema = some index ∧
      derived.fields[index]? = some derived.primaryKey := by
  obtain ⟨member, isKey⟩ := primaryKey_mem formed
  have found : ∃ index, derived.fields.findIdx? DerivedField.primaryKey = some index := by
    cases search : derived.fields.findIdx? DerivedField.primaryKey with
    | none =>
        rw [List.findIdx?_eq_none_iff] at search
        simp [search _ member] at isKey
    | some index => exact ⟨index, rfl⟩
  obtain ⟨index, search⟩ := found
  refine ⟨index, ?_, ?_⟩
  · unfold primaryKeyIndex DerivedCollection.schema
    rw [primaryKeyIndex_eq, search]
  · obtain ⟨field, atIndex, marked⟩ : ∃ field, derived.fields[index]? = some field ∧
        field.primaryKey = true := by
      have spec := List.findIdx?_eq_some_iff_getElem.mp search
      obtain ⟨bound, marked, -⟩ := spec
      exact ⟨_, List.getElem?_eq_getElem bound, marked⟩
    have inFilter : field ∈ derived.fields.filter DerivedField.primaryKey :=
      List.mem_filter.mpr ⟨List.mem_of_getElem? atIndex, marked⟩
    rw [formed.primary_key, List.mem_singleton] at inFilter
    rw [atIndex, inFilter]

/-- Removing the cell of the key leaves the cells of the other fields. -/
theorem zip_mutableFields {Cell : Type} :
    ∀ {fields : List DerivedField} {cells : List Cell} {index : Nat},
      (fields.filter DerivedField.primaryKey).length = 1 →
        fields.findIdx? DerivedField.primaryKey = some index →
          (mutableFields fields).zip (cells.eraseIdx index) =
            (fields.zip cells).filter fun pair => !pair.1.primaryKey
  | [], cells, index, _, found => by simp at found
  | field :: fields, [], index, _, _ => by simp [mutableFields]
  | field :: fields, cell :: cells, index, one, found => by
      by_cases isKey : field.primaryKey = true
      · have atHead : index = 0 := by simpa [List.findIdx?_cons, isKey] using found.symm
        have noOther : fields.filter DerivedField.primaryKey = [] := by
          simpa [isKey] using one
        have allMutable : mutableFields fields = fields := by
          unfold mutableFields
          rw [List.filter_eq_self]
          intro other member
          have notKey := List.filter_eq_nil_iff.mp noOther other member
          simpa using notKey
        have allPairs : (fields.zip cells).filter (fun pair => !pair.1.primaryKey) =
            fields.zip cells := by
          rw [List.filter_eq_self]
          intro pair member
          have notKey := List.filter_eq_nil_iff.mp noOther pair.1
            (List.of_mem_zip member).1
          simpa using notKey
        have headMutable : mutableFields (field :: fields) = mutableFields fields := by
          simp [mutableFields, isKey]
        rw [atHead, headMutable, allMutable]
        simp [isKey, allPairs]
      · cases index with
        | zero => simp [List.findIdx?_cons, isKey] at found
        | succ index =>
            have foundRest : fields.findIdx? DerivedField.primaryKey = some index := by
              simpa [List.findIdx?_cons, isKey] using found
            have rest := (@zip_mutableFields _ _ cells) (by simpa [isKey] using one)
              foundRest
            have headMutable : mutableFields (field :: fields) =
                field :: mutableFields fields := by
              simp [mutableFields, isKey]
            rw [headMutable, List.eraseIdx_cons_succ, List.zip_cons_cons, rest]
            simp [isKey]

end Key

/-! ## The rows the statements write -/

section Rows

variable {Cell : Type} [Scalar Cell]

omit [Scalar Cell] in
/-- Parameters numbered in a row take the values in order. -/
theorem mapM_numbered {α : Type} {term : α × Nat → Term}
    (numbered : ∀ item, term item = .parameter (item.2 + 1)) (row : Row Cell)
    (behind : List Cell) :
    ∀ {items : List α} {cells before : List Cell}, items.length = cells.length →
      (items.zipIdx before.length).mapM
          (fun item => (term item).value (before ++ cells ++ behind) row) = some cells
  | [], [], _, _ => rfl
  | item :: items, cell :: cells, before, sameLength => by
      have rest := @mapM_numbered _ _ numbered row behind items cells (before ++ [cell])
        (by simpa using sameLength)
      have here : (term (item, before.length)).value (before ++ cell :: cells ++ behind)
          row = some cell := by
        rw [numbered, Term.value, boundValue_succ]
        simp
      simp only [List.length_append, List.length_singleton, List.append_assoc,
        List.cons_append, List.nil_append] at rest
      simp only [List.append_assoc, List.cons_append] at here ⊢
      simp [List.zipIdx_cons, here, rest]

/-- The row that the generated insert writes. -/
def writtenRow (derived : DerivedCollection) (cells : List Cell) : Row Cell :=
  fun column => ((derived.columns.zip cells).lookup column).getD Scalar.null

theorem insertedRow_eq {derived : DerivedCollection} {cells : List Cell}
    (sameLength : cells.length = derived.fields.length) :
    insertedRow cells derived.columns
        ((List.range' 1 derived.fields.length).map .parameter) =
      some (writtenRow derived cells) := by
  have terms : (List.range' 1 derived.fields.length).map Term.parameter =
      derived.fields.zipIdx.map fun item => Term.parameter (item.2 + 1) := by
    rw [← zipIdx_map_succ, List.map_map]
    rfl
  have read := @mapM_numbered _ _ (fun item : DerivedField × Nat => .parameter (item.2 + 1))
    (fun _ => rfl) (fun _ => Scalar.null) [] _ _ [] sameLength.symm
  simp only [List.length_nil, List.nil_append, List.append_nil] at read
  unfold insertedRow
  rw [terms, List.mapM_map]
  simp only [Function.comp_def, read, Option.map_some]
  rfl

/-- The inserted row gives every column the cell of its own field. -/
theorem map_writtenRow {host : MacroHost} {derived : DerivedCollection}
    (formed : derived.WellFormed host) {cells : List Cell}
    (sameLength : cells.length = derived.fields.length) :
    derived.columns.map (writtenRow derived cells) = cells := by
  have lengths : derived.columns.length = cells.length := by
    simp [DerivedCollection.columns, sameLength]
  apply map_eq_of_forall_mem_zip lengths
  intro pair member
  unfold writtenRow
  rw [lookup_of_mem ?_ (show (pair.1, pair.2) ∈ _ from member), Option.getD_some]
  rw [List.map_fst_zip (by omega)]
  exact formed.columns_nodup

/-- The row that the generated update writes over an old one. -/
def rewrittenRow (derived : DerivedCollection) (mutableCells : List Cell)
    (row : Row Cell) : Row Cell :=
  fun column => ((((mutableFields derived.fields).map DerivedField.column).zip
    mutableCells).lookup column).getD (row column)

omit [Scalar Cell] in
theorem assignedRow_eq {derived : DerivedCollection} {mutableCells : List Cell}
    (sameLength : mutableCells.length = (mutableFields derived.fields).length)
    (keyCell : Cell) (row : Row Cell) :
    assignedRow (mutableCells ++ [keyCell]) derived.assignments row =
      some (rewrittenRow derived mutableCells row) := by
  unfold assignedRow DerivedCollection.assignments rewrittenRow
  by_cases noMutable : mutableFields derived.fields = []
  · -- the key is assigned to itself: every column keeps its cell
    simp only [noMutable, if_true, List.mapM_cons, Term.value, List.mapM_nil, List.map_cons,
      List.map_nil, List.zip_nil_left, List.lookup_nil, Option.getD_none]
    simp only [Option.pure_def, Option.bind_eq_bind, Option.bind_some, Option.map_some,
      Option.some.injEq, List.zip_cons_cons, List.zip_nil_right]
    funext column
    by_cases isKey : column = derived.primaryKey.column
    · simp [isKey]
    · simp [List.lookup_cons, beq_false_of_ne isKey]
  · have read := @mapM_numbered _ _ (fun item : DerivedField × Nat =>
        (assignment item).value) (fun _ => rfl) row [keyCell] _ _ [] sameLength.symm
    simp only [List.length_nil, List.nil_append] at read
    rw [if_neg noMutable, List.mapM_map]
    simp only [Function.comp_def, read, Option.map_some]
    have sameColumns : ((mutableFields derived.fields).zipIdx.map assignment).map
        Assignment.column = (mutableFields derived.fields).map DerivedField.column := by
      rw [List.map_map]
      have viaFst : (mutableFields derived.fields).map DerivedField.column =
          ((mutableFields derived.fields).zipIdx.map Prod.fst).map DerivedField.column := by
        rw [List.zipIdx_map_fst]
      rw [viaFst, List.map_map]
      rfl
    rw [sameColumns]

variable {host : MacroHost} {derived : DerivedCollection}

theorem key_not_mem_mutable (formed : derived.WellFormed host) :
    derived.primaryKey.column ∉
      (mutableFields derived.fields).map DerivedField.column := by
  intro member
  obtain ⟨field, inMutable, sameColumn⟩ := List.mem_map.mp member
  obtain ⟨inFields, notKey⟩ := List.mem_filter.mp inMutable
  obtain ⟨keyMember, isKey⟩ := primaryKey_mem formed
  have same : field = derived.primaryKey :=
    List.inj_on_of_nodup_map formed.columns_nodup inFields keyMember sameColumn
  simp [same, isKey] at notKey

omit [Scalar Cell] in
/-- An update keeps the key of the row. -/
theorem rewrittenRow_key (formed : derived.WellFormed host) {mutableCells : List Cell}
    (sameLength : mutableCells.length = (mutableFields derived.fields).length)
    (row : Row Cell) :
    rewrittenRow derived mutableCells row derived.primaryKey.column =
      row derived.primaryKey.column := by
  unfold rewrittenRow
  rw [lookup_of_not_mem, Option.getD_none]
  rw [List.map_fst_zip (by simp [sameLength])]
  exact key_not_mem_mutable formed

omit [Scalar Cell] in
/-- The rewritten row gives every column the cell of its own field, although
the update passes the key last. -/
theorem map_rewrittenRow (formed : derived.WellFormed host) {cells : List Cell}
    (sameLength : cells.length = derived.fields.length) {index : Nat}
    (found : derived.fields.findIdx? DerivedField.primaryKey = some index)
    (atIndex : derived.fields[index]? = some derived.primaryKey)
    (mutableLength : (cells.eraseIdx index).length = (mutableFields derived.fields).length)
    {keyCell : Cell} (atKey : cells[index]? = some keyCell) {row : Row Cell}
    (sameKey : row derived.primaryKey.column = keyCell) :
    derived.columns.map (rewrittenRow derived (cells.eraseIdx index) row) = cells := by
  have pairs := (@zip_mutableFields _ _ cells)
    (by rw [formed.primary_key]; rfl) found
  have columnPairs : ((mutableFields derived.fields).map DerivedField.column).zip
      (cells.eraseIdx index) =
        ((derived.fields.zip cells).filter fun pair => !pair.1.primaryKey).map
          (Prod.map DerivedField.column id) := by
    rw [← pairs, List.zip_map_left]
  have lengths : derived.columns.length = cells.length := by
    simp [DerivedCollection.columns, sameLength]
  apply map_eq_of_forall_mem_zip lengths
  intro columnPair member
  unfold DerivedCollection.columns at member
  rw [List.zip_map_left] at member
  obtain ⟨⟨field, cell⟩, inPairs, rfl⟩ := List.mem_map.mp member
  have columnsNodup : (((mutableFields derived.fields).map DerivedField.column).zip
      (cells.eraseIdx index) |>.map Prod.fst).Nodup := by
    rw [columnPairs, List.map_map]
    have viaColumns : (derived.fields.zip cells).map (Prod.fst ∘ Prod.map
        DerivedField.column id) = derived.fields.map DerivedField.column := by
      have fieldsOf : (derived.fields.zip cells).map Prod.fst = derived.fields :=
        List.map_fst_zip (by omega)
      rw [← fieldsOf, List.map_map, fieldsOf]
      rfl
    have whole : ((derived.fields.zip cells).map (Prod.fst ∘ Prod.map
        DerivedField.column id)).Nodup := by
      rw [viaColumns]
      exact formed.columns_nodup
    exact whole.sublist (List.filter_sublist.map _)
  unfold rewrittenRow
  by_cases isKey : field.primaryKey = true
  · have isPrimary : field = derived.primaryKey := by
      have inFilter : field ∈ derived.fields.filter DerivedField.primaryKey :=
        List.mem_filter.mpr ⟨(List.of_mem_zip inPairs).1, isKey⟩
      rwa [formed.primary_key, List.mem_singleton] at inFilter
    obtain ⟨position, atPosition⟩ := List.mem_iff_getElem?.mp inPairs
    obtain ⟨atField, atCell⟩ := List.getElem?_zip_eq_some.mp atPosition
    have samePosition : position = index := by
      have fieldsNodup : derived.fields.Nodup := List.Nodup.of_map _ formed.columns_nodup
      have inRange : position < derived.fields.length :=
        (List.getElem?_eq_some_iff.mp atField).1
      apply (List.getElem?_inj inRange fieldsNodup).mp
      rw [atField, atIndex, isPrimary]
    have sameCell : cell = keyCell := by
      rw [samePosition, atKey] at atCell
      exact (Option.some.inj atCell).symm
    simp only [Prod.map_apply, id_eq, isPrimary]
    rw [lookup_of_not_mem, Option.getD_none, sameKey, sameCell]
    rw [List.map_fst_zip (by simp [mutableLength])]
    exact key_not_mem_mutable formed
  · have inMutable : (field.column, cell) ∈
        ((mutableFields derived.fields).map DerivedField.column).zip
          (cells.eraseIdx index) := by
      rw [columnPairs]
      exact List.mem_map.mpr ⟨(field, cell), List.mem_filter.mpr ⟨inPairs, by simp [isKey]⟩,
        rfl⟩
    simp only [Prod.map_apply, id_eq]
    rw [lookup_of_mem columnsNodup inMutable, Option.getD_some]

omit [Scalar Cell] in
/-- Every field but the key is written by an update. -/
theorem length_mutableFields (formed : derived.WellFormed host) :
    (mutableFields derived.fields).length + 1 = derived.fields.length := by
  have split := List.length_eq_countP_add_countP DerivedField.primaryKey
    (l := derived.fields)
  have keys : derived.fields.countP DerivedField.primaryKey = 1 := by
    rw [List.countP_eq_length_filter, formed.primary_key]
    rfl
  have others : (mutableFields derived.fields).length =
      derived.fields.countP fun field => decide ¬ field.primaryKey = true := by
    unfold mutableFields
    rw [List.countP_eq_length_filter]
    congr 1
    apply List.filter_congr
    intro field member
    simp
  omega

end Rows

/-! ## The values that an update passes -/

namespace Crud

variable {V Cell : Type} {crud : Crud V Cell} {host : MacroHost}

theorem cells_length {record : Record crud.derived V} {cells : List Cell}
    (encoded : record.cells crud.codec = .ok cells) :
    cells.length = crud.derived.fields.length :=
  encodeValues_length record.length_eq encoded

/-- The cell at the position of the key encodes the key of the record. -/
theorem key_cell (formed : crud.derived.WellFormed host)
    {record : Record crud.derived V} {key : V} {cells : List Cell}
    (isKey : record.key = some key) (encoded : record.cells crud.codec = .ok cells) :
    ∃ index keyCell, primaryKeyIndex crud.derived.schema = some index ∧
      crud.derived.fields[index]? = some crud.derived.primaryKey ∧
      cells[index]? = some keyCell ∧
      (crud.codec crud.derived.primaryKey).toValue key = .ok keyCell := by
  obtain ⟨index, found, atField⟩ := primaryKeyIndex_spec formed
  have atValue : record.values[index]? = some key := by
    simpa [Record.key, found] using isKey
  obtain ⟨keyCell, atCell, keyEncoded⟩ := encodeValues_getElem encoded atField atValue
  exact ⟨index, keyCell, found, atField, atCell, keyEncoded⟩

theorem updateValues_ok {record : Record crud.derived V} {cells passed : List Cell}
    {index : Nat} {keyCell : Cell} (encoded : record.cells crud.codec = .ok cells)
    (found : primaryKeyIndex crud.derived.schema = some index)
    (atCell : cells[index]? = some keyCell)
    (ok : updateValues crud.codec record = .ok passed) :
    passed = cells.eraseIdx index ++ [keyCell] := by
  simp only [updateValues, encoded, ok_bind, found, atCell, Except.ok.injEq] at ok
  exact ok.symm

/-- An update passes one value for every field. -/
theorem updateValues_length (formed : crud.derived.WellFormed host)
    {record : Record crud.derived V} {passed : List Cell}
    (ok : updateValues crud.codec record = .ok passed) :
    passed.length = crud.derived.fields.length := by
  obtain ⟨cells, encoded, -⟩ := bind_eq_ok_iff.mp ok
  obtain ⟨index, found, atField⟩ := primaryKeyIndex_spec formed
  have sameLength := cells_length encoded
  have inRange : index < cells.length := by
    rw [sameLength]
    exact (List.getElem?_eq_some_iff.mp atField).1
  rw [updateValues_ok encoded found (List.getElem?_eq_getElem inRange) ok,
    List.length_append, List.length_eraseIdx_of_lt inRange, List.length_singleton]
  omega

end Crud

end Csgdb
