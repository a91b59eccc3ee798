/-
Module: Csgdb.Derive.Accepted
Purpose: What an accepted declaration looks like after expansion, and that the
  runtime check accepts every schema the derive generates.
Trusted boundary: none
Main exports: DerivedCollection.WellFormed, expandCollection_wellFormed,
  DerivedCollection.WellFormed.schema_wellFormed
-/
import Csgdb.Derive.Expand

namespace Csgdb.Derive

open Foundation

/-- One derived field passes on its own. -/
structure DerivedField.WellFormed (field : DerivedField) : Prop where
  id_valid : validName field.id = true
  column_valid : validName field.column = true
  key_required : field.primaryKey = true → field.nullable = false

/-- One derived index fits the fields of its collection. -/
structure DerivedIndex.WellFormed (host : MacroHost) (collection table : String)
    (fields : List DerivedField) (index : DerivedIndex) : Prop where
  id_valid : validName index.id = true
  name_valid : validName index.name = true
  name_unreserved : hasReservedPrefix index.name = false
  columns_ne_nil : index.columns ≠ []
  columns_nodup : index.columns.Nodup
  columns_declared : ∀ column ∈ index.columns, column ∈ fields.map DerivedField.column
  canonical_eq : ∃ fieldIds : List String, fieldIds.length = index.columns.length ∧
    index.canonical = canonicalIndex collection table index.id index.name index.unique
      fieldIds index.columns
  fingerprint_eq : index.fingerprint = host.sha256 index.canonical

/-- The checks of the derive, as facts about what it generates. -/
structure DerivedCollection.WellFormed (host : MacroHost)
    (derived : DerivedCollection) : Prop where
  collection_valid : validName derived.collection = true
  table_valid : validName derived.table = true
  table_unreserved : hasReservedPrefix derived.table = false
  version_ne_zero : derived.version ≠ 0
  field_wellFormed : ∀ field ∈ derived.fields, field.WellFormed
  ids_nodup : (derived.fields.map DerivedField.id).Nodup
  columns_nodup : (derived.fields.map DerivedField.column).Nodup
  primary_key : derived.fields.filter DerivedField.primaryKey = [derived.primaryKey]
  index_wellFormed : ∀ index ∈ derived.indexes,
    index.WellFormed host derived.collection derived.table derived.fields
  index_ids_nodup : (derived.indexes.map DerivedIndex.id).Nodup
  index_names_nodup : (derived.indexes.map DerivedIndex.name).Nodup
  canonical_eq : derived.canonical =
    canonicalSchema derived.collection derived.table derived.version derived.fields
  fingerprint_eq : derived.fingerprint = host.sha256 derived.canonical

/-! ## Fields -/

theorem deriveField_ok {field : FieldInput} {ids columns : List String}
    {derived : DerivedField} (ok : deriveField field ids columns = .ok derived) :
    derived.WellFormed ∧ derived.id ∉ ids ∧ derived.column ∉ columns := by
  simp only [deriveField, bind_eq_ok_iff] at ok
  obtain ⟨attributes, -, id, -, column, -, ⟨⟩, idValid, ⟨⟩, columnValid, checked⟩ := ok
  obtain ⟨idNew, checked⟩ := ite_error_eq_ok_iff.mp checked
  obtain ⟨columnNew, checked⟩ := ite_error_eq_ok_iff.mp checked
  obtain ⟨⟨storage, nullable⟩, -, checked⟩ := bind_eq_ok_iff.mp checked
  obtain ⟨keyRequired, same⟩ := ite_error_eq_ok_iff.mp checked
  obtain rfl := Except.ok.inj same
  refine ⟨⟨validateStableName_ok_iff.mp idValid,
    (validateSqlName_ok_iff.mp columnValid).1, ?_⟩, by simpa using idNew,
    by simpa using columnNew⟩
  simpa using keyRequired

theorem deriveFields_ok :
    ∀ {named : List FieldInput} {ids columns : List String} {fields : List DerivedField},
      deriveFields named ids columns = .ok fields →
        (∀ field ∈ fields, field.WellFormed ∧ field.id ∉ ids ∧ field.column ∉ columns) ∧
          (fields.map DerivedField.id).Nodup ∧ (fields.map DerivedField.column).Nodup
  | [], ids, columns, fields, ok => by
      obtain rfl := Except.ok.inj ok
      simp
  | field :: rest, ids, columns, fields, ok => by
      simp only [deriveFields, bind_eq_ok_iff] at ok
      obtain ⟨derived, one, others, more, same⟩ := ok
      obtain rfl := Except.ok.inj same
      obtain ⟨formed, idNew, columnNew⟩ := deriveField_ok one
      obtain ⟨othersFormed, idsNodup, columnsNodup⟩ := deriveFields_ok more
      simp only [List.mem_cons, not_or] at othersFormed
      refine ⟨?_, ?_, ?_⟩
      · intro other member
        rcases List.mem_cons.mp member with rfl | inOthers
        · exact ⟨formed, idNew, columnNew⟩
        · obtain ⟨otherFormed, ⟨-, otherId⟩, -, otherColumn⟩ := othersFormed other inOthers
          exact ⟨otherFormed, otherId, otherColumn⟩
      · rw [List.map_cons, List.nodup_cons]
        refine ⟨?_, idsNodup⟩
        rintro member
        obtain ⟨other, inOthers, sameId⟩ := List.mem_map.mp member
        exact (othersFormed other inOthers).2.1.1 sameId
      · rw [List.map_cons, List.nodup_cons]
        refine ⟨?_, columnsNodup⟩
        rintro member
        obtain ⟨other, inOthers, sameColumn⟩ := List.mem_map.mp member
        exact (othersFormed other inOthers).2.2.1 sameColumn

/-! ## Indexes -/

/-- The pairs of an index name different declared fields, in order. -/
theorem deriveIndexFields_ok {fields : List DerivedField} :
    ∀ {fieldIds seen : List String} {pairs : List (String × String)},
      deriveIndexFields fields fieldIds seen = .ok pairs →
        pairs.map Prod.fst = fieldIds ∧ fieldIds.Nodup ∧
          (∀ fieldId ∈ fieldIds, fieldId ∉ seen) ∧
          ∀ pair ∈ pairs, ∃ field ∈ fields, field.id = pair.1 ∧ field.column = pair.2
  | [], seen, pairs, ok => by
      obtain rfl := Except.ok.inj ok
      simp
  | fieldId :: rest, seen, pairs, ok => by
      rw [deriveIndexFields, ite_error_eq_ok_iff] at ok
      obtain ⟨new, found⟩ := ok
      cases search : fields.find? fun field => field.id == fieldId with
      | none => simp [search] at found
      | some field =>
          simp only [search, bind_eq_ok_iff] at found
          obtain ⟨others, more, same⟩ := found
          obtain rfl := Except.ok.inj same
          obtain ⟨firsts, nodup, unseen, declared⟩ := deriveIndexFields_ok more
          simp only [List.mem_cons, not_or] at unseen
          have sameId : field.id = fieldId := by
            simpa using List.find?_some search
          refine ⟨by simp [firsts], ?_, ?_, ?_⟩
          · rw [List.nodup_cons]
            exact ⟨fun member => (unseen fieldId member).1 rfl, nodup⟩
          · intro other member
            rcases List.mem_cons.mp member with rfl | inRest
            · simpa using new
            · exact (unseen other inRest).2
          · intro pair member
            rcases List.mem_cons.mp member with rfl | inOthers
            · exact ⟨field, List.mem_of_find?_eq_some search, sameId, rfl⟩
            · exact declared pair inOthers

/-- Different declared fields have different columns. -/
theorem deriveIndexFields_columns_nodup {fields : List DerivedField}
    (columnsNodup : (fields.map DerivedField.column).Nodup)
    {pairs : List (String × String)} (firstsNodup : (pairs.map Prod.fst).Nodup)
    (declared : ∀ pair ∈ pairs, ∃ field ∈ fields,
      field.id = pair.1 ∧ field.column = pair.2) :
    (pairs.map Prod.snd).Nodup := by
  have pairsNodup := List.Nodup.of_map Prod.fst firstsNodup
  refine List.Nodup.map_on ?_ pairsNodup
  intro left leftMember right rightMember sameColumn
  obtain ⟨leftField, leftIn, leftId, leftColumn⟩ := declared left leftMember
  obtain ⟨rightField, rightIn, rightId, rightColumn⟩ := declared right rightMember
  have sameField : leftField = rightField :=
    List.inj_on_of_nodup_map columnsNodup leftIn rightIn
      (leftColumn.trans (sameColumn.trans rightColumn.symm))
  exact Prod.ext (by rw [← leftId, ← rightId, sameField]) sameColumn

theorem deriveIndex_ok {host : MacroHost} {collection table : String}
    {fields : List DerivedField} {attributes : IndexAttributes}
    {ids names : List String} {index : DerivedIndex}
    (columnsNodup : (fields.map DerivedField.column).Nodup)
    (ok : deriveIndex host collection table fields attributes ids names = .ok index) :
    index.WellFormed host collection table fields ∧
      index.id ∉ ids ∧ index.name ∉ names := by
  simp only [deriveIndex, bind_eq_ok_iff] at ok
  obtain ⟨id, -, name, -, ⟨⟩, idValid, ⟨⟩, nameValid, checked⟩ := ok
  obtain ⟨unreserved, checked⟩ := ite_error_eq_ok_iff.mp checked
  obtain ⟨idNew, checked⟩ := ite_error_eq_ok_iff.mp checked
  obtain ⟨nameNew, checked⟩ := ite_error_eq_ok_iff.mp checked
  obtain ⟨fieldsNe, checked⟩ := ite_error_eq_ok_iff.mp checked
  obtain ⟨pairs, read, same⟩ := bind_eq_ok_iff.mp checked
  obtain rfl := Except.ok.inj same
  obtain ⟨firsts, nodup, -, declared⟩ := deriveIndexFields_ok read
  refine ⟨?_, by simpa using idNew, by simpa using nameNew⟩
  exact
    { id_valid := validateStableName_ok_iff.mp idValid
      name_valid := (validateSqlName_ok_iff.mp nameValid).1
      name_unreserved := by simpa using unreserved
      columns_ne_nil := by
        rintro empty
        rw [List.map_eq_nil_iff] at empty
        rw [empty, List.map_nil] at firsts
        simp [← firsts] at fieldsNe
      columns_nodup := deriveIndexFields_columns_nodup columnsNodup
        (by rwa [firsts]) declared
      columns_declared := by
        intro column member
        obtain ⟨pair, inPairs, rfl⟩ := List.mem_map.mp member
        obtain ⟨field, inFields, -, sameColumn⟩ := declared pair inPairs
        exact List.mem_map.mpr ⟨field, inFields, sameColumn⟩
      canonical_eq := ⟨pairs.map Prod.fst, by simp, rfl⟩
      fingerprint_eq := rfl }

theorem deriveIndexes_ok {host : MacroHost} {collection table : String}
    {fields : List DerivedField}
    (columnsNodup : (fields.map DerivedField.column).Nodup) :
    ∀ {attributes : List IndexAttributes} {ids names : List String}
      {indexes : List DerivedIndex},
      deriveIndexes host collection table fields attributes ids names = .ok indexes →
        (∀ index ∈ indexes, index.WellFormed host collection table fields ∧
          index.id ∉ ids ∧ index.name ∉ names) ∧
          (indexes.map DerivedIndex.id).Nodup ∧ (indexes.map DerivedIndex.name).Nodup
  | [], ids, names, indexes, ok => by
      obtain rfl := Except.ok.inj ok
      simp
  | attributes :: rest, ids, names, indexes, ok => by
      simp only [deriveIndexes, bind_eq_ok_iff] at ok
      obtain ⟨index, one, others, more, same⟩ := ok
      obtain rfl := Except.ok.inj same
      obtain ⟨formed, idNew, nameNew⟩ := deriveIndex_ok columnsNodup one
      obtain ⟨othersFormed, idsNodup, namesNodup⟩ := deriveIndexes_ok columnsNodup more
      simp only [List.mem_cons, not_or] at othersFormed
      refine ⟨?_, ?_, ?_⟩
      · intro other member
        rcases List.mem_cons.mp member with rfl | inOthers
        · exact ⟨formed, idNew, nameNew⟩
        · obtain ⟨otherFormed, ⟨-, otherId⟩, -, otherName⟩ := othersFormed other inOthers
          exact ⟨otherFormed, otherId, otherName⟩
      · rw [List.map_cons, List.nodup_cons]
        refine ⟨?_, idsNodup⟩
        rintro member
        obtain ⟨other, inOthers, sameId⟩ := List.mem_map.mp member
        exact (othersFormed other inOthers).2.1.1 sameId
      · rw [List.map_cons, List.nodup_cons]
        refine ⟨?_, namesNodup⟩
        rintro member
        obtain ⟨other, inOthers, sameName⟩ := List.mem_map.mp member
        exact (othersFormed other inOthers).2.2.1 sameName

/-! ## Declarations -/

theorem uniquePrimaryKey_ok {fields : List DerivedField} {primaryKey : DerivedField}
    (ok : uniquePrimaryKey fields = .ok primaryKey) :
    fields.filter DerivedField.primaryKey = [primaryKey] := by
  unfold uniquePrimaryKey at ok
  split at ok
  case h_1 key only =>
    obtain rfl := Except.ok.inj ok
    exact only
  case h_2 => cases ok

/-- Everything the derive generates satisfies what it checked. -/
theorem expandCollection_wellFormed {host : MacroHost} {input : DeriveInput}
    {derived : DerivedCollection} (ok : expandCollection host input = .ok derived) :
    derived.WellFormed host := by
  rw [expandCollection, ite_error_eq_ok_iff] at ok
  simp only [bind_eq_ok_iff] at ok
  obtain ⟨-, attributes, -, collection, -, table, -, version, -, ⟨⟩, collectionValid,
    ⟨⟩, tableValid, checked⟩ := ok
  obtain ⟨versionNe, checked⟩ := ite_error_eq_ok_iff.mp checked
  simp only [bind_eq_ok_iff] at checked
  obtain ⟨named, -, fields, derivedFields, primaryKey, key, indexes, derivedIndexes,
    ⟨⟩, -, ⟨⟩, -, same⟩ := checked
  obtain rfl := Except.ok.inj same
  obtain ⟨fieldsFormed, idsNodup, columnsNodup⟩ := deriveFields_ok derivedFields
  obtain ⟨indexesFormed, indexIds, indexNames⟩ :=
    deriveIndexes_ok columnsNodup derivedIndexes
  exact
    { collection_valid := validateStableName_ok_iff.mp collectionValid
      table_valid := (validateSqlName_ok_iff.mp tableValid).1
      table_unreserved := (validateSqlName_ok_iff.mp tableValid).2 rfl
      version_ne_zero := by simpa using versionNe
      field_wellFormed := fun field member => (fieldsFormed field member).1
      ids_nodup := idsNodup
      columns_nodup := columnsNodup
      primary_key := uniquePrimaryKey_ok key
      index_wellFormed := fun index member => (indexesFormed index member).1
      index_ids_nodup := indexIds
      index_names_nodup := indexNames
      canonical_eq := rfl
      fingerprint_eq := rfl }

/-! ## The runtime check accepts what the derive generates -/

/-- `validate_collection_schema` accepts every schema the derive generates. -/
theorem DerivedCollection.WellFormed.schema_wellFormed {host : MacroHost}
    {derived : DerivedCollection} (formed : derived.WellFormed host) :
    derived.schema.WellFormed where
  id_valid := formed.collection_valid
  table_valid := formed.table_valid
  table_unreserved := formed.table_unreserved
  version_ne_zero := formed.version_ne_zero
  descriptor_ne_empty := by
    have same : derived.schema.canonicalDescriptor = derived.canonical := rfl
    rw [same, formed.canonical_eq, Bool.eq_false_iff, ne_eq, String.isEmpty_iff]
    unfold canonicalSchema
    simp only [String.append_eq_empty_iff]
    simp
  field_wellFormed := by
    intro field member
    obtain ⟨derivedField, inFields, rfl⟩ := List.mem_map.mp member
    have fieldFormed := formed.field_wellFormed derivedField inFields
    exact ⟨fieldFormed.id_valid, fieldFormed.column_valid, fieldFormed.key_required⟩
  ids_nodup := by
    simpa [DerivedCollection.schema, DerivedField.schema, Function.comp_def] using
      formed.ids_nodup
  columns_nodup := by
    simpa [DerivedCollection.schema, DerivedField.schema, Function.comp_def] using
      formed.columns_nodup
  one_primary_key := by
    have counted := congrArg List.length formed.primary_key
    rw [← List.countP_eq_length_filter, List.length_singleton] at counted
    simpa [DerivedCollection.schema, List.countP_map, Function.comp_def,
      DerivedField.schema] using counted
  index_wellFormed := by
    intro index member
    obtain ⟨derivedIndex, inIndexes, rfl⟩ := List.mem_map.mp member
    have indexFormed := formed.index_wellFormed derivedIndex inIndexes
    exact
      { id_valid := indexFormed.id_valid
        name_valid := indexFormed.name_valid
        name_unreserved := indexFormed.name_unreserved
        columns_ne_nil := indexFormed.columns_ne_nil
        descriptor_ne_empty := by
          obtain ⟨fieldIds, -, canonical⟩ := indexFormed.canonical_eq
          have same : (DerivedCollection.indexSchema derivedIndex).canonicalDescriptor =
            derivedIndex.canonical := rfl
          rw [same, canonical, Bool.eq_false_iff, ne_eq, String.isEmpty_iff]
          unfold canonicalIndex
          simp only [String.append_eq_empty_iff]
          simp
        columns_nodup := indexFormed.columns_nodup
        columns_declared := by
          intro column inColumns
          simpa [DerivedCollection.schema, DerivedField.schema, Function.comp_def] using
            indexFormed.columns_declared column inColumns }
  index_ids_nodup := by
    simpa [DerivedCollection.schema, DerivedCollection.indexSchema, Function.comp_def]
      using formed.index_ids_nodup
  index_names_nodup := by
    simpa [DerivedCollection.schema, DerivedCollection.indexSchema, Function.comp_def]
      using formed.index_names_nodup

end Csgdb.Derive
