/-
Module: Csgdb.Proofs.DescriptorIdentity
Purpose: The canonical descriptors determine the format they describe, and
  nothing else.
Trusted boundary: none
Main exports: canonicalSchema_eq_iff, canonicalIndex_eq_iff,
  canonicalSchema_ne_canonicalIndex, canonical_descriptors_identify_formats
-/
import Csgdb.Derive.Declaration
import Csgdb.Foundation.PrefixCode
import Mathlib.Data.List.Perm.Basic
import Mathlib.Data.List.Sort

namespace Csgdb.Derive

open Foundation

/-!
Both descriptors are concatenations of parts that announce their own length,
so each part is a prefix code and the whole text is read back from the left.
Names may hold colons, newlines, digits or whole descriptor lines: the byte
length in front of them is what ends them.
-/

/-- The byte length of a string is the byte length of its characters. -/
theorem utf8ByteSize_eq_byteLength (text : String) :
    text.utf8ByteSize = byteLength text.toList := by
  have ofChars : ∀ chars : List Char,
      String.utf8Len chars = byteLength chars := by
    intro chars
    induction chars with
    | nil => rfl
    | cons char chars inductionHypothesis =>
        rw [String.utf8Len_cons, inductionHypothesis, byteLength_cons, Nat.add_comm]
  rw [← ofChars, ← String.utf8ByteSize_ofList, String.ofList_toList]

theorem lengthPrefixed_toList (text : String) :
    (lengthPrefixed text).toList =
      Nat.toDigits 10 (byteLength text.toList) ++ [':'] ++ text.toList := by
  simp [lengthPrefixed, utf8ByteSize_eq_byteLength]

/-- A length-prefixed name ends where its length says. -/
theorem lengthPrefixed_prefixCode :
    PrefixCode (fun text : String => (lengthPrefixed text).toList) := by
  have injective : Function.Injective String.toList :=
    fun _ _ same => String.toList_inj.mp same
  have code := ((@PrefixCode.lengthPrefixed ':') rfl).comp injective
  simpa only [lengthPrefixed_toList] using code

/-- Reading a name off two equal texts that both start with a fixed part. -/
theorem eq_of_literal_lengthPrefixed_append {literal : List Char}
    {first second : String} {restFirst restSecond : List Char}
    (same : literal ++ ((lengthPrefixed first).toList ++ restFirst) =
      literal ++ ((lengthPrefixed second).toList ++ restSecond)) :
    first = second ∧ restFirst = restSecond :=
  lengthPrefixed_prefixCode (List.append_cancel_left same)

/-- Reading a line that holds one decimal number. -/
theorem eq_of_literal_decimal_append {literal : List Char} {first second : Nat}
    {restFirst restSecond : List Char}
    (same : literal ++ (Nat.toDigits 10 first ++ ("\n".toList ++ restFirst)) =
      literal ++ (Nat.toDigits 10 second ++ ("\n".toList ++ restSecond))) :
    first = second ∧ restFirst = restSecond := by
  have newline : "\n".toList = ['\n'] := by decide
  have sameTail := List.append_cancel_left same
  rw [newline, ← List.append_assoc, ← List.append_assoc] at sameTail
  exact (@PrefixCode.decimal '\n') rfl sameTail

/-- Storage classes are told apart by their names. -/
theorem storageName_prefixCode :
    PrefixCode (fun storage : ColumnType => (storageName storage).toList) := by
  intro first second restFirst restSecond same
  cases first <;> cases second <;> simp [storageName] at same ⊢ <;> exact same

theorem flagDigit_prefixCode :
    PrefixCode (fun flag : Bool => (flagDigit flag).toList) := by
  intro first second restFirst restSecond same
  cases first <;> cases second <;> simp [flagDigit] at same ⊢ <;> exact same

/-- The line of a field depends on its persisted part only. -/
def schemaLine (field : FieldSchema) : List Char :=
  "field:".toList ++ (lengthPrefixed field.id).toList ++ ":".toList ++
    (lengthPrefixed field.column).toList ++ ":".toList ++
    (storageName field.columnType).toList ++ ":".toList ++
    (flagDigit field.nullable).toList ++ ":".toList ++
    (flagDigit field.primaryKey).toList ++ "\n".toList

theorem canonicalSchemaField_toList (field : DerivedField) :
    (canonicalSchemaField field).toList = schemaLine field.schema := by
  unfold canonicalSchemaField schemaLine DerivedField.schema
  simp only [String.toList_append]

theorem schemaLine_ne_nil (field : FieldSchema) : schemaLine field ≠ [] :=
  List.append_ne_nil_of_right_ne_nil _ (by decide)

theorem schemaLine_prefixCode : PrefixCode schemaLine := by
  intro first second restFirst restSecond same
  unfold schemaLine at same
  simp only [List.append_assoc] at same
  obtain ⟨sameId, afterId⟩ :=
    eq_of_literal_lengthPrefixed_append same
  obtain ⟨sameColumn, afterColumn⟩ :=
    eq_of_literal_lengthPrefixed_append afterId
  obtain ⟨sameType, afterType⟩ :=
    storageName_prefixCode (List.append_cancel_left afterColumn)
  obtain ⟨sameNullable, afterNullable⟩ :=
    flagDigit_prefixCode (List.append_cancel_left afterType)
  obtain ⟨samePrimary, afterPrimary⟩ :=
    flagDigit_prefixCode (List.append_cancel_left afterNullable)
  refine ⟨?_, List.append_cancel_left afterPrimary⟩
  cases first
  cases second
  simp_all

/-! ## Schemas -/

/-- The persisted fields in the order of the descriptor. -/
def sortedSchemas (fields : List DerivedField) : List FieldSchema :=
  (fields.mergeSort idLe).map DerivedField.schema

theorem sortedSchemas_perm (fields : List DerivedField) :
    (sortedSchemas fields).Perm (fields.map DerivedField.schema) :=
  (List.mergeSort_perm fields idLe).map _

theorem sortedSchemas_pairwise (fields : List DerivedField) :
    (sortedSchemas fields).Pairwise (fun left right => left.id ≤ right.id) := by
  rw [sortedSchemas, List.pairwise_map]
  have sorted : (fields.mergeSort idLe).Pairwise
      (fun left right => idLe left right = true) := by
    apply List.pairwise_mergeSort
    · intro first second third one two
      simp only [idLe, decide_eq_true_eq] at one two ⊢
      exact le_trans one two
    · intro first second
      simpa [idLe] using le_total first.id second.id
  exact sorted.imp (fun ordered => by simpa [idLe, DerivedField.schema] using ordered)

/-- With distinct ids the sorted list is a function of the set of fields. -/
theorem sortedSchemas_eq_iff {first second : List DerivedField}
    (firstIds : (first.map DerivedField.id).Nodup)
    (secondIds : (second.map DerivedField.id).Nodup) :
    sortedSchemas first = sortedSchemas second ↔
      ∀ field, field ∈ first.map DerivedField.schema ↔
        field ∈ second.map DerivedField.schema := by
  have idsOf : ∀ fields : List DerivedField,
      (fields.map DerivedField.schema).map FieldSchema.id =
        fields.map DerivedField.id := by
    intro fields
    simp [DerivedField.schema, Function.comp_def]
  constructor
  · intro same field
    rw [← (sortedSchemas_perm first).mem_iff, same, (sortedSchemas_perm second).mem_iff]
  · intro sameFields
    have firstNodup : (first.map DerivedField.schema).Nodup :=
      List.Nodup.of_map FieldSchema.id (by rwa [idsOf])
    have secondNodup : (second.map DerivedField.schema).Nodup :=
      List.Nodup.of_map FieldSchema.id (by rwa [idsOf])
    have perm : (first.map DerivedField.schema).Perm
        (second.map DerivedField.schema) :=
      (List.perm_ext_iff_of_nodup firstNodup secondNodup).mpr sameFields
    apply (@List.Perm.eq_of_pairwise _ (fun left right => left.id ≤ right.id)) ?_
      (sortedSchemas_pairwise first) (sortedSchemas_pairwise second)
      ((sortedSchemas_perm first).trans (perm.trans (sortedSchemas_perm second).symm))
    intro left right leftMember rightMember below above
    have leftIn : left ∈ second.map DerivedField.schema :=
      perm.mem_iff.mp ((sortedSchemas_perm first).mem_iff.mp leftMember)
    have rightIn := (sortedSchemas_perm second).mem_iff.mp rightMember
    exact List.inj_on_of_nodup_map (by rwa [idsOf]) leftIn rightIn
      (le_antisymm below above)

/-- The header and the lines of a schema descriptor. -/
theorem canonicalSchema_toList (collection table : String) (version : UInt32)
    (fields : List DerivedField) :
    (canonicalSchema collection table version fields).toList =
      "csgdb-schema-v1\ncollection:".toList ++ (lengthPrefixed collection).toList ++
        "\ntable:".toList ++ (lengthPrefixed table).toList ++
        "\nversion:".toList ++ Nat.toDigits 10 version.toNat ++ "\n".toList ++
        (sortedSchemas fields).flatMap schemaLine := by
  unfold canonicalSchema sortedSchemas
  simp only [String.toList_append, Nat.toList_repr, String.toList_join,
    List.flatMap_map, canonicalSchemaField_toList]

/-- Schema descriptors agree exactly when the persisted formats do. -/
theorem canonicalSchema_eq_iff {collection table otherCollection otherTable : String}
    {version otherVersion : UInt32} {fields otherFields : List DerivedField}
    (ids : (fields.map DerivedField.id).Nodup)
    (otherIds : (otherFields.map DerivedField.id).Nodup) :
    canonicalSchema collection table version fields =
        canonicalSchema otherCollection otherTable otherVersion otherFields ↔
      collection = otherCollection ∧ table = otherTable ∧ version = otherVersion ∧
        ∀ field, field ∈ fields.map DerivedField.schema ↔
          field ∈ otherFields.map DerivedField.schema := by
  rw [← sortedSchemas_eq_iff ids otherIds]
  constructor
  · intro same
    have sameText := congrArg String.toList same
    simp only [canonicalSchema_toList, List.append_assoc] at sameText
    obtain ⟨sameCollection, afterCollection⟩ :=
      eq_of_literal_lengthPrefixed_append sameText
    obtain ⟨sameTable, afterTable⟩ :=
      eq_of_literal_lengthPrefixed_append afterCollection
    obtain ⟨sameVersion, sameLines⟩ := eq_of_literal_decimal_append afterTable
    exact ⟨sameCollection, sameTable, UInt32.toNat_inj.mp sameVersion,
      schemaLine_prefixCode.flatMap_injective schemaLine_ne_nil sameLines⟩
  · rintro ⟨rfl, rfl, rfl, sameFields⟩
    apply String.toList_inj.mp
    rw [canonicalSchema_toList, canonicalSchema_toList, sameFields]

/-! ## Indexes -/

def indexLine (pair : String × String) : List Char :=
  "field:".toList ++ (lengthPrefixed pair.1).toList ++ ":".toList ++
    (lengthPrefixed pair.2).toList ++ "\n".toList

theorem canonicalIndexField_toList (pair : String × String) :
    (canonicalIndexField pair).toList = indexLine pair := by
  unfold canonicalIndexField indexLine
  simp only [String.toList_append]

theorem indexLine_ne_nil (pair : String × String) : indexLine pair ≠ [] :=
  List.append_ne_nil_of_right_ne_nil _ (by decide)

theorem indexLine_prefixCode : PrefixCode indexLine := by
  intro first second restFirst restSecond same
  unfold indexLine at same
  simp only [List.append_assoc] at same
  obtain ⟨sameField, afterField⟩ :=
    eq_of_literal_lengthPrefixed_append same
  obtain ⟨sameColumn, afterColumn⟩ :=
    eq_of_literal_lengthPrefixed_append afterField
  exact ⟨Prod.ext sameField sameColumn, List.append_cancel_left afterColumn⟩

theorem canonicalIndex_toList (collection table id name : String) (unique : Bool)
    (fieldIds columns : List String) :
    (canonicalIndex collection table id name unique fieldIds columns).toList =
      "csgdb-index-v1\ncollection:".toList ++ (lengthPrefixed collection).toList ++
        "\ntable:".toList ++ (lengthPrefixed table).toList ++
        "\nindex:".toList ++ (lengthPrefixed id).toList ++
        "\nname:".toList ++ (lengthPrefixed name).toList ++
        "\nunique:".toList ++ (flagDigit unique).toList ++ "\n".toList ++
        (fieldIds.zip columns).flatMap indexLine := by
  unfold canonicalIndex
  simp only [String.toList_append, String.toList_join, List.flatMap_map,
    canonicalIndexField_toList]

/-- Index descriptors agree exactly when the declared indexes do; the order of
the field and column pairs counts. -/
theorem canonicalIndex_eq_iff
    {collection table id name otherCollection otherTable otherId otherName : String}
    {unique otherUnique : Bool}
    {fieldIds columns otherFieldIds otherColumns : List String} :
    canonicalIndex collection table id name unique fieldIds columns =
        canonicalIndex otherCollection otherTable otherId otherName otherUnique
          otherFieldIds otherColumns ↔
      collection = otherCollection ∧ table = otherTable ∧ id = otherId ∧
        name = otherName ∧ unique = otherUnique ∧
        fieldIds.zip columns = otherFieldIds.zip otherColumns := by
  constructor
  · intro same
    have sameText := congrArg String.toList same
    simp only [canonicalIndex_toList, List.append_assoc] at sameText
    obtain ⟨sameCollection, afterCollection⟩ :=
      eq_of_literal_lengthPrefixed_append sameText
    obtain ⟨sameTable, afterTable⟩ :=
      eq_of_literal_lengthPrefixed_append afterCollection
    obtain ⟨sameId, afterId⟩ :=
      eq_of_literal_lengthPrefixed_append afterTable
    obtain ⟨sameName, afterName⟩ :=
      eq_of_literal_lengthPrefixed_append afterId
    obtain ⟨sameUnique, afterUnique⟩ :=
      flagDigit_prefixCode (List.append_cancel_left afterName)
    exact ⟨sameCollection, sameTable, sameId, sameName, sameUnique,
      indexLine_prefixCode.flatMap_injective indexLine_ne_nil
        (List.append_cancel_left afterUnique)⟩
  · rintro ⟨rfl, rfl, rfl, rfl, rfl, samePairs⟩
    apply String.toList_inj.mp
    rw [canonicalIndex_toList, canonicalIndex_toList, samePairs]

/-- The version marks keep the two kinds of descriptor apart. -/
theorem canonicalSchema_ne_canonicalIndex (collection table : String)
    (version : UInt32) (fields : List DerivedField)
    (otherCollection otherTable id name : String) (unique : Bool)
    (fieldIds columns : List String) :
    canonicalSchema collection table version fields ≠
      canonicalIndex otherCollection otherTable id name unique fieldIds columns := by
  intro same
  have sameText := congrArg String.toList same
  simp only [canonicalSchema_toList, canonicalIndex_toList, List.append_assoc]
    at sameText
  exact (@append_ne_append_of_take_ne _ _ 7) (by decide) (by decide) (by decide)
    _ _ sameText

/-! ## Identity of formats -/

/-- Equal descriptors mean equal formats.  Two schema descriptors agree exactly
when collection, table, version and the set of persisted fields agree, so any
permutation of the fields keeps the descriptor; two index descriptors agree
exactly when the declared indexes do; and the two kinds never meet. -/
theorem canonical_descriptors_identify_formats :
    (∀ (collection table otherCollection otherTable : String)
        (version otherVersion : UInt32) (fields otherFields : List DerivedField),
      (fields.map DerivedField.id).Nodup → (otherFields.map DerivedField.id).Nodup →
        (canonicalSchema collection table version fields =
            canonicalSchema otherCollection otherTable otherVersion otherFields ↔
          collection = otherCollection ∧ table = otherTable ∧
            version = otherVersion ∧
            ∀ field, field ∈ fields.map DerivedField.schema ↔
              field ∈ otherFields.map DerivedField.schema)) ∧
    (∀ (collection table : String) (version : UInt32)
        (fields permuted : List DerivedField),
      (fields.map DerivedField.id).Nodup → fields.Perm permuted →
        canonicalSchema collection table version fields =
          canonicalSchema collection table version permuted) ∧
    (∀ (collection table id name otherCollection otherTable otherId otherName : String)
        (unique otherUnique : Bool)
        (fieldIds columns otherFieldIds otherColumns : List String),
      canonicalIndex collection table id name unique fieldIds columns =
          canonicalIndex otherCollection otherTable otherId otherName otherUnique
            otherFieldIds otherColumns ↔
        collection = otherCollection ∧ table = otherTable ∧ id = otherId ∧
          name = otherName ∧ unique = otherUnique ∧
          fieldIds.zip columns = otherFieldIds.zip otherColumns) ∧
    (∀ (collection table : String) (version : UInt32) (fields : List DerivedField)
        (otherCollection otherTable id name : String) (unique : Bool)
        (fieldIds columns : List String),
      canonicalSchema collection table version fields ≠
        canonicalIndex otherCollection otherTable id name unique fieldIds columns) := by
  refine ⟨?_, ?_, ?_, ?_⟩
  · intro _ _ _ _ _ _ _ _ ids otherIds
    exact canonicalSchema_eq_iff ids otherIds
  · intro _ _ _ fields permuted ids permutation
    have permutedIds : (permuted.map DerivedField.id).Nodup :=
      (permutation.map _).nodup_iff.mp ids
    exact (canonicalSchema_eq_iff ids permutedIds).mpr
      ⟨rfl, rfl, rfl, fun field => (permutation.map _).mem_iff⟩
  · intro _ _ _ _ _ _ _ _ _ _ _ _ _ _
    exact canonicalIndex_eq_iff
  · intro _ _ _ _ _ _ _ _ _ _ _
    exact canonicalSchema_ne_canonicalIndex _ _ _ _ _ _ _ _ _ _ _

/-- A key field, and a text field whose column imitates a descriptor line. -/
def imitatingFields : List DerivedField :=
  [{ rustName := "id", ty := .path false "i64", id := "id", column := "id",
     storage := .integer, nullable := false, primaryKey := true },
   { rustName := "note", ty := .path false "String", id := "note",
     column := "1:a:Text:0:0\nfield:1:b", storage := .text, nullable := true,
     primaryKey := false }]

/-- Reordering the fields of a declaration keeps its descriptor, and dropping
the imitating one changes it. -/
theorem imitating_fields_identified :
    canonicalSchema "notes" "notes" 1 imitatingFields =
        canonicalSchema "notes" "notes" 1 imitatingFields.reverse ∧
      canonicalSchema "notes" "notes" 1 imitatingFields ≠
        canonicalSchema "notes" "notes" 1 (imitatingFields.take 1) := by
  obtain ⟨exactly, invariant, -, -⟩ := canonical_descriptors_identify_formats
  refine ⟨invariant _ _ _ _ _ (by decide) (List.reverse_perm _).symm, ?_⟩
  intro same
  have sameFields := (exactly _ _ _ _ _ _ _ _ (by decide) (by decide)).mp same
  exact absurd (sameFields.2.2.2 (imitatingFields.getLast (by decide)).schema)
    (by decide)

end Csgdb.Derive
