/-
Module: Csgdb.Proofs.DerivedStatements
Purpose: The SQL texts of a derived collection compile to the statements they
  are meant to be, with the parameters they are meant to have.
Trusted boundary: none
Main exports: prepare_insertSql, prepare_selectByKeySql, prepare_updateSql,
  prepare_deleteByKeySql
-/
import Csgdb.Derive.Accepted
import Csgdb.Sql.Text
import Csgdb.Storage.Statement

namespace Csgdb.Derive

open Sql

/-- The derive's quoting is the quoting that the lexer undoes. -/
theorem quoteIdentifier_eq (value : String) : quoteIdentifier value = quoted value := by
  apply String.toList_inj.mp
  have quote : "\"".toList = ['"'] := by decide
  unfold quoteIdentifier doubleQuotes
  simp only [String.toList_append, String.toList_ofList, quoted_toList, quote]
  rfl

/-- A quoted name is one token, with the name in it. -/
theorem lex_quoteIdentifier {value : String} (valid : validName value = true) :
    lex (quoteIdentifier value) = some [.identifier value] := by
  rw [quoteIdentifier_eq]
  exact lex_quoted (noNul_of_validName valid)

/-- A comma-separated list of texts that are read one by one. -/
theorem lex_joinComma {α : Type} {write : α → String} {tokens : α → List Token}
    {values : List α} (reads : ∀ value ∈ values, lex (write value) = some (tokens value)) :
    lex (joinComma (values.map write)) = some (listTokens tokens values) := by
  unfold joinComma
  rw [intercalate_eq_listText]
  exact lex_listText reads

theorem lex_parameterSql (index : Nat) :
    lex (parameterSql index) = some [.parameter (some index)] :=
  lex_numberedParameter index

section Statements

variable {host : MacroHost} {derived : DerivedCollection}

/-- The columns of all fields, in their order. -/
theorem lex_quotedColumns (formed : derived.WellFormed host) :
    lex (quotedColumns derived.fields) =
      some (listTokens (fun field : DerivedField => nameTokens field.column)
        derived.fields) := by
  unfold quotedColumns
  exact lex_joinComma fun field member =>
    lex_quoteIdentifier (formed.field_wellFormed field member).column_valid

/-! ## What the texts are meant to say -/

/-- The columns of a collection in declaration order. -/
def DerivedCollection.columns (derived : DerivedCollection) : List String :=
  derived.fields.map DerivedField.column

/-- The fields an update writes, in declaration order. -/
def mutableFields (fields : List DerivedField) : List DerivedField :=
  fields.filter fun field => !field.primaryKey

/-- What `INSERT_SQL` means: a parameter for each column. -/
def DerivedCollection.insertStatement (derived : DerivedCollection) : Statement :=
  .insert derived.table derived.columns
    ((List.range' 1 derived.fields.length).map .parameter)

def DerivedCollection.selectStatement (derived : DerivedCollection) : Statement :=
  .select (.columns derived.columns) derived.table
    (.key derived.primaryKey.column 1) [] (.number 1)

def assignment (numbered : DerivedField × Nat) : Assignment :=
  { column := numbered.1.column, value := .parameter (numbered.2 + 1) }

/-- Without any other field the key is assigned to itself. -/
def DerivedCollection.assignments (derived : DerivedCollection) : List Assignment :=
  if mutableFields derived.fields = [] then
    [{ column := derived.primaryKey.column, value := .column derived.primaryKey.column }]
  else
    (mutableFields derived.fields).zipIdx.map assignment

/-- What `UPDATE_SQL` means: the key is its last parameter. -/
def DerivedCollection.updateStatement (derived : DerivedCollection) : Statement :=
  .update derived.table derived.assignments
    (.key derived.primaryKey.column ((mutableFields derived.fields).length + 1))

def DerivedCollection.deleteStatement (derived : DerivedCollection) : Statement :=
  .delete derived.table (.key derived.primaryKey.column 1)

/-! ## What the texts say -/

theorem listTokens_columns (derived : DerivedCollection) :
    listTokens (fun field : DerivedField => nameTokens field.column) derived.fields =
      listTokens nameTokens derived.columns := by
  unfold DerivedCollection.columns
  rw [listTokens_map]

theorem fields_ne_nil (formed : derived.WellFormed host) : derived.fields ≠ [] := by
  intro empty
  have key := formed.primary_key
  rw [empty] at key
  cases key

theorem primaryKey_mem (formed : derived.WellFormed host) :
    derived.primaryKey ∈ derived.fields ∧ derived.primaryKey.primaryKey = true := by
  have member : derived.primaryKey ∈ derived.fields.filter DerivedField.primaryKey := by
    rw [formed.primary_key]
    exact List.mem_singleton_self _
  exact List.mem_filter.mp member

theorem lex_table (formed : derived.WellFormed host) :
    lex (quoteIdentifier derived.table) = some [.identifier derived.table] :=
  lex_quoteIdentifier formed.table_valid

theorem lex_key (formed : derived.WellFormed host) :
    lex (quoteIdentifier derived.primaryKey.column) =
      some [.identifier derived.primaryKey.column] :=
  lex_quoteIdentifier
    (formed.field_wellFormed _ (primaryKey_mem formed).1).column_valid

/-- A text that is read as the tokens of a statement compiles to it. -/
theorem prepare_of_text {text : String} {statement : Statement} {count : Nat}
    (read : lex text = some statement.tokens) (nonempty : statement.NonEmpty)
    (counted : largestFrom 0 statement.tokens = count) :
    Storage.prepare text =
      .ok { statement := statement, parameterCount := count } := by
  unfold Storage.prepare
  rw [prepare_of_lex_tokens read nonempty, counted]

theorem largestFrom_names (names : List String) (largest : Nat) :
    largestFrom largest (listTokens nameTokens names) = largest :=
  largestFrom_of_plain (listTokens_plain (by simp [nameTokens, Token.isParameter])) largest

/-- `INSERT_SQL` compiles to the insert of all columns. -/
theorem prepare_insertSql (formed : derived.WellFormed host) :
    Storage.prepare derived.insertSql = .ok
      { statement := derived.insertStatement
        parameterCount := derived.fields.length } := by
  have readParameters := (@lex_joinComma _ _ _ (List.range' 1 derived.fields.length))
    fun index _ => lex_parameterSql index
  have close : lex ")" = some [.rightParen] := by decide
  have values : lex ") VALUES (" =
      some [.rightParen, .word "VALUES", .leftParen] := by decide
  have columns : lex " (" = some [.leftParen] := by decide
  have insert : lex "INSERT INTO " = some [.word "INSERT", .word "INTO"] := by decide
  have read := lex_append_ends ⟨' ', by decide, by decide⟩ insert
    (lex_append_opens (opensSeparated_append ⟨' ', by decide, by decide⟩ _)
      (lex_table formed)
      (lex_append_ends ⟨'(', by decide, by decide⟩ columns
        (lex_append_opens (opensSeparated_append ⟨')', by decide, by decide⟩ _)
          (lex_quotedColumns formed)
          (lex_append_ends ⟨'(', by decide, by decide⟩ values
            (lex_append_opens ⟨')', by decide, by decide⟩ readParameters close)))))
  have sameText : derived.insertSql = "INSERT INTO " ++ (quoteIdentifier derived.table ++
      (" (" ++ (quotedColumns derived.fields ++ (") VALUES (" ++
        (joinComma ((List.range' 1 derived.fields.length).map parameterSql) ++ ")"))))) := by
    unfold DerivedCollection.insertSql insertSql
    simp only [String.append_assoc]
  have parameters : listTokens (fun term => [Term.token term])
      ((List.range' 1 derived.fields.length).map Term.parameter) =
        listTokens (fun index => [.parameter (some index)])
          (List.range' 1 derived.fields.length) := listTokens_map _ _ _
  rw [← sameText, listTokens_columns, ← parameters] at read
  have nonempty := fields_ne_nil formed
  apply prepare_of_text read
  · constructor
    · simpa [DerivedCollection.columns] using nonempty
    · simpa using nonempty
  · have count := (@largestFrom_listTokens _ (fun index => [Token.parameter (some index)]) id)
      (fun value largest => rfl) (List.range' 1 derived.fields.length) 0
    rw [List.map_id, foldl_max_range'] at count
    simp only [DerivedCollection.insertStatement, Statement.tokens, largestFrom,
      largestFrom_append, largestFrom_names, parameters, count]
    have positive := List.length_pos_of_ne_nil nonempty
    split <;> omega

/-- `SELECT_BY_KEY_SQL` compiles to the query of one key. -/
theorem prepare_selectByKeySql (formed : derived.WellFormed host) :
    Storage.prepare derived.selectByKeySql = .ok
      { statement := derived.selectStatement, parameterCount := 1 } := by
  have limit : lex " = ?1 LIMIT 1" =
      some [.equal, .parameter (some 1), .word "LIMIT", .number 1] := by decide
  have wherePart : lex " WHERE " = some [.word "WHERE"] := by decide
  have fromPart : lex " FROM " = some [.word "FROM"] := by decide
  have select : lex "SELECT " = some [.word "SELECT"] := by decide
  have read := lex_append_ends ⟨' ', by decide, by decide⟩ select
    (lex_append_opens (opensSeparated_append ⟨' ', by decide, by decide⟩ _)
      (lex_quotedColumns formed)
      (lex_append_ends ⟨' ', by decide, by decide⟩ fromPart
        (lex_append_opens (opensSeparated_append ⟨' ', by decide, by decide⟩ _)
          (lex_table formed)
          (lex_append_ends ⟨' ', by decide, by decide⟩ wherePart
            (lex_append_opens ⟨' ', by decide, by decide⟩ (lex_key formed) limit)))))
  have sameText : derived.selectByKeySql = "SELECT " ++ (quotedColumns derived.fields ++
      (" FROM " ++ (quoteIdentifier derived.table ++ (" WHERE " ++
        (quoteIdentifier derived.primaryKey.column ++ " = ?1 LIMIT 1"))))) := by
    unfold DerivedCollection.selectByKeySql selectSql
    simp only [String.append_assoc]
  rw [← sameText, listTokens_columns] at read
  apply prepare_of_text read
  · simpa [DerivedCollection.selectStatement, Statement.NonEmpty,
      DerivedCollection.columns] using fields_ne_nil formed
  · simp only [DerivedCollection.selectStatement, Statement.tokens, Projection.tokens,
      Filter.tokens, orderTokens, Term.token, largestFrom, largestFrom_append,
      largestFrom_names, List.nil_append]
    rfl

/-- `DELETE_BY_KEY_SQL` compiles to the delete of one key. -/
theorem prepare_deleteByKeySql (formed : derived.WellFormed host) :
    Storage.prepare derived.deleteByKeySql = .ok
      { statement := derived.deleteStatement, parameterCount := 1 } := by
  have parameter : lex " = ?1" = some [.equal, .parameter (some 1)] := by decide
  have wherePart : lex " WHERE " = some [.word "WHERE"] := by decide
  have delete : lex "DELETE FROM " = some [.word "DELETE", .word "FROM"] := by decide
  have read := lex_append_ends ⟨' ', by decide, by decide⟩ delete
    (lex_append_opens (opensSeparated_append ⟨' ', by decide, by decide⟩ _)
      (lex_table formed)
      (lex_append_ends ⟨' ', by decide, by decide⟩ wherePart
        (lex_append_opens ⟨' ', by decide, by decide⟩ (lex_key formed) parameter)))
  have sameText : derived.deleteByKeySql = "DELETE FROM " ++
      (quoteIdentifier derived.table ++ (" WHERE " ++
        (quoteIdentifier derived.primaryKey.column ++ " = ?1"))) := by
    unfold DerivedCollection.deleteByKeySql deleteSql
    simp only [String.append_assoc]
  rw [← sameText] at read
  exact prepare_of_text read trivial rfl

/-- The text of one assignment. -/
def assignmentText (numbered : DerivedField × Nat) : String :=
  quoteIdentifier numbered.1.column ++ " = " ++ parameterSql (numbered.2 + 1)

theorem mutableSql_eq (fields : List DerivedField) :
    mutableSql fields = (mutableFields fields).zipIdx.map assignmentText := rfl

theorem lex_assignmentText (formed : derived.WellFormed host)
    {numbered : DerivedField × Nat}
    (member : numbered ∈ (mutableFields derived.fields).zipIdx) :
    lex (assignmentText numbered) = some (assignment numbered).tokens := by
  have inFields : numbered.1 ∈ derived.fields := by
    have inMutable := List.fst_mem_of_mem_zipIdx member
    exact (List.mem_filter.mp inMutable).1
  have valid := (formed.field_wellFormed numbered.1 inFields).column_valid
  have equals : lex " = " = some [.equal] := by decide
  have read := lex_append_opens (opensSeparated_append ⟨' ', by decide, by decide⟩ _)
    (lex_quoteIdentifier valid)
    (lex_append_ends ⟨' ', by decide, by decide⟩ equals
      (lex_parameterSql (numbered.2 + 1)))
  unfold assignmentText
  rw [String.append_assoc]
  exact read

/-- An update of the given assignments, with the key in the last parameter. -/
theorem lex_updateText (formed : derived.WellFormed host) {set key : String}
    {setTokens keyTokens : List Token} (readSet : lex set = some setTokens)
    (readKey : lex key = some keyTokens) (opens : opensSeparated key) :
    lex ("UPDATE " ++ (quoteIdentifier derived.table ++ (" SET " ++ (set ++ (" WHERE " ++
        (quoteIdentifier derived.primaryKey.column ++ key)))))) =
      some (.word "UPDATE" :: .identifier derived.table :: .word "SET" ::
        (setTokens ++ .word "WHERE" :: .identifier derived.primaryKey.column ::
          keyTokens)) := by
  have wherePart : lex " WHERE " = some [.word "WHERE"] := by decide
  have setPart : lex " SET " = some [.word "SET"] := by decide
  have update : lex "UPDATE " = some [.word "UPDATE"] := by decide
  exact lex_append_ends ⟨' ', by decide, by decide⟩ update
    (lex_append_opens (opensSeparated_append ⟨' ', by decide, by decide⟩ _)
      (lex_table formed)
      (lex_append_ends ⟨' ', by decide, by decide⟩ setPart
        (lex_append_opens (opensSeparated_append ⟨' ', by decide, by decide⟩ _) readSet
          (lex_append_ends ⟨' ', by decide, by decide⟩ wherePart
            (lex_append_opens opens (lex_key formed) readKey)))))

/-- Positions counted from one. -/
theorem zipIdx_map_succ {α : Type} (items : List α) :
    items.zipIdx.map (fun numbered => numbered.2 + 1) =
      List.range' 1 items.length := by
  calc items.zipIdx.map (fun numbered => numbered.2 + 1)
      = (items.zipIdx.map Prod.snd).map (1 + ·) := by
        simp only [List.map_map, Function.comp_def, Nat.add_comm]
    _ = List.range' 1 items.length := by
        rw [List.zipIdx_map_snd, List.map_add_range']

theorem largestFrom_assignments (fields : List DerivedField) (largest : Nat) :
    largestFrom largest (listTokens Assignment.tokens (fields.zipIdx.map assignment)) =
      max largest fields.length := by
  have count := (@largestFrom_listTokens _
    (fun numbered : DerivedField × Nat => (assignment numbered).tokens)
    (fun numbered => numbered.2 + 1)) (fun numbered largest => rfl) fields.zipIdx largest
  rw [listTokens_map, count, zipIdx_map_succ, foldl_max_range']
  split <;> omega

/-- `UPDATE_SQL` compiles to the update of all columns but the key. -/
theorem prepare_updateSql (formed : derived.WellFormed host) :
    Storage.prepare derived.updateSql = .ok
      { statement := derived.updateStatement
        parameterCount := (mutableFields derived.fields).length + 1 } := by
  by_cases noMutable : mutableFields derived.fields = []
  · have equals : lex " = " = some [.equal] := by decide
    have readSet := lex_append_opens (opensSeparated_append ⟨' ', by decide, by decide⟩ _)
      (lex_key formed) (lex_append_ends ⟨' ', by decide, by decide⟩ equals (lex_key formed))
    have readKey : lex " = ?1" = some [.equal, .parameter (some 1)] := by decide
    have read := lex_updateText formed readSet readKey ⟨' ', by decide, by decide⟩
    have sameText : derived.updateSql = "UPDATE " ++ (quoteIdentifier derived.table ++
        (" SET " ++ ((quoteIdentifier derived.primaryKey.column ++ (" = " ++
          quoteIdentifier derived.primaryKey.column)) ++ (" WHERE " ++
          (quoteIdentifier derived.primaryKey.column ++ " = ?1"))))) := by
      unfold DerivedCollection.updateSql updateSql
      rw [mutableSql_eq, noMutable]
      simp only [List.zipIdx_nil, List.map_nil, List.isEmpty_nil, if_true,
        String.append_assoc]
    have sameTokens : derived.updateStatement.tokens =
        .word "UPDATE" :: .identifier derived.table :: .word "SET" ::
          ([.identifier derived.primaryKey.column, .equal,
            .identifier derived.primaryKey.column] ++ .word "WHERE" ::
            .identifier derived.primaryKey.column :: [.equal, .parameter (some 1)]) := by
      simp only [DerivedCollection.updateStatement, DerivedCollection.assignments,
        noMutable, if_true, Statement.tokens, listTokens, Assignment.tokens, Term.token,
        Filter.tokens, List.length_nil, Nat.zero_add]
    rw [← sameText] at read
    apply prepare_of_text (read.trans (congrArg some sameTokens.symm))
    · simp [DerivedCollection.updateStatement, Statement.NonEmpty,
        DerivedCollection.assignments, noMutable]
    · rw [sameTokens, noMutable]
      rfl
  · have readSet := lex_joinComma fun numbered member =>
      (@lex_assignmentText _ _ formed numbered) member
    have equals : lex " = " = some [.equal] := by decide
    have readKey := lex_append_ends ⟨' ', by decide, by decide⟩ equals
      (lex_parameterSql ((mutableFields derived.fields).length + 1))
    have read := lex_updateText formed readSet readKey
      (opensSeparated_append ⟨' ', by decide, by decide⟩ _)
    have sameText : derived.updateSql = "UPDATE " ++ (quoteIdentifier derived.table ++
        (" SET " ++ (joinComma ((mutableFields derived.fields).zipIdx.map assignmentText) ++
          (" WHERE " ++ (quoteIdentifier derived.primaryKey.column ++ (" = " ++
            parameterSql ((mutableFields derived.fields).length + 1))))))) := by
      have nonempty : ((mutableFields derived.fields).zipIdx.map assignmentText).isEmpty =
          false := by
        simpa using noMutable
      unfold DerivedCollection.updateSql updateSql
      rw [mutableSql_eq]
      simp only [nonempty, Bool.false_eq_true, if_false, List.length_map,
        List.length_zipIdx, String.append_assoc]
    have sameTokens : derived.updateStatement.tokens =
        .word "UPDATE" :: .identifier derived.table :: .word "SET" ::
          (listTokens (fun numbered => (assignment numbered).tokens)
            (mutableFields derived.fields).zipIdx ++ .word "WHERE" ::
            .identifier derived.primaryKey.column ::
            ([.equal] ++ [.parameter (some ((mutableFields derived.fields).length + 1))])) := by
      simp only [DerivedCollection.updateStatement, DerivedCollection.assignments,
        noMutable, if_false, Statement.tokens, Filter.tokens, listTokens_map]
      rfl
    rw [← sameText] at read
    apply prepare_of_text (read.trans (congrArg some sameTokens.symm))
    · simp [DerivedCollection.updateStatement, Statement.NonEmpty,
        DerivedCollection.assignments, noMutable]
    · simp only [DerivedCollection.updateStatement, DerivedCollection.assignments,
        noMutable, if_false, Statement.tokens, Filter.tokens, largestFrom,
        largestFrom_append, largestFrom_assignments]
      omega

/-! ## Definitions -/

/-- The definition of the column of a field. -/
def columnDefinition (field : DerivedField) : ColumnDefinition where
  name := field.column
  type := asciiUppercase (storageName field.storage)
  notNull := !field.nullable
  primaryKey := field.primaryKey

theorem lex_columnDefinitionSql {field : DerivedField}
    (valid : validName field.column = true) :
    lex (columnDefinitionSql field) = some (columnDefinition field).tokens := by
  have readType : lex (" " ++ asciiUppercase (storageName field.storage)) =
        some [.word (asciiUppercase (storageName field.storage))] ∧
      opensSeparated (" " ++ asciiUppercase (storageName field.storage)) := by
    cases field.storage <;> exact ⟨by decide, ' ', by decide, by decide⟩
  have notNull : lex " NOT NULL" = some [.word "NOT", .word "NULL"] := by decide
  have primaryKey : lex " PRIMARY KEY" = some [.word "PRIMARY", .word "KEY"] := by decide
  have notNullOpens : opensSeparated " NOT NULL" := ⟨' ', by decide, by decide⟩
  have primaryKeyOpens : opensSeparated " PRIMARY KEY" := ⟨' ', by decide, by decide⟩
  have readName := lex_append_opens readType.2 (lex_quoteIdentifier valid) readType.1
  have sameText : columnDefinitionSql field =
      (quoteIdentifier field.column ++ (" " ++ asciiUppercase (storageName field.storage)))
        ++ (if field.nullable then "" else " NOT NULL")
        ++ (if field.primaryKey then " PRIMARY KEY" else "") := by
    unfold columnDefinitionSql
    simp only [String.append_assoc]
  rw [sameText]
  unfold columnDefinition ColumnDefinition.tokens
  cases field.nullable <;> cases field.primaryKey
  · have read := lex_append_opens notNullOpens readName notNull
    simpa using read
  · have read := lex_append_opens primaryKeyOpens
      (lex_append_opens notNullOpens readName notNull) primaryKey
    simpa using read
  · simpa using readName
  · have read := lex_append_opens primaryKeyOpens readName primaryKey
    simpa using read

def DerivedCollection.createTableStatement (derived : DerivedCollection) : Statement :=
  .createTable derived.table (derived.fields.map columnDefinition)

def DerivedCollection.createIndexStatement (derived : DerivedCollection)
    (index : DerivedIndex) : Statement :=
  .createIndex index.unique index.name derived.table index.columns

/-- `CREATE_TABLE_SQL` compiles to the table of the fields. -/
theorem prepare_createTableSql (formed : derived.WellFormed host) :
    ∃ count, Storage.prepare derived.createTableSql = .ok
      { statement := derived.createTableStatement, parameterCount := count } := by
  have readColumns := lex_joinComma fun field member =>
    lex_columnDefinitionSql (formed.field_wellFormed field member).column_valid
  have create : lex "CREATE TABLE IF NOT EXISTS " = some [.word "CREATE", .word "TABLE",
      .word "IF", .word "NOT", .word "EXISTS"] := by decide
  have openParen : lex " (" = some [.leftParen] := by decide
  have close : lex ")" = some [.rightParen] := by decide
  have read := lex_append_ends ⟨' ', by decide, by decide⟩ create
    (lex_append_opens (opensSeparated_append ⟨' ', by decide, by decide⟩ _)
      (lex_table formed)
      (lex_append_ends ⟨'(', by decide, by decide⟩ openParen
        (lex_append_opens ⟨')', by decide, by decide⟩ readColumns close)))
  have sameText : derived.createTableSql = "CREATE TABLE IF NOT EXISTS " ++
      (quoteIdentifier derived.table ++ (" (" ++
        (joinComma (derived.fields.map columnDefinitionSql) ++ ")"))) := by
    unfold DerivedCollection.createTableSql createTableSql
    simp only [String.append_assoc]
  have sameTokens : listTokens ColumnDefinition.tokens
      (derived.fields.map columnDefinition) =
        listTokens (fun field => (columnDefinition field).tokens) derived.fields :=
    listTokens_map _ _ _
  rw [← sameText, ← sameTokens] at read
  refine ⟨_, (@prepare_of_text _ derived.createTableStatement) read ?_ rfl⟩
  simpa [DerivedCollection.createTableStatement, Statement.NonEmpty] using
    fields_ne_nil formed

/-- Each `CREATE INDEX` text compiles to its index. -/
theorem prepare_createIndexSql (formed : derived.WellFormed host) {index : DerivedIndex}
    (member : index ∈ derived.indexes) :
    ∃ count, Storage.prepare (createIndexSql (quoteIdentifier derived.table) index) = .ok
      { statement := derived.createIndexStatement index, parameterCount := count } := by
  have indexFormed := formed.index_wellFormed index member
  have validColumns : ∀ column ∈ index.columns, validName column = true := by
    intro column inColumns
    obtain ⟨field, inFields, rfl⟩ :=
      List.mem_map.mp (indexFormed.columns_declared column inColumns)
    exact (formed.field_wellFormed field inFields).column_valid
  have readColumns := (@lex_joinComma _ _ nameTokens) fun column inColumns =>
    lex_quoteIdentifier (validColumns column inColumns)
  have openParen : lex " (" = some [.leftParen] := by decide
  have close : lex ")" = some [.rightParen] := by decide
  have onPart : lex " ON " = some [.word "ON"] := by decide
  have readRest := lex_append_opens (opensSeparated_append ⟨' ', by decide, by decide⟩ _)
    (lex_quoteIdentifier indexFormed.name_valid)
    (lex_append_ends ⟨' ', by decide, by decide⟩ onPart
      (lex_append_opens (opensSeparated_append ⟨' ', by decide, by decide⟩ _)
        (lex_table formed)
        (lex_append_ends ⟨'(', by decide, by decide⟩ openParen
          (lex_append_opens ⟨')', by decide, by decide⟩ readColumns close))))
  have readHead : ∀ unique : Bool,
      lex ("CREATE " ++ (if unique then "UNIQUE " else "") ++ "INDEX IF NOT EXISTS ") =
        some (.word "CREATE" :: ((if unique then [.word "UNIQUE"] else []) ++
          [.word "INDEX", .word "IF", .word "NOT", .word "EXISTS"])) ∧
      endsSeparated ("CREATE " ++ (if unique then "UNIQUE " else "") ++
        "INDEX IF NOT EXISTS ") := by
    intro unique
    cases unique <;> exact ⟨by decide, ' ', by decide, by decide⟩
  have read := lex_append_ends (readHead index.unique).2 (readHead index.unique).1 readRest
  have sameText : createIndexSql (quoteIdentifier derived.table) index =
      ("CREATE " ++ (if index.unique then "UNIQUE " else "") ++ "INDEX IF NOT EXISTS ") ++
        (quoteIdentifier index.name ++ (" ON " ++ (quoteIdentifier derived.table ++ (" (" ++
          (joinComma (index.columns.map quoteIdentifier) ++ ")"))))) := by
    unfold createIndexSql
    simp only [String.append_assoc]
  rw [← sameText] at read
  have sameTokens : (derived.createIndexStatement index).tokens =
      .word "CREATE" :: ((if index.unique then [.word "UNIQUE"] else []) ++
          [.word "INDEX", .word "IF", .word "NOT", .word "EXISTS"]) ++
        ([.identifier index.name] ++ ([.word "ON"] ++ ([.identifier derived.table] ++
          ([.leftParen] ++ (listTokens nameTokens index.columns ++ [.rightParen]))))) := by
    unfold DerivedCollection.createIndexStatement Statement.tokens
    cases index.unique <;> rfl
  refine ⟨_, prepare_of_text (read.trans (congrArg some sameTokens.symm)) ?_ rfl⟩
  simpa [DerivedCollection.createIndexStatement, Statement.NonEmpty] using
    indexFormed.columns_ne_nil

end Statements

end Csgdb.Derive
