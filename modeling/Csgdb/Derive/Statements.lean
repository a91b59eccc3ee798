/-
Module: Csgdb.Derive.Statements
Purpose: The SQL texts that the derive generates for one collection.
Trusted boundary: none
Main exports: quoteIdentifier, createTableSql, createIndexSql, insertSql,
  selectSql, updateSql, deleteSql
-/
import Csgdb.Derive.Declaration

namespace Csgdb.Derive

/-- A declared index after its attributes were read. -/
structure DerivedIndex where
  id : String
  name : String
  columns : List String
  unique : Bool
  canonical : String
  fingerprint : SchemaFingerprint
deriving Repr, DecidableEq

/-- `value.replace('"', "\"\"")`. -/
def doubleQuotes (value : String) : String :=
  String.ofList (value.toList.flatMap fun char => if char = '"' then ['"', '"'] else [char])

def quoteIdentifier (value : String) : String :=
  "\"" ++ doubleQuotes value ++ "\""

def asciiUppercase (text : String) : String :=
  String.ofList (text.toList.map Char.toUpper)

/-- `join(", ")`. -/
def joinComma (parts : List String) : String :=
  String.intercalate ", " parts

def columnDefinitionSql (field : DerivedField) : String :=
  quoteIdentifier field.column ++ " " ++ asciiUppercase (storageName field.storage) ++
    (if field.nullable then "" else " NOT NULL") ++
    (if field.primaryKey then " PRIMARY KEY" else "")

def createTableSql (table : String) (fields : List DerivedField) : String :=
  "CREATE TABLE IF NOT EXISTS " ++ table ++ " (" ++
    joinComma (fields.map columnDefinitionSql) ++ ")"

def createIndexSql (table : String) (index : DerivedIndex) : String :=
  "CREATE " ++ (if index.unique then "UNIQUE " else "") ++ "INDEX IF NOT EXISTS " ++
    quoteIdentifier index.name ++ " ON " ++ table ++ " (" ++
    joinComma (index.columns.map quoteIdentifier) ++ ")"

def quotedColumns (fields : List DerivedField) : String :=
  joinComma (fields.map fun field => quoteIdentifier field.column)

/-- A numbered parameter. -/
def parameterSql (index : Nat) : String :=
  "?" ++ index.repr

def insertSql (table : String) (fields : List DerivedField) : String :=
  "INSERT INTO " ++ table ++ " (" ++ quotedColumns fields ++ ") VALUES (" ++
    joinComma ((List.range' 1 fields.length).map parameterSql) ++ ")"

def selectSql (table : String) (fields : List DerivedField) (primaryKey : String) :
    String :=
  "SELECT " ++ quotedColumns fields ++ " FROM " ++ table ++ " WHERE " ++
    quoteIdentifier primaryKey ++ " = ?1 LIMIT 1"

/-- The assignments of an update: the primary key is skipped and does not
consume a number. -/
def mutableSql (fields : List DerivedField) : List String :=
  ((fields.filter fun field => !field.primaryKey).zipIdx).map fun (field, index) =>
    quoteIdentifier field.column ++ " = " ++ parameterSql (index + 1)

def updateSql (table : String) (fields : List DerivedField) (primaryKey : String) :
    String :=
  let assignments := mutableSql fields
  let key := quoteIdentifier primaryKey
  if assignments.isEmpty then
    "UPDATE " ++ table ++ " SET " ++ key ++ " = " ++ key ++ " WHERE " ++ key ++ " = ?1"
  else
    "UPDATE " ++ table ++ " SET " ++ joinComma assignments ++ " WHERE " ++ key ++
      " = " ++ parameterSql (assignments.length + 1)

def deleteSql (table : String) (primaryKey : String) : String :=
  "DELETE FROM " ++ table ++ " WHERE " ++ quoteIdentifier primaryKey ++ " = ?1"

end Csgdb.Derive
