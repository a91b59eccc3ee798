/-
Module: Csgdb.Core.Basic
Purpose: What all layers share: stable error categories and the error value of every
  fallible call, dynamically typed database values, and the comparison of names.
Trusted boundary: the carrier of reals stays abstract; nothing in the typed layer
  computes with them beyond asking whether one is finite.
Main exports: ErrorCode, Error, Result, RealCarrier, ValueType, Value, foldName
-/
import Mathlib.Tactic.Common

namespace Csgdb

/-! ## Errors -/

/-- Stable, machine-readable error categories. -/
inductive ErrorCode where
  | invalidOpenFlags
  | invalidVfs
  | invalidFaultRule
  | invalidKeyLength
  | invalidPath
  | invalidSql
  | parameterCountMismatch
  | invalidParameterIndex
  | invalidColumnIndex
  | invalidColumnType
  | invalidFieldValue
  | invalidQuery
  | invalidUtf8
  | invalidStatementState
  | invalidBusyTimeout
  | invalidCheckpointThreshold
  | invalidDatabaseName
  | invalidPoolConfiguration
  | invalidSchema
  | schemaMismatch
  | invalidMigration
  | migrationMismatch
  | keyRequired
  | keyStoreUnavailable
  | plaintextRequiresOptIn
  | encryptionBackendUnavailable
  | storageBackendUnavailable
  | databaseBusy
  | databaseReadOnly
  | constraintViolation
  | invalidDatabaseKey
  | databaseCorrupt
  | queryInterrupted
  | readPoolExhausted
  | writeQueueFull
  | writeQueueTimeout
  | connectionManagerClosed
  | connectionManagerInUse
  | writeTaskPanicked
  | reentrantRead
  | reentrantWrite
  | storageWriteFailed
  | storageSyncFailed
  | storageTruncateFailed
  | storage
deriving Repr, DecidableEq, Inhabited

/-- An error with a stable category and a non-sensitive diagnostic. -/
structure Error where
  code : ErrorCode
  message : String
deriving Repr, DecidableEq, Inhabited

/-- Result of a fallible call. -/
abbrev Result (α : Type*) := Except Error α

namespace Storage

def parameterCountMismatch : Error :=
  { code := .parameterCountMismatch
    message := "SQL parameter count does not match the supplied values" }

def invalidSql : Error :=
  { code := .invalidSql, message := "SQL statement is invalid" }

def constraintViolation : Error :=
  { code := .constraintViolation, message := "database constraint failed" }

def invalidColumnIndex : Error :=
  { code := .invalidColumnIndex, message := "result column index is out of range" }

/-- Every engine failure without a category of its own, such as a misplaced
transaction statement or a missing savepoint. -/
def storageFailed : Error :=
  { code := .storage, message := "database operation failed" }

end Storage

/-! ## Values -/

/-- What the typed layer asks of an `f64`. -/
class RealCarrier (R : Type) where
  isFinite : R → Bool

/-- The storage class of a database value. -/
inductive ValueType where
  | integer
  | real
  | text
  | blob
  | null
deriving Repr, DecidableEq, Inhabited

/-- An owned dynamically typed database value. -/
inductive Value (R : Type) where
  | null
  | integer (value : Int64)
  | real (value : R)
  | text (value : String)
  | blob (value : List UInt8)
deriving Repr, DecidableEq, Inhabited

variable {R : Type}

/-- The storage class of a value. -/
def Value.valueType : Value R → ValueType
  | .null => .null
  | .integer _ => .integer
  | .real _ => .real
  | .text _ => .text
  | .blob _ => .blob

/-- Whether a value is SQL `NULL`. -/
def Value.isNull : Value R → Bool
  | .null => true
  | _ => false

/-! ## Names -/

/-- The engine compares names without regard to the case of ASCII letters. -/
def foldName (name : String) : List Char :=
  name.toList.map Char.toLower

end Csgdb
