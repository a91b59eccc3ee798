/-
Module: Csgdb.Ffi.Code
Purpose: Status codes of the C interface, and what they say about errors of the
  database and of the engine.
Trusted boundary: none
Main exports: Code, Returned, errorCode, mapSqliteCode, errorMessage
-/
import Csgdb.Core.Basic

namespace Csgdb.Ffi

/-- The codes that the status word of a handle holds. -/
inductive Code where
  | ok
  | invalidArgument
  | invalidOpenFlags
  | invalidKey
  | keyRequired
  | keystoreUnavailable
  | busy
  | readonly
  | constraint
  | corrupt
  | storage
  | misuse
  | range
  | interrupt
deriving Repr, DecidableEq

/-- The numbers behind the codes. -/
def Code.value : Code → Int
  | .ok => 0
  | .invalidArgument => 1
  | .invalidOpenFlags => 2
  | .invalidKey => 3
  | .keyRequired => 4
  | .keystoreUnavailable => 5
  | .busy => 6
  | .readonly => 7
  | .constraint => 8
  | .corrupt => 9
  | .storage => 10
  | .misuse => 11
  | .range => 12
  | .interrupt => 13

/-- The codes that calls return: a step also tells of a row and of the end. -/
inductive Returned where
  | code (code : Code)
  | row
  | done
deriving Repr, DecidableEq

def Returned.value : Returned → Int
  | .code status => status.value
  | .row => 100
  | .done => 101

/-- The code that a database error is reported with. -/
def errorCode (error : Error) : Code :=
  match error.code with
  | .invalidOpenFlags | .plaintextRequiresOptIn => .invalidOpenFlags
  | .invalidKeyLength | .invalidDatabaseKey => .invalidKey
  | .keyRequired => .keyRequired
  | .keyStoreUnavailable => .keystoreUnavailable
  | .databaseBusy => .busy
  | .databaseReadOnly => .readonly
  | .constraintViolation => .constraint
  | .databaseCorrupt => .corrupt
  | .queryInterrupted => .interrupt
  | .invalidParameterIndex | .invalidColumnIndex => .range
  | .invalidStatementState => .misuse
  | .invalidPath | .invalidVfs | .invalidFaultRule | .invalidSql | .parameterCountMismatch
  | .invalidColumnType | .invalidQuery | .invalidUtf8 | .invalidBusyTimeout
  | .invalidCheckpointThreshold | .invalidDatabaseName => .invalidArgument
  | _ => .storage

/-! ## Engine results -/

def sqliteOk : Int := 0
def sqliteMisuse : Int := 21
def sqliteRow : Int := 100
def sqliteDone : Int := 101

/-- The code that an engine result is reported with.  The low byte of an extended result
is its primary result. -/
def mapSqliteCode (result : Int) : Code :=
  match result % 256 with
  | 0 => .ok
  | 5 | 6 => .busy
  | 8 => .readonly
  | 19 => .constraint
  | 11 | 26 => .corrupt
  | 21 => .misuse
  | 25 => .range
  | 9 => .interrupt
  | _ => .storage

/-- The static description of a code. -/
def errorMessage : Code → String
  | .ok => "not an error"
  | .invalidArgument => "invalid argument"
  | .invalidOpenFlags => "invalid open flags"
  | .invalidKey => "invalid database key"
  | .keyRequired => "database key required"
  | .keystoreUnavailable => "key store unavailable"
  | .busy => "database is busy or locked"
  | .readonly => "database is read-only"
  | .constraint => "database constraint failed"
  | .corrupt => "database is corrupt or authentication failed"
  | .misuse => "statement is not in a valid state for this operation"
  | .range => "parameter or column index is out of range"
  | .interrupt => "database operation interrupted"
  | .storage => "database operation failed"

end Csgdb.Ffi
