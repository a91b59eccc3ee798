/-
Module: Csgdb.Ffi.Statement
Purpose: Statement handles of the C interface: the state word, the guards in front of the
  engine, and every call on a live statement.
Trusted boundary: the engine's answers during one call are parameters; a raw statement is
  the record of the engine calls that were made on it.
Main exports: EngineEvent, lastStep, EngineAnswers, CsgdbStatement, Session, StatementCall, Reply,
  Session.call
-/
import Csgdb.Ffi.Code

namespace Csgdb.Ffi

/-! ## The engine's side -/

/-- What is bound to a parameter. -/
inductive BoundValue where
  | null
  | int (value : Int)
  | int64 (value : Int)
  | double (bits : UInt64)
  | text (bytes : List UInt8)
  | blob (bytes : List UInt8)
deriving Repr, DecidableEq

/-- Engine calls that return a result code. -/
inductive ResultCall where
  | step
  | reset
  | clearBindings
  | bind (index : Int) (value : BoundValue)
deriving Repr, DecidableEq

/-- The accessors of a result column. -/
inductive ColumnRead where
  | type
  | int
  | int64
  | double
  | text
  | blob
  | bytes
deriving Repr, DecidableEq

/-- Engine calls that return a value. -/
inductive ReadCall where
  | column (read : ColumnRead) (index : Int)
  | columnName (index : Int)
  | parameterIndex (name : List UInt8)
  | parameterName (index : Int)
deriving Repr, DecidableEq

/-- A plain C value; a pointer without an address is null. -/
inductive CValue where
  | int (value : Int)
  | double (bits : UInt64)
  | pointer (address : Option Nat)
deriving Repr, DecidableEq

/-- An engine call on a raw statement, with its result when it returns a code. -/
inductive EngineEvent where
  | result (call : ResultCall) (result : Int)
  | read (call : ReadCall)
deriving Repr, DecidableEq

/-- A raw statement is known by the engine calls that were made on it, the newest first. -/
abbrev RawStatement := List EngineEvent

/-- The result of the last step since the last reset or since the statement was
prepared. -/
def lastStep : RawStatement → Option Int
  | [] => none
  | .result .step result :: _ => some result
  | .result .reset _ :: _ => none
  | _ :: earlier => lastStep earlier

/-- What the engine answers during one call of the C interface. -/
structure EngineAnswers where
  result : ResultCall → Int
  read : ReadCall → CValue
  columnBytes : Int → Int

/-- The value of a read; a byte length is an integer. -/
def EngineAnswers.value (answers : EngineAnswers) : ReadCall → CValue
  | .column .bytes index => .int (answers.columnBytes index)
  | call => answers.read call

/-! ## Statements -/

inductive StatementState where
  | ready
  | row
  | done
  | failed
deriving Repr, DecidableEq

/-- What all owners of a connection share; a lock whose holder panicked is poisoned. -/
structure SharedDatabase where
  poisoned : Bool
  lastCode : Code
deriving Repr, DecidableEq

namespace SharedDatabase

def setOk (shared : SharedDatabase) : SharedDatabase :=
  if shared.lastCode ≠ .ok then { shared with lastCode := .ok } else shared

def setCode (shared : SharedDatabase) (code : Code) : Code × SharedDatabase :=
  (code, { shared with lastCode := code })

def setError (shared : SharedDatabase) (error : Error) : Code × SharedDatabase :=
  shared.setCode (errorCode error)

def setSqliteResult (shared : SharedDatabase) (result : Int) : Code × SharedDatabase :=
  if result = sqliteOk then (.ok, shared.setOk) else shared.setCode (mapSqliteCode result)

end SharedDatabase

/-- A statement handle. -/
structure CsgdbStatement where
  raw : Option RawStatement
  state : StatementState
  parameterCount : Int
  columnCount : Int
deriving Repr, DecidableEq

/-- A statement with the connection that it shares. -/
structure Session where
  shared : SharedDatabase
  statement : CsgdbStatement
deriving Repr, DecidableEq

/-- What a call returns and writes through its output pointers. -/
inductive Reply where
  | nothing
  | code (returned : Returned)
  | value (value : CValue)
  | message (text : String)
  | blobView (code : Code) (data : Option CValue) (length : Option Nat)
  | prepared (code : Code) (statement : Option Nat) (tail : Option CValue)
  | checkpoint (code : Code) (walFrames checkpointedFrames : Option Int)
deriving Repr, DecidableEq

/-- The code that a call returns, if it returns one. -/
def Reply.status : Reply → Option Returned
  | .code returned => some returned
  | .blobView status _ _ | .prepared status _ _ | .checkpoint status _ _ =>
      some (.code status)
  | .nothing | .value _ | .message _ => none

namespace Session

variable (answers : EngineAnswers) (session : Session)

def setState (state : StatementState) : Session :=
  { session with statement := { session.statement with state := state } }

def setOk : Session :=
  { session with shared := session.shared.setOk }

def setCode (code : Code) : Code × Session :=
  (code, { session with shared := (session.shared.setCode code).2 })

def setSqliteResult (result : Int) : Code × Session :=
  ((session.shared.setSqliteResult result).1,
    { session with shared := (session.shared.setSqliteResult result).2 })

def record (event : EngineEvent) : Session :=
  { session with
    statement :=
      { session.statement with
        raw := session.statement.raw.map fun earlier => event :: earlier } }

/-- An engine call that returns a code.  On a null statement a reset does nothing and any
other call is a misuse. -/
def engineResult (call : ResultCall) : Int × Session :=
  match session.statement.raw with
  | none => (if call = .reset then sqliteOk else sqliteMisuse, session)
  | some _ => (answers.result call, session.record (.result call (answers.result call)))

/-- An engine call that returns a value. -/
def engineRead (call : ReadCall) : CValue × Session :=
  (answers.value call, session.record (.read call))

/-! ## Guards -/

def bindValue (index : Int) (value : BoundValue) : Code × Session :=
  if index ≤ 0 ∨ index > session.statement.parameterCount then
    session.setCode .range
  else if session.statement.state ≠ .ready ∨ session.statement.raw = none then
    session.setCode .misuse
  else
    let (result, session) := session.engineResult answers (.bind index value)
    session.setSqliteResult result

def statementReadyOperation (call : ResultCall) : Code × Session :=
  if session.statement.state ≠ .ready ∨ session.statement.raw = none then
    session.setCode .misuse
  else
    let (result, session) := session.engineResult answers call
    session.setSqliteResult result

def withStatementMetadata (default : CValue) (call : ReadCall) : CValue × Session :=
  if session.statement.raw = none then
    (default, (session.setCode .misuse).2)
  else
    let (value, session) := session.engineRead answers call
    (value, session.setOk)

def withColumnMetadata (index : Int) (default : CValue) (call : ReadCall) :
    CValue × Session :=
  if session.statement.raw = none then
    (default, (session.setCode .misuse).2)
  else if index < 0 ∨ index ≥ session.statement.columnCount then
    (default, (session.setCode .range).2)
  else
    let (value, session) := session.engineRead answers call
    (value, session.setOk)

def withRowColumn (index : Int) (default : CValue) (read : ColumnRead) : CValue × Session :=
  if session.statement.raw = none ∨ session.statement.state ≠ .row then
    (default, (session.setCode .misuse).2)
  else if index < 0 ∨ index ≥ session.statement.columnCount then
    (default, (session.setCode .range).2)
  else
    let (value, session) := session.engineRead answers (.column read index)
    (value, session.setOk)

/-! ## Calls -/

def step : Returned × Session :=
  if session.statement.state = .done ∨ session.statement.state = .failed then
    (.code .misuse, (session.setCode .misuse).2)
  else
    let (result, session) := session.engineResult answers .step
    if result = sqliteRow then
      (.row, (session.setState .row).setOk)
    else if result = sqliteDone then
      (.done, (session.setState .done).setOk)
    else
      (.code (mapSqliteCode result),
        ((session.setState .failed).setCode (mapSqliteCode result)).2)

def reset : Code × Session :=
  let (result, session) := session.engineResult answers .reset
  (session.setState .ready).setSqliteResult result

def clearBindings : Code × Session :=
  session.statementReadyOperation answers .clearBindings

/-- Binding removal is attempted even when the reset reports the error of the last step. -/
def resetAndClearBindings : Code × Session :=
  let (resetResult, session) := session.engineResult answers .reset
  let session := session.setState .ready
  let (clearResult, session) := session.engineResult answers .clearBindings
  if resetResult = sqliteOk then
    session.setSqliteResult clearResult
  else
    session.setCode (mapSqliteCode resetResult)

/-- Lengths are converted to the machine's `usize` and `u64`. -/
def byteLength (length : Int) : Option Nat :=
  if 0 ≤ length ∧ length.toNat < 18446744073709551616 then some length.toNat else none

/-- A null value binds `NULL`; a negative length reads through the first terminator. -/
def bindText (index : Int) (value : Option (List UInt8)) (length : Int) : Code × Session :=
  match value with
  | none => session.bindValue answers index .null
  | some bytes =>
      if length < 0 then
        session.bindValue answers index (.text (bytes.takeWhile fun byte => byte ≠ 0))
      else
        match byteLength length with
        | none => session.setCode .invalidArgument
        | some length => session.bindValue answers index (.text (bytes.take length))

def bindBlob (index : Int) (value : Option (List UInt8)) (length : Int) : Code × Session :=
  match value with
  | none => session.bindValue answers index .null
  | some bytes =>
      match byteLength length with
      | none => session.setCode .invalidArgument
      | some length => session.bindValue answers index (.blob (bytes.take length))

/-- A text is bound, or its length is refused. -/
theorem bindText_cases (index : Int) (value : Option (List UInt8)) (length : Int) :
    (∃ bound, session.bindText answers index value length =
      session.bindValue answers index bound) ∨
    session.bindText answers index value length = session.setCode .invalidArgument := by
  cases value with
  | none => exact .inl ⟨.null, rfl⟩
  | some bytes =>
      unfold bindText
      dsimp only
      split
      case isTrue => exact .inl ⟨_, rfl⟩
      case isFalse =>
        cases byteLength length with
        | none => exact .inr rfl
        | some length => exact .inl ⟨_, rfl⟩

/-- So is a blob. -/
theorem bindBlob_cases (index : Int) (value : Option (List UInt8)) (length : Int) :
    (∃ bound, session.bindBlob answers index value length =
      session.bindValue answers index bound) ∨
    session.bindBlob answers index value length = session.setCode .invalidArgument := by
  cases value with
  | none => exact .inl ⟨.null, rfl⟩
  | some bytes =>
      unfold bindBlob
      dsimp only
      cases byteLength length with
      | none => exact .inr rfl
      | some length => exact .inl ⟨_, rfl⟩

def bindParameterIndex (name : Option (List UInt8)) : CValue × Session :=
  match name with
  | none => (.int 0, (session.setCode .invalidArgument).2)
  | some name => session.withStatementMetadata answers (.int 0) (.parameterIndex name)

/-- A blob view, with what it leaves in its two outputs; an output that is absent is a
null pointer. -/
def columnBlobView (index : Int) (hasData hasLength : Bool) : Reply × Session :=
  let cleared (answer : Code × Session) : Reply × Session :=
    (.blobView answer.1 (if hasData then some (.pointer none) else none)
      (if hasLength then some 0 else none), answer.2)
  if !hasData || !hasLength then
    cleared (session.setCode .invalidArgument)
  else if session.statement.raw = none ∨ session.statement.state ≠ .row then
    cleared (session.setCode .misuse)
  else if index < 0 ∨ index ≥ session.statement.columnCount then
    cleared (session.setCode .range)
  else
    let (data, session) := session.engineRead answers (.column .blob index)
    let session := session.record (.read (.column .bytes index))
    if answers.columnBytes index < 0 then
      cleared (session.setCode .storage)
    else
      (.blobView .ok (some data) (some (answers.columnBytes index).toNat), session.setOk)

end Session

/-- The calls on a live statement. -/
inductive StatementCall where
  | bindParameterCount
  | bindParameterIndex (name : Option (List UInt8))
  | bindParameterName (index : Int)
  | bindNull (index : Int)
  | bindInt (index value : Int)
  | bindInt64 (index value : Int)
  | bindDouble (index : Int) (bits : UInt64)
  | bindText (index : Int) (value : Option (List UInt8)) (length : Int)
  | bindBlob (index : Int) (value : Option (List UInt8)) (length : Int)
  | step
  | reset
  | clearBindings
  | resetAndClearBindings
  | columnCount
  | columnName (index : Int)
  | columnType (index : Int)
  | columnInt (index : Int)
  | columnInt64 (index : Int)
  | columnDouble (index : Int)
  | columnText (index : Int)
  | columnBlob (index : Int)
  | columnBytes (index : Int)
  | columnBlobView (index : Int) (hasData hasLength : Bool)
deriving Repr, DecidableEq

namespace Session

def status (answer : Code × Session) : Reply × Session :=
  (.code (.code answer.1), answer.2)

def plain (answer : CValue × Session) : Reply × Session :=
  (.value answer.1, answer.2)

/-- One call on a live statement. -/
def call (answers : EngineAnswers) (session : Session) : StatementCall → Reply × Session
  | .bindParameterCount =>
      (.value (.int session.statement.parameterCount), session.setOk)
  | .bindParameterIndex name => plain (session.bindParameterIndex answers name)
  | .bindParameterName index =>
      plain (session.withStatementMetadata answers (.pointer none) (.parameterName index))
  | .bindNull index => status (session.bindValue answers index .null)
  | .bindInt index value => status (session.bindValue answers index (.int value))
  | .bindInt64 index value => status (session.bindValue answers index (.int64 value))
  | .bindDouble index bits => status (session.bindValue answers index (.double bits))
  | .bindText index value length => status (session.bindText answers index value length)
  | .bindBlob index value length => status (session.bindBlob answers index value length)
  | .step => (.code (session.step answers).1, (session.step answers).2)
  | .reset => status (session.reset answers)
  | .clearBindings => status (session.clearBindings answers)
  | .resetAndClearBindings => status (session.resetAndClearBindings answers)
  | .columnCount => (.value (.int session.statement.columnCount), session.setOk)
  | .columnName index =>
      plain (session.withColumnMetadata answers index (.pointer none) (.columnName index))
  | .columnType index => plain (session.withRowColumn answers index (.int 5) .type)
  | .columnInt index => plain (session.withRowColumn answers index (.int 0) .int)
  | .columnInt64 index => plain (session.withRowColumn answers index (.int 0) .int64)
  | .columnDouble index => plain (session.withRowColumn answers index (.double 0) .double)
  | .columnText index => plain (session.withRowColumn answers index (.pointer none) .text)
  | .columnBlob index => plain (session.withRowColumn answers index (.pointer none) .blob)
  | .columnBytes index => plain (session.withRowColumn answers index (.int 0) .bytes)
  | .columnBlobView index hasData hasLength =>
      session.columnBlobView answers index hasData hasLength

end Session

end Csgdb.Ffi
