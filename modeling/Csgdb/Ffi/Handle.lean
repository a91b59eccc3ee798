/-
Module: Csgdb.Ffi.Handle
Purpose: Database handles of the C interface: every call on an opened handle and on its
  statements, with the status word that they share.
Trusted boundary: what the database and the engine answer during one call are parameters.
Main exports: CString, DatabaseAnswers, CsgdbHandle, ApiCall, CsgdbHandle.call,
  HandleEvent
-/
import Csgdb.Ffi.Statement
import Csgdb.Pool.Metrics

namespace Csgdb.Ffi

open Pool (CheckpointMode CheckpointResult)

/-! ## Arguments and answers -/

/-- A string argument: null, bytes that are no UTF-8, or a text. -/
inductive CString where
  | null
  | invalidUtf8
  | text (value : String)
deriving Repr, DecidableEq

def cString : CString → Except Code String
  | .null | .invalidUtf8 => .error .invalidArgument
  | .text value => .ok value

/-- A null name stands for no name. -/
def optionalCString : CString → Except Code (Option String)
  | .null => .ok none
  | name => (cString name).map some

inductive TransactionState where
  | none
  | read
  | write
deriving Repr, DecidableEq

def TransactionState.value : TransactionState → Int
  | .none => 0
  | .read => 1
  | .write => 2

def checkpointMode : Int → Option CheckpointMode
  | 0 => some .passive
  | 1 => some .full
  | 2 => some .restart
  | 3 => some .truncate
  | _ => none

/-- A frame count as a C integer. -/
def optionalFrameCount : Option Nat → Int
  | some frames => if frames < 2 ^ 31 then frames else -1
  | none => -1

/-- What the engine answers to a preparation: a result, maybe a statement, the tail. -/
structure PrepareAnswer where
  result : Int
  hasRaw : Bool
  tail : CValue
  parameterCount : Int
  columnCount : Int

/-- What the database and the engine answer during one call. -/
structure DatabaseAnswers where
  engine : EngineAnswers
  executeBatch : String → Result Unit
  changes : Nat
  totalChanges : Nat
  lastInsertRowid : Int
  isAutocommit : Bool
  isReadonly : String → Result Bool
  transactionState : Option String → Result TransactionState
  setBusyTimeout : Nat → Result Unit
  setWalAutocheckpoint : Nat → Result Unit
  checkpointDatabase : Option String → CheckpointMode → Result CheckpointResult
  releaseMemory : Result Unit
  prepare : List UInt8 → Int → UInt32 → PrepareAnswer
  finalize : Int

/-- An opened handle, with its statements under their numbers; a finalized statement leaves
its number unused. -/
structure CsgdbHandle where
  shared : SharedDatabase
  statements : List (Option CsgdbStatement)
deriving Repr, DecidableEq

/-- A handle as a successful open hands it out. -/
def CsgdbHandle.opened : CsgdbHandle where
  shared := { poisoned := false, lastCode := .ok }
  statements := []

namespace CsgdbHandle

variable (handle : CsgdbHandle)

def currentCode : Code :=
  handle.shared.lastCode

/-- A thread panics while it holds the connection. -/
def poison : CsgdbHandle :=
  { handle with shared := { handle.shared with poisoned := true } }

def setOk : CsgdbHandle :=
  { handle with shared := handle.shared.setOk }

def setCode (code : Code) : Code × CsgdbHandle :=
  (code, { handle with shared := (handle.shared.setCode code).2 })

def setError (error : Error) : Code × CsgdbHandle :=
  handle.setCode (errorCode error)

/-- The end of a call that has a result of the database. -/
def finish (result : Result Unit) : Code × CsgdbHandle :=
  match result with
  | .ok () => (.ok, handle.setOk)
  | .error error => handle.setError error

/-! ## Calls on the handle -/

variable (answers : DatabaseAnswers)

/-- The argument and the lock are checked without publishing the failure. -/
def exec (sql : CString) : Code × CsgdbHandle :=
  match cString sql with
  | .error code => (code, handle)
  | .ok sql =>
      if handle.shared.poisoned then (.storage, handle)
      else handle.finish (answers.executeBatch sql)

def withDatabaseValue (default value : CValue) : CValue × CsgdbHandle :=
  if handle.shared.poisoned then (default, (handle.setCode .storage).2)
  else (value, handle.setOk)

/-- Counts of changed rows are clamped to a signed integer. -/
def clampedCount (count : Nat) : CValue :=
  .int (min count (2 ^ 63 - 1) : Nat)

def dbReadonly (name : CString) : CValue × CsgdbHandle :=
  match cString name with
  | .error code => (.int (-1), (handle.setCode code).2)
  | .ok name =>
      if handle.shared.poisoned then (.int (-1), (handle.setCode .storage).2)
      else
        match answers.isReadonly name with
        | .ok readonly => (.int (if readonly then 1 else 0), handle.setOk)
        | .error error => (.int (-1), (handle.setError error).2)

def txnState (name : CString) : CValue × CsgdbHandle :=
  match optionalCString name with
  | .error code => (.int (-1), (handle.setCode code).2)
  | .ok name =>
      if handle.shared.poisoned then (.int (-1), (handle.setCode .storage).2)
      else
        match answers.transactionState name with
        | .ok state => (.int state.value, handle.setOk)
        | .error error => (.int (-1), (handle.setError error).2)

def busyTimeout (timeoutMs : Int) : Code × CsgdbHandle :=
  if timeoutMs < 0 then handle.setCode .invalidArgument
  else if handle.shared.poisoned then handle.setCode .storage
  else handle.finish (answers.setBusyTimeout timeoutMs.toNat)

def walAutocheckpoint (frames : Int) : Code × CsgdbHandle :=
  if frames < 0 then handle.setCode .invalidArgument
  else if handle.shared.poisoned then handle.setCode .storage
  else handle.finish (answers.setWalAutocheckpoint frames.toNat)

/-- Unavailable frame counts are -1; a null output is absent. -/
def walCheckpointV2 (name : CString) (mode : Int) (hasWalFrames hasCheckpointed : Bool) :
    Reply × CsgdbHandle :=
  let answer (frames : Option Nat × Option Nat) (ended : Code × CsgdbHandle) :
      Reply × CsgdbHandle :=
    (.checkpoint ended.1 (if hasWalFrames then some (optionalFrameCount frames.1) else none)
      (if hasCheckpointed then some (optionalFrameCount frames.2) else none), ended.2)
  match optionalCString name with
  | .error code => answer (none, none) (handle.setCode code)
  | .ok name =>
      match checkpointMode mode with
      | none => answer (none, none) (handle.setCode .invalidArgument)
      | some mode =>
          if handle.shared.poisoned then answer (none, none) (handle.setCode .storage)
          else
            match answers.checkpointDatabase name mode with
            | .error error => answer (none, none) (handle.setError error)
            | .ok result =>
                answer (result.walFrames, result.checkpointedFrames)
                  (if result.busy then handle.setCode .busy else (.ok, handle.setOk))

def releaseMemory : Code × CsgdbHandle :=
  if handle.shared.poisoned then handle.setCode .storage
  else handle.finish answers.releaseMemory

/-- Compiles a statement.  A missing output is refused before the handle is looked at. -/
def prepareStatement (sql : Option (List UInt8)) (length : Int) (flags : UInt32)
    (hasStatement hasTail : Bool) : Reply × CsgdbHandle :=
  let answer (tail : CValue) (ended : Code × CsgdbHandle) : Reply × CsgdbHandle :=
    (.prepared ended.1 none (if hasTail then some tail else none), ended.2)
  if !hasStatement then (.prepared .invalidArgument none none, handle)
  else
    match sql with
    | none => answer (.pointer none) (handle.setCode .invalidArgument)
    | some sql =>
        if length < -1 ∨ flags &&& (~~~ 1) ≠ 0 then
          answer (.pointer none) (handle.setCode .invalidArgument)
        else if handle.shared.poisoned then
          answer (.pointer none) (handle.setCode .storage)
        else
          let prepared := answers.prepare sql length flags
          if prepared.result ≠ sqliteOk then
            answer prepared.tail (handle.setCode (mapSqliteCode prepared.result))
          else if prepared.hasRaw then
            let statement : CsgdbStatement :=
              { raw := some [], state := .ready, parameterCount := prepared.parameterCount,
                columnCount := prepared.columnCount }
            (.prepared .ok (some handle.statements.length)
                (if hasTail then some prepared.tail else none),
              { handle with statements := handle.statements ++ [some statement] }.setOk)
          else
            answer prepared.tail (.ok, handle.setOk)

/-! ## Calls on statements -/

/-- One call on the live statement with a number. -/
def statementCall (number : Nat) (call : StatementCall) : Reply × CsgdbHandle :=
  match handle.statements[number]? with
  | some (some statement) =>
      let (reply, session) :=
        ({ shared := handle.shared, statement := statement } : Session).call answers.engine call
      (reply,
        { shared := session.shared
          statements := handle.statements.set number (some session.statement) })
  | _ => (.nothing, handle)

def finalize (number : Nat) : Reply × CsgdbHandle :=
  match handle.statements[number]? with
  | some (some _) =>
      let (code, shared) := handle.shared.setSqliteResult answers.finalize
      (.code (.code code),
        { shared := shared, statements := handle.statements.set number none })
  | _ => (.nothing, handle)

end CsgdbHandle

/-! ## The interface -/

/-- The calls on an opened handle and on its statements. -/
inductive ApiCall where
  | exec (sql : CString)
  | changes64
  | totalChanges64
  | lastInsertRowid
  | getAutocommit
  | dbReadonly (name : CString)
  | txnState (name : CString)
  | busyTimeout (timeoutMs : Int)
  | walAutocheckpoint (frames : Int)
  | walCheckpointV2 (name : CString) (mode : Int) (hasWalFrames hasCheckpointed : Bool)
  | interrupt
  | releaseMemory
  | prepareV2 (sql : Option (List UInt8)) (length : Int) (hasStatement hasTail : Bool)
  | prepareV3 (sql : Option (List UInt8)) (length : Int) (flags : UInt32)
      (hasStatement hasTail : Bool)
  | statement (number : Nat) (call : StatementCall)
  | finalize (number : Nat)
  | errcode
  | errmsg
deriving Repr, DecidableEq

namespace CsgdbHandle

def status (answer : Code × CsgdbHandle) : Reply × CsgdbHandle :=
  (.code (.code answer.1), answer.2)

def plain (answer : CValue × CsgdbHandle) : Reply × CsgdbHandle :=
  (.value answer.1, answer.2)

/-- One call.  An interrupt leaves the handle as it is. -/
def call (answers : DatabaseAnswers) (handle : CsgdbHandle) : ApiCall → Reply × CsgdbHandle
  | .exec sql => status (handle.exec answers sql)
  | .changes64 => plain (handle.withDatabaseValue (.int 0) (clampedCount answers.changes))
  | .totalChanges64 =>
      plain (handle.withDatabaseValue (.int 0) (clampedCount answers.totalChanges))
  | .lastInsertRowid =>
      plain (handle.withDatabaseValue (.int 0) (.int answers.lastInsertRowid))
  | .getAutocommit =>
      plain (handle.withDatabaseValue (.int 0) (.int (if answers.isAutocommit then 1 else 0)))
  | .dbReadonly name => plain (handle.dbReadonly answers name)
  | .txnState name => plain (handle.txnState answers name)
  | .busyTimeout timeoutMs => status (handle.busyTimeout answers timeoutMs)
  | .walAutocheckpoint frames => status (handle.walAutocheckpoint answers frames)
  | .walCheckpointV2 name mode hasWalFrames hasCheckpointed =>
      handle.walCheckpointV2 answers name mode hasWalFrames hasCheckpointed
  | .interrupt => (.nothing, handle)
  | .releaseMemory => status (handle.releaseMemory answers)
  | .prepareV2 sql length hasStatement hasTail =>
      handle.prepareStatement answers sql length 0 hasStatement hasTail
  | .prepareV3 sql length flags hasStatement hasTail =>
      handle.prepareStatement answers sql length flags hasStatement hasTail
  | .statement number call => handle.statementCall answers number call
  | .finalize number => handle.finalize answers number
  | .errcode => (.code (.code handle.currentCode), handle)
  | .errmsg => (.message (errorMessage handle.currentCode), handle)

end CsgdbHandle

/-- What happens on a handle: a call, or a panic of a thread that holds the connection. -/
inductive HandleEvent where
  | call (answers : DatabaseAnswers) (call : ApiCall)
  | poison

end Csgdb.Ffi
