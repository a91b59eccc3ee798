/-
Module: Csgdb.Ffi.Recompile
Purpose: The engine's side of prepared statements: the text of each, and the schema that
  it is compiled for, which a step from the reset state brings up to date.
Trusted boundary: how many result columns a text has in a schema is a parameter; schemas
  change in any way between and during calls, through any connection.
Main exports: SqlText, Compiled, EngineHandle, EngineHandle.call, EngineHandle.after
-/
import Csgdb.Ffi.Handle

namespace Csgdb.Ffi

def sqliteError : Int := 1

/-- The first statement of some SQL text. -/
structure SqlText where
  bytes : List UInt8
  length : Int
deriving Repr, DecidableEq

variable {Schema : Type}

/-- What the engine keeps of a prepared statement. -/
structure Compiled (Schema : Type) where
  text : SqlText
  preparedFor : Schema
  compiledFor : Schema
deriving Repr, DecidableEq

/-- An opened handle with the schema of its database and what the engine keeps of its
statements, under the same numbers. -/
structure EngineHandle (Schema : Type) where
  handle : CsgdbHandle
  schema : Schema
  compiled : List (Compiled Schema)
deriving Repr, DecidableEq

namespace EngineHandle

def opened (schema : Schema) : EngineHandle Schema where
  handle := .opened
  schema := schema
  compiled := []

-- The number of result columns of each text in each schema in which it compiles.
variable (columns : SqlText → Schema → Option Int) (state : EngineHandle Schema)

/-- The engine's number of result columns of a statement. -/
def currentColumns (number : Nat) : Option Int :=
  state.compiled[number]?.bind fun compiled => columns compiled.text compiled.compiledFor

/-- The statement of a step that starts a run: it was not stepped since it was reset or
prepared. -/
def starting : ApiCall → Option Nat
  | .statement number .step =>
      match state.handle.statements[number]? with
      | some (some statement) =>
          match statement.raw with
          | some trace => if lastStep trace = none then some number else none
          | none => none
      | _ => none
  | _ => none

/-- Whether a statement compiles in the current schema. -/
def compiles (number : Nat) : Bool :=
  match state.compiled[number]? with
  | some compiled => (columns compiled.text state.schema).isSome
  | none => false

/-- A preparation hands out a statement only for a text that compiles, and with the number
of columns that it has in the current schema. -/
def prepareAnswer (answers : DatabaseAnswers) (sql : List UInt8) (length : Int)
    (flags : UInt32) : PrepareAnswer :=
  let prepared := answers.prepare sql length flags
  match columns { bytes := sql, length := length } state.schema with
  | some count => { prepared with columnCount := count }
  | none => { prepared with hasRaw := false }

/-- A step that cannot compile its statement fails. -/
def stepAnswer (answers : EngineAnswers) (call : ApiCall) : ResultCall → Int
  | .step =>
      match state.starting call with
      | some number =>
          if state.compiles columns number then answers.result .step else sqliteError
      | none => answers.result .step
  | other => answers.result other

/-- What the engine answers, where the schema has a say in it. -/
def answersIn (answers : DatabaseAnswers) (call : ApiCall) : DatabaseAnswers :=
  { answers with
    engine := { answers.engine with result := state.stepAnswer columns answers.engine call }
    prepare := state.prepareAnswer columns answers }

/-- A preparation that hands out a statement adds it. -/
def addPrepared (sql : Option (List UInt8)) (length : Int) (after : CsgdbHandle) :
    List (Compiled Schema) :=
  match sql with
  | some sql =>
      if state.handle.statements.length < after.statements.length then
        state.compiled ++
          [{ text := { bytes := sql, length := length }, preparedFor := state.schema,
             compiledFor := state.schema }]
      else
        state.compiled
  | none => state.compiled

/-- A step that starts a run compiles its statement for the current schema. -/
def compileStarting (call : ApiCall) : List (Compiled Schema) :=
  match state.starting call with
  | some number =>
      if state.compiles columns number then
        state.compiled.modify number fun compiled =>
          { compiled with compiledFor := state.schema }
      else
        state.compiled
  | none => state.compiled

def recompile (call : ApiCall) (after : CsgdbHandle) : List (Compiled Schema) :=
  match call with
  | .prepareV2 sql length _ _ | .prepareV3 sql length _ _ _ =>
      state.addPrepared sql length after
  | call => state.compileStarting columns call

/-- One call, behind which the schema may be another one. -/
def call (answers : DatabaseAnswers) (call : ApiCall) (schema : Schema) :
    Reply × EngineHandle Schema :=
  let (reply, handle) := state.handle.call (state.answersIn columns answers call) call
  (reply,
    { handle := handle
      schema := schema
      compiled := state.recompile columns call handle })

/-- What happens on the handle, and the schema behind it. -/
def after (event : HandleEvent) (schema : Schema) : EngineHandle Schema :=
  match event with
  | .call answers call => (state.call columns answers call schema).2
  | .poison => { state with handle := state.handle.poison, schema := schema }

end EngineHandle

end Csgdb.Ffi
