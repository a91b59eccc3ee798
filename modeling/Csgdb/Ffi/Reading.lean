/-
Module: Csgdb.Ffi.Reading
Purpose: A C statement together with the engine statement behind it, and the loop of a C
  program that binds parameters, steps and reads columns as the interface documents it.
Trusted boundary: the calls on an engine statement and the memory that it lends are
  parameters, with what the engine documents about them.
Main exports: RawEngine, RawEngine.Documented, LiveStatement, LiveStatement.call,
  LiveStatement.run, LiveStatement.readColumn, LiveStatement.fetch, LiveStatement.query
-/
import Csgdb.Ffi.Statement
import Csgdb.Foundation.Cursor
import Csgdb.Storage.Row

namespace Csgdb.Ffi

open Foundation
open Storage (SqlValueRef)

variable {World Raw Held Execution : Type}

/-- The cells of a result row; a real is its bits. -/
abbrev Cells := List (SqlValueRef UInt64)

/-! ## The engine statement -/

/-- The calls on an engine statement and the memory that it lends to the caller. -/
structure RawEngine (World Raw : Type) where
  result : World → ResultCall → Raw → Int × Raw
  value : ReadCall → Raw → CValue
  columnBytes : Raw → Int → Int
  afterRead : ReadCall → Raw → Raw
  /-- What can be read from an address on. -/
  memory : Raw → Nat → List UInt8

namespace RawEngine

variable (engine : RawEngine World Raw)

/-- What the engine statement answers as it stands. -/
def answers (world : World) (raw : Raw) : EngineAnswers where
  result call := (engine.result world call raw).1
  read call := engine.value call raw
  columnBytes := engine.columnBytes raw

/-- The engine statement behind a call that was made on it. -/
def apply (world : World) (raw : Raw) : EngineEvent → Raw
  | .result call _ => (engine.result world call raw).2
  | .read call => engine.afterRead call raw

end RawEngine

/-- `CSGDB_INTEGER` and the other storage classes. -/
def typeCode : SqlValueRef UInt64 → Int
  | .integer _ => 1
  | .real _ => 2
  | .text _ => 3
  | .blob _ => 4
  | .null => 5

/-- Accessors that read a cell as it is stored, without a conversion. -/
def ColumnRead.Fits : ColumnRead → SqlValueRef UInt64 → Prop
  | .type, _ | .int64, .integer _ | .double, .real _ | .text, .text _ | .bytes, .text _
  | .blob, .blob _ | .bytes, .blob _ => True
  | _, _ => False

/-- Results that are neither a success, nor a row, nor the end. -/
def IsFailure (result : Int) : Prop :=
  mapSqliteCode result ≠ .ok ∧ result ≠ sqliteRow ∧ result ≠ sqliteDone

/-- What a step returns. -/
def stepResult : Advance Cells Execution Int → Int
  | .row _ _ => sqliteRow
  | .done => sqliteDone
  | .failed failure => failure

section Documented

variable (plan : Plan World Held Cells Execution Int) (hold : BoundValue → Held)
  (refusal : World → Held → Option Int) (view : Raw → Cursor Held Cells Execution Int)
  (fresh : Raw → Nat → Prop)

/-- The engine statement stands on a row with a cell that no accessor has converted. -/
def Shows (raw : Raw) (index : Nat) (cell : SqlValueRef UInt64) : Prop :=
  fresh raw index ∧ ∃ row rest, (view raw).position = .row row rest ∧ row[index]? = some cell

/-- An engine statement is a cursor that runs its compiled query.  Parameters are numbered
from one.  A pointer stays good while the accessors fit their cells. -/
structure RawEngine.Documented (engine : RawEngine World Raw) (columns : Nat)
    (unbound : Held) : Prop where
  keepsCount : ∀ world call raw,
    (view (engine.result world call raw).2).bound.length = (view raw).bound.length
  readsKeepCount : ∀ call raw,
    (view (engine.afterRead call raw)).bound.length = (view raw).bound.length
  resets : ∀ world raw, view (engine.result world .reset raw).2 = (view raw).reset
  clears : ∀ world {raw}, (view raw).position = .ready →
    view (engine.result world .clearBindings raw).2 =
      { bound := List.replicate (view raw).bound.length unbound, position := .ready }
  binds : ∀ {world raw place value}, (view raw).position = .ready →
    place < (view raw).bound.length → refusal world (hold value) = none →
      (engine.result world (.bind (place + 1 : Nat) value) raw).1 = sqliteOk ∧
        view (engine.result world (.bind (place + 1 : Nat) value) raw).2 =
          (view raw).bind place (hold value)
  refuses : ∀ {world raw place value failure}, (view raw).position = .ready →
    place < (view raw).bound.length → refusal world (hold value) = some failure →
      (engine.result world (.bind (place + 1 : Nat) value) raw).1 = failure
  refusals : ∀ {world held failure}, refusal world held = some failure → IsFailure failure
  steps : ∀ world {raw}, (view raw).position.CanStep →
    (engine.result world .step raw).1 = stepResult ((view raw).next plan world) ∧
      view (engine.result world .step raw).2 = (view raw).step plan world ∧
      ∀ index, fresh (engine.result world .step raw).2 index
  failures : ∀ {world execution failure}, plan.advance world execution = .failed failure →
    IsFailure failure
  width : ∀ {world execution row rest}, plan.advance world execution = .row row rest →
    row.length = columns
  fits : ∀ {raw index cell} (read : ColumnRead), Shows view fresh raw index cell →
    read.Fits cell →
      view (engine.afterRead (.column read index) raw) = view raw ∧
        ∀ other, fresh raw other → fresh (engine.afterRead (.column read index) raw) other
  types : ∀ {raw index cell}, Shows view fresh raw index cell →
    engine.value (.column .type index) raw = .int (typeCode cell)
  integers : ∀ {raw index} {value : Int64}, Shows view fresh raw index (.integer value) →
    engine.value (.column .int64 index) raw = .int value.toInt
  reals : ∀ {raw index bits}, Shows view fresh raw index (.real bits) →
    engine.value (.column .double index) raw = .double bits
  texts : ∀ {raw index bytes}, Shows view fresh raw index (.text bytes) →
    ∃ address, engine.value (.column .text index) raw = .pointer (some address) ∧
      (engine.memory (engine.afterRead (.column .bytes index)
        (engine.afterRead (.column .text index) raw)) address).take bytes.length = bytes
  blobs : ∀ {raw index bytes}, Shows view fresh raw index (.blob bytes) →
    ∃ pointer, engine.value (.column .blob index) raw = .pointer pointer ∧
      (bytes = [] ∨ ∃ address, pointer = some address ∧
        (engine.memory (engine.afterRead (.column .bytes index)
          (engine.afterRead (.column .blob index) raw)) address).take bytes.length = bytes)
  lengths : ∀ {raw index bytes},
    Shows view fresh raw index (.text bytes) ∨ Shows view fresh raw index (.blob bytes) →
      engine.columnBytes raw index = bytes.length

end Documented

/-! ## Live statements -/

/-- A C statement and the engine statement behind it. -/
structure LiveStatement (Raw : Type) where
  session : Session
  raw : Raw

/-- The engine calls that were made between two states of a statement, the oldest first. -/
def madeSince (before after : Option RawStatement) : List EngineEvent :=
  match before, after with
  | some before, some after => (after.take (after.length - before.length)).reverse
  | _, _ => []

/-- What a call returns, as an integer. -/
def Reply.integer : Reply → Int
  | .value (.int number) => number
  | _ => 0

/-- What a call returns, as a double. -/
def Reply.double : Reply → UInt64
  | .value (.double bits) => bits
  | _ => 0

/-- What a call returns, as a pointer. -/
def Reply.pointer : Reply → Option Nat
  | .value (.pointer address) => address
  | .blobView _ (some (.pointer address)) _ => address
  | _ => none

/-- The length that a blob view leaves. -/
def Reply.length : Reply → Nat
  | .blobView _ _ (some length) => length
  | _ => 0

/-- How a C program binds a value. -/
def bindCall (index : Int) : Value UInt64 → StatementCall
  | .null => .bindNull index
  | .integer value => .bindInt64 index value.toInt
  | .real bits => .bindDouble index bits
  | .text text => .bindText index (some text.toUTF8.data.toList) text.toUTF8.data.toList.length
  | .blob bytes => .bindBlob index (some bytes) bytes.length

/-- What the engine is given for a value. -/
def boundValue : Value UInt64 → BoundValue
  | .null => .null
  | .integer value => .int64 value.toInt
  | .real bits => .double bits
  | .text text => .text text.toUTF8.data.toList
  | .blob bytes => .blob bytes

/-- Values whose bytes fit into the address space. -/
def Addressable : Value UInt64 → Prop
  | .null | .integer _ | .real _ => True
  | .text text => text.toUTF8.data.toList.length < 9223372036854775808
  | .blob bytes => bytes.length < 9223372036854775808

namespace LiveStatement

variable (engine : RawEngine World Raw)

/-- A call of the interface, which answers with what the engine statement does. -/
def call (world : World) (live : LiveStatement Raw) (call : StatementCall) :
    Reply × LiveStatement Raw :=
  let (reply, session) := live.session.call (engine.answers world live.raw) call
  let made := madeSince live.session.statement.raw session.statement.raw
  (reply, { session := session, raw := made.foldl (engine.apply world) live.raw })

def run (live : LiveStatement Raw) (history : List (World × StatementCall)) :
    LiveStatement Raw :=
  history.foldl (fun live now => (live.call engine now.1 now.2).2) live

/-- The code that `csgdb_errcode` reports. -/
def errcode (live : LiveStatement Raw) : Code :=
  live.session.shared.lastCode

/-- The bytes behind a pointer of the engine. -/
def bytesAt (live : LiveStatement Raw) (pointer : Option Nat) (length : Nat) : List UInt8 :=
  match pointer with
  | some address => (engine.memory live.raw address).take length
  | none => []

/-! ## A C program -/

/-- Binds values from a parameter on, up to the first that is refused. -/
def bindFrom (world : World) : Nat → List (Value UInt64) → LiveStatement Raw →
    Except Code Unit × LiveStatement Raw
  | _, [], live => (.ok (), live)
  | index, value :: rest, live =>
      let (reply, live) := live.call engine world (bindCall index value)
      if reply = .code (.code .ok) then
        bindFrom world (index + 1) rest live
      else
        (.error live.errcode, live)

/-- Reads a column with the accessor of its storage class. -/
def readColumn (world : World) (live : LiveStatement Raw) (index : Nat) :
    SqlValueRef UInt64 × LiveStatement Raw :=
  let (type, live) := live.call engine world (.columnType index)
  match type.integer with
  | 1 =>
      let (value, live) := live.call engine world (.columnInt64 index)
      (.integer (Int64.ofInt value.integer), live)
  | 2 =>
      let (value, live) := live.call engine world (.columnDouble index)
      (.real value.double, live)
  | 3 =>
      let (text, live) := live.call engine world (.columnText index)
      let (length, live) := live.call engine world (.columnBytes index)
      (.text (live.bytesAt engine text.pointer length.integer.toNat), live)
  | 4 =>
      let (viewed, live) := live.call engine world (.columnBlobView index true true)
      (.blob (live.bytesAt engine viewed.pointer viewed.length), live)
  | _ => (.null, live)

def readColumns (world : World) : Nat → Nat → LiveStatement Raw → Cells × LiveStatement Raw
  | 0, _, live => ([], live)
  | remaining + 1, index, live =>
      let (cell, live) := readColumn engine world live index
      let (cells, live) := readColumns world remaining (index + 1) live
      (cell :: cells, live)

/-- One round of `while (csgdb_step(stmt) == CSGDB_ROW)`. -/
def fetch (world : World) (live : LiveStatement Raw) :
    Fetched Cells Code × LiveStatement Raw :=
  let (reply, live) := live.call engine world .step
  if reply = .code .row then
    let (count, live) := live.call engine world .columnCount
    let (cells, live) := readColumns engine world count.integer.toNat 0 live
    (.row cells, live)
  else if reply = .code .done then
    (.done, live)
  else
    (.failed live.errcode, live)

/-- Uses a statement again: it is reset and cleared, bound and read. -/
def query (world : World) (live : LiveStatement Raw) (parameters : List (Value UInt64))
    (worlds : List World) : Answer Cells Code :=
  let (_, live) := live.call engine world .resetAndClearBindings
  match bindFrom engine world 1 parameters live with
  | (.ok (), live) =>
      let (rows, ending) := readRows (fetch engine) worlds live
      .answered rows ending
  | (.error code, _) => .refused code

end LiveStatement

end Csgdb.Ffi
