/-
Module: Csgdb.Storage.Row
Purpose: Result rows: the accessors of their columns, and the loop that reads the rows of a
  query.
Trusted boundary: the engine's wrapper hands out a cell of a row for an index in range; what
  an engine result means to it is documented.
Main exports: SqlValueRef, Row, Row.valueRef, Row.typed, mapRawStorageError, DrivesCursor,
  Statement.fetch, Statement.collect
-/
import Csgdb.Foundation.Cursor
import Csgdb.Storage.Bindings

namespace Csgdb.Storage

open Foundation

variable {R α : Type}

/-! ## Cells -/

/-- A cell as the wrapper hands it out; the bytes of a text are not checked yet. -/
inductive SqlValueRef (R : Type) where
  | null
  | integer (value : Int64)
  | real (value : R)
  | text (bytes : List UInt8)
  | blob (bytes : List UInt8)
deriving Repr, DecidableEq

/-- A borrowed result row. -/
structure Row (R : Type) where
  inner : List (SqlValueRef R)
deriving Repr, DecidableEq

def invalidUtf8 : Error :=
  { code := .invalidUtf8, message := "text value is not valid UTF-8" }

def invalidColumnType : Error :=
  { code := .invalidColumnType
    message := "result column has an incompatible storage class" }

/-- `str::from_utf8`. -/
def fromUtf8 (bytes : List UInt8) : Result String :=
  match String.fromUTF8? ⟨bytes.toArray⟩ with
  | some text => .ok text
  | none => .error invalidUtf8

def SqlValueRef.toValue : SqlValueRef R → Result (Value R)
  | .null => .ok .null
  | .integer value => .ok (.integer value)
  | .real value => .ok (.real value)
  | .text bytes => (fromUtf8 bytes).map .text
  | .blob bytes => .ok (.blob bytes)

namespace Row

variable (row : Row R)

def columnCount : Nat :=
  row.inner.length

/-- The wrapper's accessor. -/
def getRef (index : Nat) : Except EngineError (SqlValueRef R) :=
  match row.inner[index]? with
  | some cell => .ok cell
  | none => .error .invalidColumnIndex

def valueRef (index : Nat) : Result (Value R) :=
  if index ≥ row.columnCount then
    .error invalidColumnIndex
  else do
    let cell ← (row.getRef index).mapError mapStorageError
    cell.toValue

/-- Copies what `value_ref` borrows. -/
def value (index : Nat) : Result (Value R) :=
  row.valueRef index

def valueType (index : Nat) : Result ValueType :=
  (row.valueRef index).map Value.valueType

/-- The accessors that do not convert between storage classes. -/
def typed (pick : Value R → Option α) (index : Nat) : Result α := do
  match pick (← row.valueRef index) with
  | some value => .ok value
  | none => .error invalidColumnType

def getI64 (index : Nat) : Result Int64 :=
  row.typed (fun | .integer value => some value | _ => none) index

def getF64 (index : Nat) : Result R :=
  row.typed (fun | .real value => some value | _ => none) index

def getText (index : Nat) : Result String :=
  row.typed (fun | .text value => some value | _ => none) index

def getBlob (index : Nat) : Result (List UInt8) :=
  row.typed (fun | .blob value => some value | _ => none) index

/-- The values of all columns. -/
def values : List (Result (Value R)) :=
  (List.range row.columnCount).map row.value

variable {row}

theorem value_of_inner {index : Nat} {cell : SqlValueRef R}
    (there : row.inner[index]? = some cell) : row.value index = cell.toValue := by
  obtain ⟨inRange, -⟩ := List.getElem?_eq_some_iff.mp there
  unfold value valueRef getRef columnCount
  rw [if_neg (Nat.not_le.mpr inRange), there]
  rfl

theorem values_eq : row.values = row.inner.map SqlValueRef.toValue := by
  apply List.ext_getElem?
  intro index
  unfold values columnCount
  rw [List.getElem?_map, List.getElem?_map]
  by_cases inRange : index < row.inner.length
  · rw [List.getElem?_range inRange, List.getElem?_eq_getElem inRange, Option.map_some,
      Option.map_some, value_of_inner (List.getElem?_eq_getElem inRange)]
  · rw [List.getElem?_eq_none (by simpa using inRange),
      List.getElem?_eq_none (Nat.not_lt.mp inRange)]
    rfl

end Row

/-! ## Result codes -/

/-- The primary result in the low byte of an extended one. -/
def failureCode (result : Int) : FailureCode :=
  match result % 256 with
  | 5 => .databaseBusy
  | 6 => .databaseLocked
  | 8 => .readOnly
  | 9 => .operationInterrupted
  | 11 => .databaseCorrupt
  | 19 => .constraintViolation
  | 26 => .notADatabase
  | _ => .other

/-- What the wrapper makes of an engine result that is a failure. -/
def sqliteFailure (result : Int) : EngineError :=
  .sqliteFailure (failureCode result) result

def mapRawStorageError (result : Int) : Error :=
  mapStorageError (sqliteFailure result)

/-! ## The engine behind the wrapper -/

variable {World Raw Held Execution : Type} (wrapper : World → StatementEngine R Raw Held (Row R))

/-- The wrapper drives an engine statement, which is a cursor that runs its compiled query.
Rows advance it until they report the end or a failure, and reset it when they are dropped. -/
structure DrivesCursor (plan : Plan World Held (List (SqlValueRef R)) Execution Int)
    (hold : Value R → Held) (refusal : World → Held → Option Int)
    (view : Raw → Cursor Held (List (SqlValueRef R)) Execution Int)
    (streaming : Raw → Prop) : Prop where
  counted : ∀ world raw, (wrapper world).parameterCount raw = (view raw).bound.length
  binds : ∀ {world raw place value}, (view raw).position = .ready →
    place < (view raw).bound.length → refusal world (hold value) = none →
      ∃ next, (wrapper world).rawBindParameter (place + 1) value raw = (.ok (), next) ∧
        view next = (view raw).bind place (hold value)
  refuses : ∀ {world raw place value failure}, (view raw).position = .ready →
    place < (view raw).bound.length → refusal world (hold value) = some failure →
      ∃ next, (wrapper world).rawBindParameter (place + 1) value raw =
          (.error (sqliteFailure failure), next) ∧ view next = view raw
  clears : ∀ world raw,
    (view ((wrapper world).clearBindings raw)).bound.length = (view raw).bound.length ∧
      (view ((wrapper world).clearBindings raw)).position = (view raw).position
  executes : ∀ world {raw}, (view raw).position = .ready →
    view ((wrapper world).rawExecute raw).2 = view raw
  queries : ∀ world raw, view ((wrapper world).rawQuery raw) = view raw ∧
    streaming ((wrapper world).rawQuery raw)
  advancesCount : ∀ world raw,
    (view ((wrapper world).nextRow raw).2).bound.length = (view raw).bound.length
  advances : ∀ world {raw}, streaming raw → (view raw).position.CanStep →
    match (view raw).next plan world with
    | .row cells rest =>
        ∃ next, (wrapper world).nextRow raw = (.ok (some ⟨cells⟩), next) ∧
          view next = { view raw with position := .row cells rest } ∧ streaming next
    | .done => ((wrapper world).nextRow raw).1 = .ok none
    | .failed failure => ((wrapper world).nextRow raw).1 = .error (sqliteFailure failure)
  drops : ∀ world raw, view ((wrapper world).dropRows raw) = (view raw).reset

/-! ## Reading -/

namespace Statement

/-- One round of a loop over `next_row`, with the values of all columns. -/
def fetch (world : World) (statement : Statement Raw Held) :
    Fetched (List (Result (Value R))) Error × Statement Raw Held :=
  match statement.nextRow (wrapper world) with
  | (.ok (some row), statement) => (.row row.values, statement)
  | (.ok none, statement) => (.done, statement)
  | (.error error, statement) => (.failed error, statement)

/-- A query with the values of all its rows. -/
def collect (world : World) (statement : Statement Raw Held) (parameters : List (Value R))
    (worlds : List World) : Answer (List (Result (Value R))) Error :=
  match statement.queryValues (wrapper world) parameters with
  | (.ok (), statement) =>
      let (rows, ending) := readRows (fetch wrapper) worlds statement
      .answered rows ending
  | (.error error, _) => .refused error

end Statement

end Csgdb.Storage
