/-
Module: Csgdb.Proofs.StatementCursor
Purpose: A C program that follows the documentation of the interface reads, through a
  statement with any past, the rows of a fresh cursor.
Trusted boundary: the engine statement behaves as it documents.
Main exports: LiveStatement.Usable, run_usable, Stands, bindFrom_eq, readColumn_eq, fetches,
  query_eq
-/
import Csgdb.Ffi.Reading
import Csgdb.Foundation.Overwrite
import Csgdb.Proofs.StatementAutomaton

namespace Csgdb.Ffi

open Foundation
open Storage (SqlValueRef)

variable {World Raw Held Execution : Type} {engine : RawEngine World Raw}
  {plan : Plan World Held Cells Execution Int} {hold : BoundValue → Held}
  {refusal : World → Held → Option Int} {view : Raw → Cursor Held Cells Execution Int}
  {fresh : Raw → Nat → Prop} {columns : Nat} {unbound : Held}

/-! ## Calls that get to the engine -/

namespace Session

variable (answers : EngineAnswers) {session : Session} {trace : RawStatement}

theorem resetAndClearBindings_statement (past : session.statement.raw = some trace) :
    (session.call answers .resetAndClearBindings).2.statement =
      { session.statement with
        raw := some (.result .clearBindings (answers.result .clearBindings) ::
          .result .reset (answers.result .reset) :: trace)
        state := .ready } := by
  have resetTrace : ((session.record (.result .reset (answers.result .reset))).setState
      .ready).statement.raw = some (.result .reset (answers.result .reset) :: trace) := by
    rw [setState_statement, record_statement past]
  simp only [call, status, resetAndClearBindings, engineResult_eq past,
    engineResult_eq resetTrace]
  split
  case isTrue =>
    rw [setSqliteResult_statement, record_statement resetTrace, setState_statement,
      record_statement past]
  case isFalse =>
    rw [setCode_statement, record_statement resetTrace, setState_statement,
      record_statement past]

theorem bindValue_of_ready (past : session.statement.raw = some trace)
    (ready : session.statement.state = .ready) {index : Int}
    (inRange : 1 ≤ index ∧ index ≤ session.statement.parameterCount) (value : BoundValue) :
    session.bindValue answers index value =
      (session.record (.result (.bind index value)
        (answers.result (.bind index value)))).setSqliteResult
          (answers.result (.bind index value)) := by
  unfold bindValue
  rw [if_neg (by omega), if_neg (by simp [ready, past]), engineResult_eq past]

theorem step_of_unfinished (past : session.statement.raw = some trace)
    (notDone : session.statement.state ≠ .done) (notFailed : session.statement.state ≠ .failed) :
    (session.call answers .step).2.statement =
        { session.statement with
          raw := some (.result .step (answers.result .step) :: trace)
          state := .stepped (answers.result .step) } ∧
      (session.call answers .step).1 = .code (
        if answers.result .step = sqliteRow then .row
        else if answers.result .step = sqliteDone then .done
        else .code (mapSqliteCode (answers.result .step))) ∧
      (answers.result .step ≠ sqliteRow → answers.result .step ≠ sqliteDone →
        (session.call answers .step).2.shared.lastCode =
          mapSqliteCode (answers.result .step)) := by
  simp only [call, step, StatementState.stepped]
  rw [if_neg (by simp [notDone, notFailed]), engineResult_eq past]
  by_cases onRow : answers.result .step = sqliteRow
  · simp [onRow, record_statement past]
  · by_cases atEnd : answers.result .step = sqliteDone
    · simp [show sqliteDone ≠ sqliteRow by decide, atEnd, record_statement past]
    · simp [onRow, atEnd, record_statement past, setCode, SharedDatabase.setCode]

theorem withRowColumn_of_row (past : session.statement.raw = some trace)
    (onRow : session.statement.state = .row) {index : Int}
    (inRange : 0 ≤ index ∧ index < session.statement.columnCount) (default : CValue)
    (read : ColumnRead) :
    session.withRowColumn answers index default read =
      (answers.value (.column read index),
        (session.record (.read (.column read index))).setOk) := by
  unfold withRowColumn
  rw [if_neg (by simp [onRow, past]), if_neg (by omega)]
  rfl

theorem columnBlobView_of_row (past : session.statement.raw = some trace)
    (onRow : session.statement.state = .row) {index : Int}
    (inRange : 0 ≤ index ∧ index < session.statement.columnCount) {length : Nat}
    (bytes : answers.columnBytes index = length) :
    session.call answers (.columnBlobView index true true) =
      (.blobView .ok (some (answers.read (.column .blob index))) (some length),
        ((session.record (.read (.column .blob index))).record
          (.read (.column .bytes index))).setOk) := by
  change session.columnBlobView answers index true true = _
  unfold columnBlobView
  rw [if_neg (by simp), if_neg (by simp [onRow, past]), if_neg (by omega)]
  dsimp only
  rw [if_neg (by omega), bytes]
  rfl

theorem bindCall_eq (index : Int)
    {value : Value UInt64} (addressable : Addressable value) :
    session.call answers (bindCall index value) =
      status (session.bindValue answers index (boundValue value)) := by
  cases value with
  | null | integer _ | real _ => rfl
  | text text =>
      have short : text.toUTF8.data.toList.length < 9223372036854775808 := addressable
      have length : byteLength (text.toUTF8.data.toList.length : Int) =
          some text.toUTF8.data.toList.length := by
        unfold byteLength
        rw [if_pos (by omega), Int.toNat_natCast]
      simp only [bindCall, call, bindText, boundValue]
      rw [if_neg (by omega), length]
      dsimp only
      rw [List.take_length]
  | blob bytes =>
      have short : bytes.length < 9223372036854775808 := addressable
      have length : byteLength (bytes.length : Int) = some bytes.length := by
        unfold byteLength
        rw [if_pos (by omega), Int.toNat_natCast]
      simp only [bindCall, call, bindBlob, boundValue]
      rw [length]
      dsimp only
      rw [List.take_length]

theorem bind_of_ready (past : session.statement.raw = some trace)
    (ready : session.statement.state = .ready) {index : Int}
    (inRange : 1 ≤ index ∧ index ≤ session.statement.parameterCount) {value : Value UInt64}
    (addressable : Addressable value) {result : Int}
    (answered : answers.result (.bind index (boundValue value)) = result) :
    (session.call answers (bindCall index value)).2.statement =
        { session.statement with
          raw := some (.result (.bind index (boundValue value)) result :: trace) } ∧
      (session.call answers (bindCall index value)).1 =
        .code (.code (if result = sqliteOk then .ok else mapSqliteCode result)) ∧
      (result ≠ sqliteOk → (session.call answers (bindCall index value)).2.shared.lastCode =
        mapSqliteCode result) := by
  rw [bindCall_eq answers index addressable, bindValue_of_ready answers past ready inRange,
    answered]
  refine ⟨record_statement past _, ?_, fun failed => ?_⟩
  · simp only [status, setSqliteResult, SharedDatabase.setSqliteResult]
    split <;> rfl
  · simp only [status, setSqliteResult, SharedDatabase.setSqliteResult]
    rw [if_neg failed]
    rfl

end Session

/-! ## Engine calls behind a call -/

theorem madeSince_append (trace events : RawStatement) :
    madeSince (some trace) (some (events ++ trace)) = events.reverse := by
  simp only [madeSince]
  rw [List.length_append, Nat.add_sub_cancel, List.take_left]

namespace LiveStatement

variable {live : LiveStatement Raw} {trace : RawStatement}

/-- The session behind a call. -/
def sessionAfter (engine : RawEngine World Raw) (world : World) (live : LiveStatement Raw)
    (call : StatementCall) : Session :=
  (live.session.call (engine.answers world live.raw) call).2

/-- The engine statement goes through the calls that were made on it. -/
theorem call_eq {world : World} {call : StatementCall} {events : RawStatement}
    (past : live.session.statement.raw = some trace)
    (made : (sessionAfter engine world live call).statement.raw = some (events ++ trace)) :
    live.call engine world call =
      ((live.session.call (engine.answers world live.raw) call).1,
        { session := sessionAfter engine world live call
          raw := events.reverse.foldl (engine.apply world) live.raw }) := by
  have same : madeSince live.session.statement.raw
      (sessionAfter engine world live call).statement.raw = events.reverse := by
    rw [past, made, madeSince_append]
  unfold LiveStatement.call
  rw [← same]
  rfl

theorem call_eq_one {world : World} {call : StatementCall} {event : EngineEvent}
    (past : live.session.statement.raw = some trace)
    (made : (sessionAfter engine world live call).statement.raw = some (event :: trace)) :
    live.call engine world call =
      ((live.session.call (engine.answers world live.raw) call).1,
        { session := sessionAfter engine world live call
          raw := engine.apply world live.raw event }) :=
  @call_eq _ _ engine live trace world call [event] past made

/-! ## Any past -/

/-- A statement that was prepared and not finalized. -/
structure Usable (view : Raw → Cursor Held Cells Execution Int) (columns : Nat)
    (live : LiveStatement Raw) : Prop where
  past : ∃ trace, live.session.statement.raw = some trace
  parameters : live.session.statement.parameterCount = (view live.raw).bound.length
  columnCount : live.session.statement.columnCount = columns

theorem count_foldl
    (documented : engine.Documented plan hold refusal view fresh columns unbound)
    (world : World) (events : List EngineEvent) (raw : Raw) :
    (view (events.foldl (engine.apply world) raw)).bound.length = (view raw).bound.length := by
  induction events generalizing raw with
  | nil => rfl
  | cons event rest inductionHypothesis =>
      rw [List.foldl_cons, inductionHypothesis]
      cases event with
      | result call result => exact documented.keepsCount world call raw
      | read call => exact documented.readsKeepCount call raw

/-- No call changes the counts. -/
theorem effect_counts {statement after : CsgdbStatement} {trace : RawStatement}
    (past : statement.raw = some trace) (effect : CallEffect statement trace after) :
    (∃ events, after.raw = some (events ++ trace)) ∧
      after.parameterCount = statement.parameterCount ∧
      after.columnCount = statement.columnCount := by
  cases effect with
  | unchanged => exact ⟨⟨[], past⟩, rfl, rfl⟩
  | resetAndCleared | viewed => exact ⟨⟨[_, _], rfl⟩, rfl, rfl⟩
  | bound | cleared | stepped | reset | named | parameterIndex | parameterName | column =>
      exact ⟨⟨[_], rfl⟩, rfl, rfl⟩

theorem call_usable
    (documented : engine.Documented plan hold refusal view fresh columns unbound)
    (usable : live.Usable view columns) (world : World) (call : StatementCall) :
    (live.call engine world call).2.Usable view columns ∧
      (view (live.call engine world call).2.raw).bound.length =
        (view live.raw).bound.length := by
  obtain ⟨trace, past⟩ := usable.past
  have effect : CallEffect live.session.statement trace
      (sessionAfter engine world live call).statement :=
    (Session.call_effect (engine.answers world live.raw) past call).1
  obtain ⟨⟨events, made⟩, sameParameters, sameColumns⟩ := effect_counts past effect
  rw [call_eq past made]
  have sameCount := count_foldl documented world events.reverse live.raw
  exact ⟨⟨⟨_, made⟩, by rw [sameParameters, usable.parameters, sameCount],
    sameColumns.trans usable.columnCount⟩, sameCount⟩

theorem run_usable
    (documented : engine.Documented plan hold refusal view fresh columns unbound)
    (usable : live.Usable view columns) (history : List (World × StatementCall)) :
    (live.run engine history).Usable view columns ∧
      (view (live.run engine history).raw).bound.length = (view live.raw).bound.length := by
  induction history generalizing live with
  | nil => exact ⟨usable, rfl⟩
  | cons now later inductionHypothesis =>
      obtain ⟨usableNext, sameCount⟩ := call_usable documented usable now.1 now.2
      obtain ⟨usableLast, sameLast⟩ := inductionHypothesis usableNext
      exact ⟨usableLast, sameLast.trans sameCount⟩

/-! ## Standing where a cursor stands -/

/-- The state word of a position. -/
def word : Position Cells Execution Int → StatementState
  | .ready => .ready
  | .row _ _ => .row
  | .done => .done
  | .failed _ => .failed

theorem word_of_canStep {position : Position Cells Execution Int} (canStep : position.CanStep) :
    word position ≠ .done ∧ word position ≠ .failed := by
  cases position with
  | ready | row _ _ => exact ⟨nofun, nofun⟩
  | done | failed _ => exact canStep.elim

/-- A usable statement at a cursor.  On a row, no cell has been converted. -/
structure Stands (view : Raw → Cursor Held Cells Execution Int) (fresh : Raw → Nat → Prop)
    (columns : Nat) (live : LiveStatement Raw) (cursor : Cursor Held Cells Execution Int) :
    Prop where
  usable : live.Usable view columns
  sees : view live.raw = cursor
  state : live.session.statement.state = word cursor.position
  onRow : ∀ row rest, cursor.position = .row row rest →
    row.length = columns ∧ ∀ index, fresh live.raw index

variable {cursor : Cursor Held Cells Execution Int}

/-- After a reset nothing is bound, whatever the statement was used for. -/
theorem resetAndClear_stands
    (documented : engine.Documented plan hold refusal view fresh columns unbound)
    (usable : live.Usable view columns) (world : World) :
    Stands view fresh columns (live.call engine world .resetAndClearBindings).2
      { bound := List.replicate (view live.raw).bound.length unbound, position := .ready } := by
  obtain ⟨trace, past⟩ := usable.past
  have after := (call_usable documented usable world .resetAndClearBindings).1
  set answers := engine.answers world live.raw
  have effect := Session.resetAndClearBindings_statement answers past
  have made : (sessionAfter engine world live .resetAndClearBindings).statement.raw =
      some ([.result .clearBindings (answers.result .clearBindings),
        .result .reset (answers.result .reset)] ++ trace) :=
    congrArg CsgdbStatement.raw effect
  have sees : view (live.call engine world .resetAndClearBindings).2.raw =
      { bound := List.replicate (view live.raw).bound.length unbound, position := .ready } := by
    rw [call_eq past made]
    have ready : (view (engine.result world .reset live.raw).2).position = .ready := by
      rw [documented.resets]
      rfl
    have cleared := documented.clears world ready
    rw [documented.keepsCount] at cleared
    exact cleared
  refine ⟨after, sees, ?_, fun row rest => nofun⟩
  rw [call_eq past made]
  exact congrArg CsgdbStatement.state effect

/-! ## Binding -/

/-- One value is bound, or the code of its refusal is reported. -/
theorem bind_stands
    (documented : engine.Documented plan hold refusal view fresh columns unbound)
    (stands : Stands view fresh columns live cursor) (ready : cursor.position = .ready)
    (place : Nat) (inRange : place < cursor.bound.length) {value : Value UInt64}
    (addressable : Addressable value) (world : World) :
    match refusal world (hold (boundValue value)) with
    | none =>
        (live.call engine world (bindCall (place + 1 : Nat) value)).1 = .code (.code .ok) ∧
          Stands view fresh columns (live.call engine world (bindCall (place + 1 : Nat) value)).2
            (cursor.bind place (hold (boundValue value)))
    | some failure =>
        (live.call engine world (bindCall (place + 1 : Nat) value)).1 ≠ .code (.code .ok) ∧
          (live.call engine world (bindCall (place + 1 : Nat) value)).2.errcode =
            mapSqliteCode failure := by
  obtain ⟨trace, past⟩ := stands.usable.past
  have usableAfter := (call_usable documented stands.usable world
    (bindCall (place + 1 : Nat) value)).1
  have isReady : live.session.statement.state = .ready := by rw [stands.state, ready]; rfl
  have inside : 1 ≤ ((place + 1 : Nat) : Int) ∧
      ((place + 1 : Nat) : Int) ≤ live.session.statement.parameterCount := by
    rw [stands.usable.parameters, stands.sees]
    omega
  obtain ⟨after, reply, code⟩ := Session.bind_of_ready
    (engine.answers world live.raw) past isReady inside addressable rfl
  have went := call_eq_one past (congrArg CsgdbStatement.raw after)
  have sees := stands.sees
  subst sees
  rw [went] at usableAfter ⊢
  cases limit : refusal world (hold (boundValue value)) with
  | none =>
      obtain ⟨success, sees⟩ := documented.binds ready inRange limit
      refine ⟨?_, usableAfter, sees, ?_, fun row rest onRow => ?_⟩
      · rw [reply]
        exact congrArg (Reply.code ∘ Returned.code) (if_pos success)
      · exact (congrArg CsgdbStatement.state after).trans stands.state
      · exact absurd (ready.symm.trans onRow) nofun
  | some failure =>
      have failed := documented.refuses ready inRange limit
      have notOk := (documented.refusals limit).1
      have notSuccess : failure ≠ sqliteOk := fun same => notOk (by rw [same]; rfl)
      have returned : (engine.answers world live.raw).result
          (.bind (place + 1 : Nat) (boundValue value)) = failure := failed
      rw [returned] at reply code
      rw [if_neg notSuccess] at reply
      refine ⟨?_, code notSuccess⟩
      rw [reply]
      simpa using notOk

/-- A pass over the parameters binds all of them, or reports the first that is refused. -/
theorem bindFrom_stands
    (documented : engine.Documented plan hold refusal view fresh columns unbound)
    (world : World) {values : List (Value UInt64)}
    (addressable : ∀ value ∈ values, Addressable value)
    (stands : Stands view fresh columns live cursor) (ready : cursor.position = .ready)
    (place : Nat) (inRange : place + values.length ≤ cursor.bound.length) :
    match values.findSome? (fun value => refusal world (hold (boundValue value))) with
    | none =>
        ∃ after, bindFrom engine world (place + 1) values live = (.ok (), after) ∧
          Stands view fresh columns after
            { cursor with
              bound := overwrite cursor.bound place
                (values.map fun value => hold (boundValue value)) }
    | some failure =>
        (bindFrom engine world (place + 1) values live).1 = .error (mapSqliteCode failure) := by
  induction values generalizing live cursor place with
  | nil =>
      refine ⟨live, rfl, ?_⟩
      rw [List.map_nil, overwrite_nil]
      exact stands
  | cons value rest inductionHypothesis =>
      rw [List.length_cons] at inRange
      have one := bind_stands documented stands ready place (by omega)
        (addressable value List.mem_cons_self) world
      unfold bindFrom
      rw [List.findSome?_cons]
      dsimp only
      cases limit : refusal world (hold (boundValue value)) with
      | none =>
          rw [limit] at one
          obtain ⟨reply, bound⟩ := one
          rw [if_pos reply]
          have rest := inductionHypothesis
            (fun value among => addressable value (List.mem_cons_of_mem _ among)) bound ready
            (place + 1)
            (by simp only [Cursor.bind, List.length_set]; omega)
          simp only [Cursor.bind] at rest
          rw [overwrite_set (by omega)] at rest
          exact rest
      | some failure =>
          rw [limit] at one
          rw [if_neg one.1]
          exact congrArg Except.error one.2

/-! ## Reading -/

namespace Stands

variable {row : Cells} {rest : Execution} {index : Nat} {cell : SqlValueRef UInt64}

theorem shows (stands : Stands view fresh columns live cursor)
    (onRow : cursor.position = .row row rest) (there : row[index]? = some cell) :
    Shows view fresh live.raw index cell := by
  refine ⟨(stands.onRow row rest onRow).2 index, row, rest, ?_, there⟩
  rw [stands.sees, onRow]

theorem inside (stands : Stands view fresh columns live cursor)
    (onRow : cursor.position = .row row rest) (there : row[index]? = some cell) :
    0 ≤ (index : Int) ∧ (index : Int) < live.session.statement.columnCount := by
  have inRow := (List.getElem?_eq_some_iff.mp there).1
  have width := (stands.onRow row rest onRow).1
  rw [stands.usable.columnCount]
  omega

theorem isRow (stands : Stands view fresh columns live cursor)
    (onRow : cursor.position = .row row rest) : live.session.statement.state = .row := by
  rw [stands.state, onRow]
  rfl

end Stands

section Columns

variable {row : Cells} {rest : Execution} {index : Nat}

/-- A call that reads a column of the current row. -/
theorem readCall_stands
    (documented : engine.Documented plan hold refusal view fresh columns unbound)
    (stands : Stands view fresh columns live cursor) (onRow : cursor.position = .row row rest)
    {cell : SqlValueRef UInt64} (there : row[index]? = some cell) (read : ColumnRead)
    (fits : read.Fits cell) (call : StatementCall) {default : CValue}
    (reads : ∀ (answers : EngineAnswers) (session : Session), session.call answers call =
      Session.plain (session.withRowColumn answers index default read)) (world : World) :
    ∃ after, live.call engine world call =
        (.value ((engine.answers world live.raw).value (.column read index)), after) ∧
      after.raw = engine.afterRead (.column read index) live.raw ∧
      Stands view fresh columns after cursor := by
  obtain ⟨trace, past⟩ := stands.usable.past
  have usableAfter := (call_usable documented stands.usable world call).1
  have answered := (reads (engine.answers world live.raw) live.session).trans
    (congrArg Session.plain (Session.withRowColumn_of_row _ past (stands.isRow onRow)
      (stands.inside onRow there) default read))
  have after : (sessionAfter engine world live call).statement =
      { live.session.statement with
        raw := some (.read (.column read index) :: trace) } := by
    unfold sessionAfter
    rw [answered]
    exact Session.record_statement past _
  have went := call_eq_one past (congrArg CsgdbStatement.raw after)
  obtain ⟨sameView, keepsFresh⟩ := documented.fits read (stands.shows onRow there) fits
  rw [went] at usableAfter ⊢
  refine ⟨_, congrArg (fun reply => (reply, _)) (congrArg Prod.fst answered), rfl, usableAfter,
    sameView.trans stands.sees, ?_, fun other later otherRow => ?_⟩
  · exact (congrArg CsgdbStatement.state after).trans stands.state
  · obtain ⟨width, allFresh⟩ := stands.onRow other later otherRow
    exact ⟨width, fun index => keepsFresh index (allFresh index)⟩

/-- A view of a blob lends its bytes. -/
theorem viewCall_stands
    (documented : engine.Documented plan hold refusal view fresh columns unbound)
    (stands : Stands view fresh columns live cursor) (onRow : cursor.position = .row row rest)
    {bytes : List UInt8} (there : row[index]? = some (.blob bytes)) (world : World) :
    ∃ pointer after, live.call engine world (.columnBlobView index true true) =
        (.blobView .ok (some (.pointer pointer)) (some bytes.length), after) ∧
      after.bytesAt engine pointer bytes.length = bytes ∧
      Stands view fresh columns after cursor := by
  obtain ⟨trace, past⟩ := stands.usable.past
  have usableAfter := (call_usable documented stands.usable world
    (.columnBlobView index true true)).1
  have shows := stands.shows onRow there
  obtain ⟨pointer, blob, lent⟩ := documented.blobs shows
  have answered := Session.columnBlobView_of_row (engine.answers world live.raw) past
    (stands.isRow onRow) (stands.inside onRow there) (documented.lengths (.inr shows))
  have recorded := Session.record_statement past (.read (.column .blob index))
  have after : (sessionAfter engine world live (.columnBlobView index true true)).statement =
      { live.session.statement with
        raw := some ([.read (.column .bytes index), .read (.column .blob index)] ++ trace) } := by
    unfold sessionAfter
    rw [answered]
    exact (Session.record_statement (congrArg CsgdbStatement.raw recorded) _).trans
      (by rw [recorded]; rfl)
  have went := call_eq past (congrArg CsgdbStatement.raw after)
  obtain ⟨sameBlob, keepsBlob⟩ := documented.fits .blob shows trivial
  have showsBlob : Shows view fresh (engine.afterRead (.column .blob index) live.raw) index
      (.blob bytes) := by
    obtain ⟨isFresh, stood⟩ := shows
    refine ⟨keepsBlob index isFresh, ?_⟩
    rwa [sameBlob]
  obtain ⟨sameBytes, keepsBytes⟩ := documented.fits .bytes showsBlob trivial
  rw [went] at usableAfter ⊢
  refine ⟨pointer, _, congrArg (fun reply => (reply, _)) ?_, ?_, usableAfter,
    (sameBytes.trans sameBlob).trans stands.sees, ?_, fun other later otherRow => ?_⟩
  · rw [answered]
    exact congrArg (fun data => Reply.blobView .ok (some data) (some bytes.length)) blob
  · rcases lent with rfl | ⟨address, rfl, lent⟩
    · cases pointer <;> rfl
    · exact lent
  · exact (congrArg CsgdbStatement.state after).trans stands.state
  · obtain ⟨width, allFresh⟩ := stands.onRow other later otherRow
    exact ⟨width, fun index => keepsBytes index (keepsBlob index (allFresh index))⟩

/-- Whatever its storage class, the cell is what is read. -/
theorem readColumn_eq
    (documented : engine.Documented plan hold refusal view fresh columns unbound)
    (stands : Stands view fresh columns live cursor) (onRow : cursor.position = .row row rest)
    {cell : SqlValueRef UInt64} (there : row[index]? = some cell) (world : World) :
    ∃ after, readColumn engine world live index = (cell, after) ∧
      Stands view fresh columns after cursor := by
  obtain ⟨typed, called, -, standsTyped⟩ := readCall_stands documented stands onRow there
    .type trivial (.columnType index) (fun _ _ => rfl) world
  have type : (engine.answers world live.raw).value (.column .type index) =
      .int (typeCode cell) := documented.types (stands.shows onRow there)
  unfold readColumn
  rw [called, type]
  cases cell with
  | null => exact ⟨typed, rfl, standsTyped⟩
  | integer value =>
      obtain ⟨after, read, -, standsAfter⟩ := readCall_stands documented standsTyped onRow there
        .int64 trivial (.columnInt64 index) (fun _ _ => rfl) world
      have number : (engine.answers world typed.raw).value (.column .int64 index) =
          .int value.toInt := documented.integers (standsTyped.shows onRow there)
      refine ⟨after, ?_, standsAfter⟩
      simp only [Reply.integer, typeCode, read, number, Int64.ofInt_toInt]
  | real bits =>
      obtain ⟨after, read, -, standsAfter⟩ := readCall_stands documented standsTyped onRow there
        .double trivial (.columnDouble index) (fun _ _ => rfl) world
      have number : (engine.answers world typed.raw).value (.column .double index) =
          .double bits := documented.reals (standsTyped.shows onRow there)
      refine ⟨after, ?_, standsAfter⟩
      simp only [Reply.integer, typeCode, read, number, Reply.double]
  | text bytes =>
      obtain ⟨texted, read, rawText, standsText⟩ := readCall_stands documented standsTyped onRow
        there .text trivial (.columnText index) (fun _ _ => rfl) world
      obtain ⟨after, measured, rawAfter, standsAfter⟩ := readCall_stands documented standsText
        onRow there .bytes trivial (.columnBytes index) (fun _ _ => rfl) world
      obtain ⟨address, pointer, lent⟩ := documented.texts (standsTyped.shows onRow there)
      have data : (engine.answers world typed.raw).value (.column .text index) =
          .pointer (some address) := pointer
      have length : (engine.answers world texted.raw).value (.column .bytes index) =
          .int bytes.length :=
        congrArg CValue.int (documented.lengths (.inl (standsText.shows onRow there)))
      rw [← rawText, ← rawAfter] at lent
      refine ⟨after, ?_, standsAfter⟩
      simp only [Reply.integer, typeCode, read, data, measured, length, Reply.pointer,
        Int.toNat_natCast, bytesAt, lent]
  | blob bytes =>
      obtain ⟨pointer, after, viewed, lent, standsAfter⟩ := viewCall_stands documented
        standsTyped onRow there world
      refine ⟨after, ?_, standsAfter⟩
      simp only [Reply.integer, typeCode, viewed, Reply.pointer, Reply.length, lent]

/-- The columns from one on, all of which are cells of the row. -/
theorem readColumns_eq
    (documented : engine.Documented plan hold refusal view fresh columns unbound)
    (stands : Stands view fresh columns live cursor) (onRow : cursor.position = .row row rest)
    (remaining : Nat) (index : Nat) (last : index + remaining = row.length) (world : World) :
    ∃ after, readColumns engine world remaining index live = (row.drop index, after) ∧
      Stands view fresh columns after cursor := by
  induction remaining generalizing index live with
  | zero =>
      refine ⟨live, ?_, stands⟩
      rw [List.drop_eq_nil_of_le (by omega)]
      rfl
  | succ remaining inductionHypothesis =>
      have inRow : index < row.length := by omega
      obtain ⟨next, first, standsNext⟩ := readColumn_eq documented stands onRow
        (List.getElem?_eq_getElem inRow) world
      obtain ⟨after, others, standsAfter⟩ := inductionHypothesis standsNext
        (index + 1) (by omega)
      refine ⟨after, ?_, standsAfter⟩
      unfold readColumns
      rw [first]
      dsimp only
      rw [others, List.drop_eq_getElem_cons inRow]

end Columns

/-! ## The loop -/

theorem columnCount_stands (engine : RawEngine World Raw)
    (stands : Stands view fresh columns live cursor) (world : World) :
    ∃ after, live.call engine world .columnCount = (.value (.int columns), after) ∧
      Stands view fresh columns after cursor := by
  obtain ⟨trace, past⟩ := stands.usable.past
  have made : (sessionAfter engine world live .columnCount).statement.raw = some ([] ++ trace) :=
    past
  have went := call_eq past made
  refine ⟨_, went.trans (congrArg (fun count => (Reply.value (.int count), _))
    stands.usable.columnCount), ⟨⟨trace, past⟩, ?_, ?_⟩, stands.sees, stands.state, stands.onRow⟩
  · exact stands.usable.parameters
  · exact stands.usable.columnCount

/-- Every round of the loop finds what the step of the cursor finds. -/
theorem fetches
    (documented : engine.Documented plan hold refusal view fresh columns unbound) :
    Fetches plan (fetch engine) id mapSqliteCode (Stands view fresh columns) := by
  refine ⟨fun {world live cursor} stands canStep => ?_⟩
  obtain ⟨trace, past⟩ := stands.usable.past
  have usableAfter := (call_usable documented stands.usable world .step).1
  have unfinished := word_of_canStep canStep
  rw [← stands.state] at unfinished
  obtain ⟨after, reply, code⟩ := Session.step_of_unfinished
    (engine.answers world live.raw) past unfinished.1 unfinished.2
  have went := call_eq_one past (congrArg CsgdbStatement.raw after)
  have sees := stands.sees
  subst sees
  obtain ⟨result, stepped, isFresh⟩ := documented.steps world canStep
  have returned : (engine.answers world live.raw).result .step = stepResult _ := result
  rw [returned] at after reply code
  obtain ⟨execution, advance⟩ := Cursor.next_of_canStep plan canStep world
  rw [went] at usableAfter
  unfold fetch
  rw [went]
  dsimp only
  cases next : (view live.raw).next plan world with
  | row row rest =>
      rw [next] at advance after reply
      have width : row.length = columns := documented.width advance.symm
      have standsRow : Stands view fresh columns
          { session := sessionAfter engine world live .step
            raw := (engine.result world .step live.raw).2 }
          { view live.raw with position := .row row rest } := by
        refine ⟨usableAfter, ?_, congrArg CsgdbStatement.state after,
          fun other later otherRow => ?_⟩
        · rw [stepped, Cursor.step, next]
          rfl
        · obtain ⟨rfl, -⟩ := Position.row.inj otherRow
          exact ⟨width, isFresh⟩
      obtain ⟨counted, count, standsCounted⟩ := columnCount_stands engine standsRow world
      obtain ⟨read, cells, standsRead⟩ := readColumns_eq documented standsCounted rfl
        columns 0 (by omega) world
      have found : (live.session.call (engine.answers world live.raw) .step).1 = .code .row :=
        reply
      rw [if_pos found]
      refine ⟨?_, ?_⟩
      · simp only [RawEngine.apply, count, Reply.integer, Int.toNat_natCast, cells,
          List.drop_zero, id]
      · simpa only [RawEngine.apply, count, Reply.integer, Int.toNat_natCast, cells]
          using standsRead
  | done =>
      rw [next] at reply
      have found : (live.session.call (engine.answers world live.raw) .step).1 = .code .done :=
        reply
      rw [if_neg (by rw [found]; decide), if_pos found]
      rfl
  | failed failure =>
      rw [next] at advance reply code
      obtain ⟨-, notRow, notDone⟩ := documented.failures advance.symm
      have found : (live.session.call (engine.answers world live.raw) .step).1 =
          .code (.code (mapSqliteCode failure)) := by
        rw [reply]
        exact congrArg Reply.code ((if_neg notRow).trans (if_neg notDone))
      rw [if_neg (by simp [found]), if_neg (by simp [found])]
      exact congrArg Fetched.failed (code notRow notDone)

/-- A program that uses a statement with any past gets the answer of a fresh cursor. -/
theorem query_eq
    (documented : engine.Documented plan hold refusal view fresh columns unbound)
    (usable : live.Usable view columns) (world : World) {parameters : List (Value UInt64)}
    (addressable : ∀ value ∈ parameters, Addressable value)
    (sameCount : parameters.length = (view live.raw).bound.length) (worlds : List World) :
    live.query engine world parameters worlds =
      (plan.answer (refusal world) (parameters.map fun value => hold (boundValue value))
        worlds).map id mapSqliteCode := by
  have standsFresh := resetAndClear_stands documented usable world
  have bound := bindFrom_stands documented world addressable standsFresh rfl 0
    (by simp [sameCount])
  unfold query Plan.answer
  rw [List.findSome?_map]
  dsimp only
  cases limit : parameters.findSome? fun value => refusal world (hold (boundValue value)) with
  | none =>
      rw [limit] at bound
      obtain ⟨after, passed, standsBound⟩ := bound
      rw [overwrite_all (by simp [sameCount])] at standsBound
      rw [show parameters.findSome? (refusal world ∘ _) = none from limit, passed]
      dsimp only
      rw [(fetches documented).readRows_eq worlds standsBound trivial]
      rfl
  | some failure =>
      rw [limit] at bound
      rw [show parameters.findSome? (refusal world ∘ _) = some failure from limit]
      rcases passed : bindFrom engine world (0 + 1) parameters
        (live.call engine world .resetAndClearBindings).2 with ⟨result, after⟩
      rw [passed] at bound
      obtain rfl : result = .error (mapSqliteCode failure) := bound
      rfl

end LiveStatement

end Csgdb.Ffi
