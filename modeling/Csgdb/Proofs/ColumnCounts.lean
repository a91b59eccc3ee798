/-
Module: Csgdb.Proofs.ColumnCounts
Purpose: When the column count that a C statement captured is still the one of the engine
  statement, although schema changes let the engine recompile it.
Trusted boundary: none
Main exports: ColumnAccessor, ColumnsCurrent, KeepsColumns, Known, Fresh,
  column_counts_current_iff
-/
import Csgdb.Ffi.Recompile
import Csgdb.Foundation.EventRun
import Csgdb.Proofs.StatementAutomaton
import Csgdb.Proofs.StatusCodes

namespace Csgdb.Ffi

open Foundation (EveryState EveryStep everyState_iff_everyStep)

/-! ## What a row lets through -/

/-- The accessors of one result column. -/
inductive ColumnAccessor where
  | name
  | type
  | int
  | int64
  | double
  | text
  | blob
  | bytes
  | blobView
deriving Repr, DecidableEq

def ColumnAccessor.call (index : Int) : ColumnAccessor → StatementCall
  | .name => .columnName index
  | .type => .columnType index
  | .int => .columnInt index
  | .int64 => .columnInt64 index
  | .double => .columnDouble index
  | .text => .columnText index
  | .blob => .columnBlob index
  | .bytes => .columnBytes index
  | .blobView => .columnBlobView index true true

/-- A call that gets through to the engine statement leaves its mark on it. -/
def CsgdbHandle.Reaches (handle : CsgdbHandle) (answers : DatabaseAnswers) (number : Nat)
    (call : StatementCall) : Prop :=
  (handle.call answers (.statement number call)).2.statements[number]? ≠
    handle.statements[number]?

namespace Session

variable {answers : EngineAnswers} {session : Session} {trace : RawStatement}

theorem raw_ne_of_record (live : session.statement.raw = some trace) {after : Session}
    {event : EngineEvent}
    (same : after.statement = (session.record event).statement) :
    after.statement ≠ session.statement := by
  intro unchanged
  rw [same, record_statement live] at unchanged
  have longer := congrArg CsgdbStatement.raw unchanged
  rw [live, Option.some.injEq] at longer
  exact List.cons_ne_self _ _ longer

theorem withRowColumn_reaches (live : session.statement.raw = some trace)
    (onRow : session.statement.state = .row) {index : Int}
    (inRange : 0 ≤ index ∧ index < session.statement.columnCount) (default : CValue)
    (read : ColumnRead) :
    (session.withRowColumn answers index default read).2.statement ≠ session.statement := by
  unfold withRowColumn engineRead
  rw [if_neg (by simp [live, onRow]), if_neg (by omega)]
  exact raw_ne_of_record live (session.record _).setOk_statement

theorem withColumnMetadata_reaches (live : session.statement.raw = some trace) {index : Int}
    (inRange : 0 ≤ index ∧ index < session.statement.columnCount) (default : CValue)
    (call : ReadCall) :
    (session.withColumnMetadata answers index default call).2.statement ≠
      session.statement := by
  unfold withColumnMetadata engineRead
  rw [if_neg (by simp [live]), if_neg (by omega)]
  exact raw_ne_of_record live (session.record _).setOk_statement

theorem columnBlobView_reaches (live : session.statement.raw = some trace)
    (onRow : session.statement.state = .row) {index : Int}
    (inRange : 0 ≤ index ∧ index < session.statement.columnCount) :
    (session.columnBlobView answers index true true).2.statement ≠ session.statement := by
  unfold columnBlobView engineRead
  rw [if_neg (by decide), if_neg (by simp [live, onRow]), if_neg (by omega)]
  dsimp only
  have blobRead : (session.record (.read (.column .blob index))).statement.raw =
      some (.read (.column .blob index) :: trace) := by rw [record_statement live]
  intro unchanged
  have longer : (((session.record (.read (.column .blob index))).record
      (.read (.column .bytes index))).statement.raw) = some trace := by
    rw [← live, ← unchanged]
    split <;> rfl
  rw [record_statement blobRead, Option.some.injEq] at longer
  have lengths := congrArg List.length longer
  simp only [List.length_cons] at lengths
  omega

/-- On a row the accessors get through exactly for the indexes below the captured count. -/
theorem accessor_reaches_iff (answers : EngineAnswers)
    (live : session.statement.raw = some trace) (onRow : session.statement.state = .row)
    (accessor : ColumnAccessor) (index : Int) :
    (session.call answers (accessor.call index)).2.statement ≠ session.statement ↔
      0 ≤ index ∧ index < session.statement.columnCount := by
  constructor
  · intro reaches
    by_contra outside
    apply reaches
    apply (call_effect answers live (accessor.call index)).2
    cases accessor with
    | name => exact outside
    | _ => exact fun permitted => outside permitted.2
  · intro inRange
    cases accessor with
    | name => exact withColumnMetadata_reaches live inRange _ _
    | blobView => exact columnBlobView_reaches live onRow inRange
    | _ => exact withRowColumn_reaches live onRow inRange _ _

theorem engineResult_state (call : ResultCall) :
    (session.engineResult answers call).2.statement.state = session.statement.state := by
  unfold engineResult
  split <;> rfl

theorem bindValue_state (index : Int) (value : BoundValue) :
    (session.bindValue answers index value).2.statement.state = session.statement.state := by
  unfold bindValue
  split
  case isTrue => rfl
  case isFalse =>
    split
    case isTrue => rfl
    case isFalse => exact engineResult_state _

theorem withRowColumn_state (index : Int) (default : CValue) (read : ColumnRead) :
    (session.withRowColumn answers index default read).2.statement.state =
      session.statement.state := by
  unfold withRowColumn
  split
  case isTrue => rfl
  case isFalse => split <;> rfl

/-- Only a step puts a statement on a row. -/
theorem call_state {call : StatementCall} (noStep : call ≠ .step)
    (onRow : (session.call answers call).2.statement.state = .row) :
    session.statement.state = .row := by
  cases call with
  | step => exact absurd rfl noStep
  | reset => cases onRow
  | resetAndClearBindings =>
      have ready : (session.resetAndClearBindings answers).2.statement.state = .ready := by
        unfold resetAndClearBindings
        dsimp only
        split <;> exact engineResult_state _
      cases ready.symm.trans onRow
  | clearBindings =>
      have same : (session.clearBindings answers).2.statement.state =
          session.statement.state := by
        unfold clearBindings statementReadyOperation
        split
        case isTrue => rfl
        case isFalse => exact engineResult_state _
      exact same.symm.trans onRow
  | bindNull index | bindInt index value | bindInt64 index value | bindDouble index bits =>
      exact (bindValue_state index _).symm.trans onRow
  | bindText index value length =>
      simp only [Session.call, status] at onRow
      rcases bindText_cases answers session index value length with ⟨bound, same⟩ | refused
      · rw [same] at onRow
        exact (bindValue_state index bound).symm.trans onRow
      · rw [refused] at onRow
        exact onRow
  | bindBlob index value length =>
      simp only [Session.call, status] at onRow
      rcases bindBlob_cases answers session index value length with ⟨bound, same⟩ | refused
      · rw [same] at onRow
        exact (bindValue_state index bound).symm.trans onRow
      · rw [refused] at onRow
        exact onRow
  | bindParameterIndex name =>
      have same : (session.bindParameterIndex answers name).2.statement.state =
          session.statement.state := by
        unfold bindParameterIndex withStatementMetadata
        cases name with
        | none => rfl
        | some name =>
            dsimp only
            split <;> rfl
      exact same.symm.trans onRow
  | bindParameterName index =>
      have same : (session.withStatementMetadata answers (.pointer none)
          (.parameterName index)).2.statement.state = session.statement.state := by
        unfold withStatementMetadata
        split <;> rfl
      exact same.symm.trans onRow
  | columnName index =>
      have same : (session.withColumnMetadata answers index (.pointer none)
          (.columnName index)).2.statement.state = session.statement.state := by
        unfold withColumnMetadata
        split
        case isTrue => rfl
        case isFalse => split <;> rfl
      exact same.symm.trans onRow
  | columnBlobView index hasData hasLength =>
      have same : (session.columnBlobView answers index hasData hasLength).2.statement.state =
          session.statement.state := by
        unfold columnBlobView engineRead
        dsimp only
        split
        case isTrue => rfl
        case isFalse =>
          split
          case isTrue => rfl
          case isFalse =>
            split
            case isTrue => rfl
            case isFalse => split <;> rfl
      exact same.symm.trans onRow
  | bindParameterCount | columnCount => exact onRow
  | columnType index | columnInt index | columnInt64 index | columnDouble index
  | columnText index | columnBlob index | columnBytes index =>
      exact (withRowColumn_state index _ _).symm.trans onRow

/-- A step of a statement that is reset puts it where the engine's answer says. -/
theorem step_state (live : session.statement.raw = some trace)
    (unfinished : session.statement.state = .ready) :
    (session.step answers).2.statement.state = .stepped (answers.result .step) := by
  unfold step StatementState.stepped
  rw [if_neg (by simp [unfinished])]
  simp only [engineResult_eq live]
  by_cases onRow : answers.result .step = sqliteRow
  · simp only [if_pos onRow]
    rfl
  · by_cases atEnd : answers.result .step = sqliteDone
    · simp only [if_neg onRow, if_pos atEnd]
      rfl
    · simp only [if_neg onRow, if_neg atEnd]
      rfl

/-- A statement that is on a row behind a call, and was not reset before it, was on a row
before it. -/
theorem call_onRow {call : StatementCall} (started : session.statement.state ≠ .ready)
    (onRow : (session.call answers call).2.statement.state = .row) :
    session.statement.state = .row := by
  by_cases isStep : call = .step
  · subst isStep
    cases state : session.statement.state with
    | ready => exact absurd state started
    | row => rfl
    | done | failed =>
        -- an ended statement is refused
        have refused : (session.step answers).2.statement = session.statement := by
          unfold step
          rw [if_pos (by simp [state])]
          rfl
        have same := (congrArg CsgdbStatement.state refused).symm.trans onRow
        cases state.symm.trans same
  · exact call_state isStep onRow

end Session

/-! ## What one call does to the statements -/

namespace EngineHandle

variable {Schema : Type} {columns : SqlText → Schema → Option Int}
  {state : EngineHandle Schema} {answers : DatabaseAnswers}

variable (columns state answers) in
/-- What one call can do to the statements of a handle and to what the engine keeps of
them. -/
inductive CallMoves : ApiCall → List (Option CsgdbStatement) → List (Compiled Schema) → Prop
  | kept {call : ApiCall} (starts : state.starting call = none) :
      CallMoves call state.handle.statements state.compiled
  | prepared {call : ApiCall} (starts : state.starting call = none) (text : SqlText)
      (parameterCount count : Int) (captured : columns text state.schema = some count) :
      CallMoves call
        (state.handle.statements ++
          [some
            { raw := some [], state := .ready, parameterCount := parameterCount,
              columnCount := count }])
        (state.compiled ++
          [{ text := text, preparedFor := state.schema, compiledFor := state.schema }])
  | called {number : Nat} {statement : CsgdbStatement} (inner : StatementCall)
      (present : state.handle.statements[number]? = some (some statement)) :
      CallMoves (.statement number inner)
        (state.handle.statements.set number
          (some
            (({ shared := state.handle.shared, statement := statement } : Session).call
              (state.answersIn columns answers (.statement number inner)).engine
              inner).2.statement))
        (state.recompile columns (.statement number inner) state.handle)
  | finalized (number : Nat) :
      CallMoves (.finalize number) (state.handle.statements.set number none) state.compiled

theorem finish_statements (handle : CsgdbHandle) (result : Result Unit) :
    (handle.finish result).2.statements = handle.statements := by
  cases result with
  | ok value => rfl
  | error error => rfl

theorem exec_statements (handle : CsgdbHandle) (sql : CString) :
    (handle.exec answers sql).2.statements = handle.statements := by
  unfold CsgdbHandle.exec
  split
  case h_1 => rfl
  case h_2 =>
    split
    case isTrue => rfl
    case isFalse => exact finish_statements handle _

theorem dbReadonly_statements (handle : CsgdbHandle) (name : CString) :
    (handle.dbReadonly answers name).2.statements = handle.statements := by
  unfold CsgdbHandle.dbReadonly
  split
  case h_1 => rfl
  case h_2 =>
    split
    case isTrue => rfl
    case isFalse => split <;> rfl

theorem txnState_statements (handle : CsgdbHandle) (name : CString) :
    (handle.txnState answers name).2.statements = handle.statements := by
  unfold CsgdbHandle.txnState
  split
  case h_1 => rfl
  case h_2 =>
    split
    case isTrue => rfl
    case isFalse => split <;> rfl

theorem withDatabaseValue_statements (handle : CsgdbHandle) (default value : CValue) :
    (handle.withDatabaseValue default value).2.statements = handle.statements := by
  unfold CsgdbHandle.withDatabaseValue
  split <;> rfl

theorem busyTimeout_statements (handle : CsgdbHandle) (timeoutMs : Int) :
    (handle.busyTimeout answers timeoutMs).2.statements = handle.statements := by
  unfold CsgdbHandle.busyTimeout
  split
  case isTrue => rfl
  case isFalse =>
    split
    case isTrue => rfl
    case isFalse => exact finish_statements handle _

theorem walAutocheckpoint_statements (handle : CsgdbHandle) (frames : Int) :
    (handle.walAutocheckpoint answers frames).2.statements = handle.statements := by
  unfold CsgdbHandle.walAutocheckpoint
  split
  case isTrue => rfl
  case isFalse =>
    split
    case isTrue => rfl
    case isFalse => exact finish_statements handle _

theorem releaseMemory_statements (handle : CsgdbHandle) :
    (handle.releaseMemory answers).2.statements = handle.statements := by
  unfold CsgdbHandle.releaseMemory
  split
  case isTrue => rfl
  case isFalse => exact finish_statements handle _

theorem walCheckpointV2_statements (handle : CsgdbHandle) (name : CString) (mode : Int)
    (hasWalFrames hasCheckpointed : Bool) :
    (handle.walCheckpointV2 answers name mode hasWalFrames hasCheckpointed).2.statements =
      handle.statements := by
  unfold CsgdbHandle.walCheckpointV2
  dsimp only
  split
  case h_1 => rfl
  case h_2 =>
    split
    case h_1 => rfl
    case h_2 =>
      split
      case isTrue => rfl
      case isFalse =>
        split
        case h_1 => rfl
        case h_2 => split <;> rfl

/-- A preparation adds one statement, with the columns of its text, or none. -/
theorem prepareStatement_moves {call : ApiCall} (starts : state.starting call = none)
    (sql : Option (List UInt8)) (length : Int) (flags : UInt32) (hasStatement hasTail : Bool) :
    CallMoves columns state answers call
      (state.handle.prepareStatement (state.answersIn columns answers call) sql length flags
        hasStatement hasTail).2.statements
      (state.addPrepared sql length
        (state.handle.prepareStatement (state.answersIn columns answers call) sql length flags
          hasStatement hasTail).2) := by
  generalize same : (state.handle.prepareStatement (state.answersIn columns answers call) sql
    length flags hasStatement hasTail).2 = after
  -- every exit but the last one leaves the statements alone
  have refuse (unchanged : state.handle.statements = after.statements) :
      CallMoves columns state answers call after.statements
        (state.addPrepared sql length after) := by
    have kept : state.addPrepared sql length after = state.compiled := by
      unfold addPrepared
      rw [unchanged]
      split
      case h_1 => exact if_neg (Nat.lt_irrefl _)
      case h_2 => rfl
    rw [kept, ← unchanged]
    exact .kept starts
  cases hasStatement with
  | false =>
      subst same
      exact refuse rfl
  | true =>
      cases sql with
      | none =>
          subst same
          exact refuse rfl
      | some sql =>
          unfold CsgdbHandle.prepareStatement at same
          rw [if_neg (by decide)] at same
          dsimp only at same
          split at same
          case isTrue =>
            subst same
            exact refuse rfl
          case isFalse =>
            split at same
            case isTrue =>
              subst same
              exact refuse rfl
            case isFalse =>
              split at same
              case isTrue =>
                subst same
                exact refuse rfl
              case isFalse =>
                split at same
                case isFalse =>
                  subst same
                  exact refuse rfl
                case isTrue hasRaw =>
                  change (state.prepareAnswer columns answers sql length flags).hasRaw = true
                    at hasRaw
                  cases compiles : columns { bytes := sql, length := length } state.schema with
                  | none =>
                      simp only [prepareAnswer, compiles] at hasRaw
                      cases hasRaw
                  | some count =>
                      have captured : ((state.answersIn columns answers call).prepare sql length
                          flags).columnCount = count := by
                        simp only [answersIn, prepareAnswer, compiles]
                      have grown : after.statements = state.handle.statements ++
                          [some
                            { raw := some [], state := .ready,
                              parameterCount := ((state.answersIn columns answers call).prepare
                                sql length flags).parameterCount,
                              columnCount := count }] := by
                        rw [← captured, ← same]
                        rfl
                      have added : state.addPrepared (some sql) length after =
                          state.compiled ++
                            [{ text := { bytes := sql, length := length },
                               preparedFor := state.schema, compiledFor := state.schema }] := by
                        unfold addPrepared
                        exact if_pos (by rw [grown]; simp)
                      rw [grown, added]
                      exact .prepared starts _ _ _ compiles

/-- Every call moves the statements in one of these ways. -/
theorem call_moves (answers : DatabaseAnswers) (call : ApiCall) (schema : Schema) :
    CallMoves columns state answers call
      (state.call columns answers call schema).2.handle.statements
      (state.call columns answers call schema).2.compiled := by
  cases call with
  | exec sql =>
      simp only [EngineHandle.call, CsgdbHandle.call, CsgdbHandle.status, exec_statements]
      exact .kept rfl
  | changes64 | totalChanges64 | lastInsertRowid | getAutocommit =>
      simp only [EngineHandle.call, CsgdbHandle.call, CsgdbHandle.plain,
        withDatabaseValue_statements]
      exact .kept rfl
  | dbReadonly name =>
      simp only [EngineHandle.call, CsgdbHandle.call, CsgdbHandle.plain, dbReadonly_statements]
      exact .kept rfl
  | txnState name =>
      simp only [EngineHandle.call, CsgdbHandle.call, CsgdbHandle.plain, txnState_statements]
      exact .kept rfl
  | busyTimeout timeoutMs =>
      simp only [EngineHandle.call, CsgdbHandle.call, CsgdbHandle.status,
        busyTimeout_statements]
      exact .kept rfl
  | walAutocheckpoint frames =>
      simp only [EngineHandle.call, CsgdbHandle.call, CsgdbHandle.status,
        walAutocheckpoint_statements]
      exact .kept rfl
  | walCheckpointV2 name mode hasWalFrames hasCheckpointed =>
      simp only [EngineHandle.call, CsgdbHandle.call, walCheckpointV2_statements]
      exact .kept rfl
  | releaseMemory =>
      simp only [EngineHandle.call, CsgdbHandle.call, CsgdbHandle.status,
        releaseMemory_statements]
      exact .kept rfl
  | interrupt | errcode | errmsg => exact .kept rfl
  | prepareV2 sql length hasStatement hasTail =>
      exact prepareStatement_moves rfl sql length 0 hasStatement hasTail
  | prepareV3 sql length flags hasStatement hasTail =>
      exact prepareStatement_moves rfl sql length flags hasStatement hasTail
  | statement number inner =>
      cases present : state.handle.statements[number]? with
      | none =>
          have starts : state.starting (.statement number inner) = none := by
            cases inner <;> simp only [starting, present]
          simp only [EngineHandle.call, CsgdbHandle.call, CsgdbHandle.statementCall, present,
            recompile, compileStarting, starts]
          exact .kept starts
      | some held =>
          cases held with
          | none =>
              have starts : state.starting (.statement number inner) = none := by
                cases inner <;> simp only [starting, present]
              simp only [EngineHandle.call, CsgdbHandle.call, CsgdbHandle.statementCall, present,
                recompile, compileStarting, starts]
              exact .kept starts
          | some statement =>
              simp only [EngineHandle.call, CsgdbHandle.call, CsgdbHandle.statementCall, present]
              exact .called inner present
  | finalize number =>
      cases present : state.handle.statements[number]? with
      | none =>
          simp only [EngineHandle.call, CsgdbHandle.call, CsgdbHandle.finalize, present]
          exact .kept rfl
      | some held =>
          cases held with
          | none =>
              simp only [EngineHandle.call, CsgdbHandle.call, CsgdbHandle.finalize, present]
              exact .kept rfl
          | some statement =>
              simp only [EngineHandle.call, CsgdbHandle.call, CsgdbHandle.finalize, present]
              exact .finalized number

/-! ## What is known in every state -/

/-- A call that starts a run is a step of a statement that is reset. -/
theorem starting_eq_some {call : ApiCall} {number : Nat}
    (starts : state.starting call = some number) :
    call = .statement number .step ∧ ∃ statement trace,
      state.handle.statements[number]? = some (some statement) ∧
        statement.raw = some trace ∧ lastStep trace = none := by
  unfold starting at starts
  split at starts
  case h_1 other =>
    split at starts
    case h_1 statement present =>
      split at starts
      case h_1 trace live =>
        split at starts
        case isTrue isReset =>
          obtain rfl := Option.some.inj starts
          exact ⟨rfl, statement, trace, present, live, isReset⟩
        case isFalse => cases starts
      case h_2 => cases starts
    case h_2 => cases starts
  case h_2 => cases starts

theorem not_starting {number : Nat} {inner : StatementCall} {statement : CsgdbStatement}
    {trace : RawStatement}
    (present : state.handle.statements[number]? = some (some statement))
    (live : statement.raw = some trace) (stepped : lastStep trace ≠ none) :
    state.starting (.statement number inner) ≠ some number := by
  intro starts
  obtain ⟨-, started, reset, presentStarted, liveStarted, isReset⟩ := starting_eq_some starts
  rw [present, Option.some.injEq, Option.some.injEq] at presentStarted
  subst presentStarted
  rw [live, Option.some.injEq] at liveStarted
  subst liveStarted
  exact stepped isReset

theorem starting_step {number : Nat} {statement : CsgdbStatement} {trace : RawStatement}
    (present : state.handle.statements[number]? = some (some statement))
    (live : statement.raw = some trace) (isReset : lastStep trace = none) :
    state.starting (.statement number .step) = some number := by
  unfold starting
  simp only [present, live, if_pos isReset]

/-- Compiling anew changes the schema that a statement is compiled for, and nothing else. -/
theorem compileStarting_getElem? {call : ApiCall} {number : Nat} {after : Compiled Schema}
    (present : (state.compileStarting columns call)[number]? = some after) :
    ∃ before, state.compiled[number]? = some before ∧
      ((after = before ∧
          (state.starting call = some number → state.compiles columns number = false)) ∨
        (state.starting call = some number ∧ state.compiles columns number = true ∧
          after = { before with compiledFor := state.schema })) := by
  unfold compileStarting at present
  split at present
  case h_1 started starts =>
    split at present
    case isTrue compiles =>
      rw [List.getElem?_modify] at present
      obtain ⟨before, there, rfl⟩ := Option.map_eq_some_iff.mp present
      by_cases same : started = number
      · subst same
        exact ⟨before, there, .inr ⟨starts, compiles, if_pos rfl⟩⟩
      · refine ⟨before, there, .inl ⟨if_neg same, fun other => ?_⟩⟩
        exact absurd (Option.some.inj (starts.symm.trans other)) same
    case isFalse compiles =>
      refine ⟨after, present, .inl ⟨rfl, fun other => ?_⟩⟩
      obtain rfl := Option.some.inj (starts.symm.trans other)
      exact Bool.eq_false_iff.mpr compiles
  case h_2 starts =>
    refine ⟨after, present, .inl ⟨rfl, fun other => ?_⟩⟩
    cases starts.symm.trans other

end EngineHandle

/-- The statement follows the engine, and it captured the number of columns that its text
had when it was prepared. -/
structure Tracked {Schema : Type} (columns : SqlText → Schema → Option Int)
    (statement : CsgdbStatement) (compiled : Compiled Schema) : Prop where
  guarded : ∃ trace, Guarded statement trace
  captured : columns compiled.text compiled.preparedFor = some statement.columnCount
  compiles : ∃ count, columns compiled.text compiled.compiledFor = some count

theorem Tracked.ready_of_reset {Schema : Type} {columns : SqlText → Schema → Option Int}
    {statement : CsgdbStatement} {compiled : Compiled Schema}
    (tracked : Tracked columns statement compiled) {trace : RawStatement}
    (live : statement.raw = some trace) (isReset : lastStep trace = none) :
    statement.state = .ready := by
  obtain ⟨last, guarded⟩ := tracked.guarded
  obtain rfl := Option.some.inj (live.symm.trans guarded.live)
  exact guarded.describes.ready_iff.mpr isReset

theorem StatementState.stepped_eq_row {result : Int}
    (onRow : StatementState.stepped result = .row) : result = sqliteRow := by
  unfold StatementState.stepped at onRow
  by_contra other
  rw [if_neg other] at onRow
  split at onRow <;> cases onRow

namespace EngineHandle

variable {Schema : Type} (columns : SqlText → Schema → Option Int)
  (state : EngineHandle Schema)

/-- The engine keeps something of every statement, and every statement is tracked. -/
structure Known : Prop where
  length_eq : state.compiled.length = state.handle.statements.length
  tracked : ∀ (number : Nat) (statement : CsgdbStatement) (compiled : Compiled Schema),
    state.handle.statements[number]? = some (some statement) →
      state.compiled[number]? = some compiled → Tracked columns statement compiled

/-- A statement on a row is compiled for as many columns as it was prepared with. -/
def Fresh : Prop :=
  ∀ (number : Nat) (statement : CsgdbStatement) (compiled : Compiled Schema),
    state.handle.statements[number]? = some (some statement) →
      state.compiled[number]? = some compiled → statement.state = .row →
        columns compiled.text compiled.compiledFor =
          columns compiled.text compiled.preparedFor

/-- A step that starts a run and finds a row finds the text of its statement with as many
columns as the text had when it was prepared. -/
def KeepsColumns : HandleEvent → Prop
  | .call answers call =>
      ∀ (number : Nat) (compiled : Compiled Schema), state.starting call = some number →
        state.compiled[number]? = some compiled →
          state.stepAnswer columns answers.engine call .step = sqliteRow →
            columns compiled.text state.schema = columns compiled.text compiled.preparedFor
  | .poison => True

variable {columns state}

theorem opened_known (schema : Schema) : Known columns (opened schema) where
  length_eq := rfl
  tracked := by
    intro number statement compiled present
    cases present

theorem opened_fresh (schema : Schema) : Fresh columns (opened schema) := by
  intro number statement compiled present
  cases present

theorem Known.compiled (known : Known columns state) {number : Nat}
    {statement : CsgdbStatement}
    (present : state.handle.statements[number]? = some (some statement)) :
    ∃ compiled, state.compiled[number]? = some compiled := by
  obtain ⟨below, -⟩ := List.getElem?_eq_some_iff.mp present
  rw [← known.length_eq] at below
  exact ⟨_, List.getElem?_eq_getElem below⟩

/-- A statement behind a call stood there before and was left alone, was just prepared, or
is the one that was called. -/
theorem CallMoves.entry (known : Known columns state) {answers : DatabaseAnswers}
    {call : ApiCall} {statements : List (Option CsgdbStatement)}
    {kept : List (Compiled Schema)}
    (moves : CallMoves columns state answers call statements kept) {number : Nat}
    {statement : CsgdbStatement} {compiled : Compiled Schema}
    (present : statements[number]? = some (some statement))
    (there : kept[number]? = some compiled) :
    (state.handle.statements[number]? = some (some statement) ∧
        state.compiled[number]? = some compiled) ∨
      (columns compiled.text state.schema = some statement.columnCount ∧
        statement.raw = some [] ∧ statement.state = .ready ∧
        compiled.preparedFor = state.schema ∧ compiled.compiledFor = state.schema) ∨
      ∃ called before inner, call = .statement number inner ∧
        state.handle.statements[number]? = some (some called) ∧
        state.compiled[number]? = some before ∧
        statement =
          (({ shared := state.handle.shared, statement := called } : Session).call
            (state.answersIn columns answers call).engine inner).2.statement ∧
        ((compiled = before ∧
            (state.starting call = some number → state.compiles columns number = false)) ∨
          (state.starting call = some number ∧ state.compiles columns number = true ∧
            compiled = { before with compiledFor := state.schema })) := by
  cases moves with
  | kept starts => exact .inl ⟨present, there⟩
  | prepared starts text parameterCount count captured =>
      by_cases old : number < state.handle.statements.length
      · rw [List.getElem?_append_left old] at present
        rw [List.getElem?_append_left (by rw [known.length_eq]; exact old)] at there
        exact .inl ⟨present, there⟩
      · rw [List.getElem?_append_right (by omega)] at present
        rw [List.getElem?_append_right (by rw [known.length_eq]; omega)] at there
        obtain ⟨_, newStatement⟩ := List.getElem?_eq_some_iff.mp present
        obtain ⟨_, newCompiled⟩ := List.getElem?_eq_some_iff.mp there
        simp only [List.getElem_singleton, Option.some.injEq] at newStatement newCompiled
        subst newStatement newCompiled
        exact .inr (.inl ⟨captured, rfl, rfl, rfl, rfl⟩)
  | @called place called inner presentBefore =>
      obtain ⟨before, thereBefore, moved⟩ := compileStarting_getElem? there
      by_cases same : place = number
      · subst same
        obtain ⟨below, -⟩ := List.getElem?_eq_some_iff.mp presentBefore
        rw [List.getElem?_set_self below] at present
        have result := Option.some.inj (Option.some.inj present)
        exact .inr (.inr ⟨called, before, inner, rfl, presentBefore, thereBefore, result.symm,
          moved⟩)
      · rw [List.getElem?_set_ne same] at present
        obtain ⟨rfl, -⟩ | ⟨starts, -⟩ := moved
        · exact .inl ⟨present, thereBefore⟩
        · obtain ⟨isStep, -⟩ := starting_eq_some starts
          cases isStep
          exact absurd rfl same
  | finalized place =>
      by_cases same : place = number
      · subst same
        rw [List.getElem?_set] at present
        simp at present
      · rw [List.getElem?_set_ne same] at present
        exact .inl ⟨present, there⟩

theorem CallMoves.length_eq (known : Known columns state) {answers : DatabaseAnswers}
    {call : ApiCall} {statements : List (Option CsgdbStatement)}
    {kept : List (Compiled Schema)}
    (moves : CallMoves columns state answers call statements kept) :
    kept.length = statements.length := by
  cases moves with
  | kept starts => exact known.length_eq
  | prepared starts text parameterCount count captured => simp [known.length_eq]
  | called inner present =>
      rw [List.length_set, ← known.length_eq]
      simp only [recompile, compileStarting]
      split
      case h_1 =>
        split
        case isTrue => exact List.length_modify _ _ _
        case isFalse => rfl
      case h_2 => rfl
  | finalized number => rw [List.length_set, known.length_eq]

/-- Statements stay tracked, whatever happens. -/
theorem Known.after (known : Known columns state) (event : HandleEvent) (schema : Schema) :
    Known columns (state.after columns event schema) := by
  cases event with
  | poison => exact ⟨known.length_eq, known.tracked⟩
  | call answers call =>
      have moves : CallMoves columns state answers call _ _ := call_moves answers call schema
      refine ⟨moves.length_eq known, fun number statement compiled present there => ?_⟩
      obtain old | fresh | called := moves.entry known present there
      · exact known.tracked number statement compiled old.1 old.2
      · obtain ⟨captured, live, ready, preparedFor, compiledFor⟩ := fresh
        rw [← preparedFor] at captured
        refine ⟨⟨[], live, .prepared, ?_⟩, captured, statement.columnCount, ?_⟩
        · rw [ready]
          rfl
        · rw [compiledFor, ← preparedFor]
          exact captured
      · obtain ⟨called, before, inner, rfl, presentBefore, thereBefore, rfl, moved⟩ := called
        have tracked := known.tracked number called before presentBefore thereBefore
        obtain ⟨trace, guarded⟩ := tracked.guarded
        have live : (Session.mk state.handle.shared called).statement.raw = some trace :=
          guarded.live
        have effect := (Session.call_effect
          (state.answersIn columns answers (.statement number inner)).engine live inner).1
        obtain ⟨-, sameColumns, next⟩ := effect.guarded guarded
        have captured := tracked.captured
        rw [← sameColumns] at captured
        obtain ⟨rfl, -⟩ | ⟨-, compiles, rfl⟩ := moved
        · exact ⟨next, captured, tracked.compiles⟩
        · unfold EngineHandle.compiles at compiles
          rw [thereBefore] at compiles
          exact ⟨next, captured, Option.isSome_iff_exists.mp compiles⟩

/-- A step keeps the columns exactly when every statement on a row behind it has as many
columns as it was prepared with. -/
theorem fresh_after_iff (known : Known columns state) (fresh : Fresh columns state)
    (event : HandleEvent) (schema : Schema) :
    Fresh columns (state.after columns event schema) ↔ KeepsColumns columns state event := by
  cases event with
  | poison => exact ⟨fun _ => trivial, fun _ => fresh⟩
  | call answers call =>
      have moves : CallMoves columns state answers call _ _ := call_moves answers call schema
      constructor
      · intro after number before starts there row
        obtain ⟨rfl, called, trace, present, live, isReset⟩ := starting_eq_some starts
        have compiles : state.compiles columns number = true := by
          by_contra fails
          unfold stepAnswer at row
          simp only [starts, if_neg fails] at row
          cases row
        obtain ⟨below, -⟩ := List.getElem?_eq_some_iff.mp present
        have stands : (state.after columns (.call answers (.statement number .step))
            schema).handle.statements[number]? =
              some (some (({ shared := state.handle.shared, statement := called } :
                Session).step (state.answersIn columns answers
                  (.statement number .step)).engine).2.statement) := by
          simp only [EngineHandle.after, EngineHandle.call, CsgdbHandle.call,
            CsgdbHandle.statementCall, present]
          exact List.getElem?_set_self below
        have recompiled : (state.after columns (.call answers (.statement number .step))
            schema).compiled[number]? = some { before with compiledFor := state.schema } := by
          simp only [EngineHandle.after, EngineHandle.call, recompile, compileStarting, starts,
            if_pos compiles, List.getElem?_modify, there]
          rfl
        have tracked := known.tracked number called before present there
        have ready : called.state = .ready := tracked.ready_of_reset live isReset
        have onRow : (({ shared := state.handle.shared, statement := called } :
            Session).step (state.answersIn columns answers
              (.statement number .step)).engine).2.statement.state = .row := by
          rw [Session.step_state live ready]
          exact if_pos row
        exact after number _ _ stands recompiled onRow
      · intro keeps number statement compiled present there onRow
        obtain old | fresh' | called := moves.entry known present there
        · exact fresh number statement compiled old.1 old.2 onRow
        · obtain ⟨-, -, ready, preparedFor, compiledFor⟩ := fresh'
          rw [preparedFor, compiledFor]
        · obtain ⟨called, before, inner, rfl, presentBefore, thereBefore, rfl, moved⟩ := called
          have tracked := known.tracked number called before presentBefore thereBefore
          obtain ⟨trace, guarded⟩ := tracked.guarded
          by_cases isReset : lastStep trace = none
          · have ready := tracked.ready_of_reset guarded.live isReset
            have isStep : inner = .step := by
              by_contra noStep
              cases ready.symm.trans (Session.call_state noStep onRow)
            subst isStep
            have starts := starting_step presentBefore guarded.live isReset
            have live : (Session.mk state.handle.shared called).statement.raw = some trace :=
              guarded.live
            have stepped := (Session.step_state live ready).symm.trans onRow
            have row := StatementState.stepped_eq_row stepped
            obtain ⟨rfl, notCompiled⟩ | ⟨-, -, rfl⟩ := moved
            · unfold answersIn stepAnswer at row
              simp only [starts, notCompiled starts] at row
              cases row
            · exact keeps number before starts thereBefore row
          · have already : called.state = .row :=
              Session.call_onRow (guarded.describes.ready_iff.not.mpr isReset) onRow
            obtain ⟨rfl, -⟩ | ⟨starts, -⟩ := moved
            · exact fresh number called compiled presentBefore thereBefore already
            · exact absurd starts (not_starting presentBefore guarded.live isReset)

variable (columns state) in
/-- Wherever a statement is positioned on a row, `csgdb_column_count` returns the engine's
current number of result columns, and an accessor gets through to the engine exactly for
the indexes below it. -/
def ColumnsCurrent : Prop :=
  ∀ (number : Nat) (statement : CsgdbStatement) (trace : RawStatement),
    state.handle.statements[number]? = some (some statement) →
      statement.raw = some trace → lastStep trace = some sqliteRow →
        ∃ count, state.currentColumns columns number = some count ∧
          ∀ answers,
            (state.handle.call answers (.statement number .columnCount)).1 =
              .value (.int count) ∧
            ∀ (accessor : ColumnAccessor) (index : Int),
              state.handle.Reaches answers number (accessor.call index) ↔
                0 ≤ index ∧ index < count

/-- The captured counts are current exactly when no statement on a row has another number
of columns than it was prepared with. -/
theorem columnsCurrent_iff (known : Known columns state) :
    ColumnsCurrent columns state ↔ Fresh columns state := by
  constructor
  · intro current number statement compiled present there onRow
    have tracked := known.tracked number statement compiled present there
    obtain ⟨trace, guarded⟩ := tracked.guarded
    obtain ⟨count, engineCount, answered⟩ :=
      current number statement trace present guarded.live (guarded.describes.row_iff.mp onRow)
    have reply := (answered quietAnswers).1
    simp only [CsgdbHandle.call, CsgdbHandle.statementCall, present, Session.call,
      Reply.value.injEq, CValue.int.injEq] at reply
    unfold currentColumns at engineCount
    rw [there, Option.bind_some] at engineCount
    rw [engineCount, tracked.captured, reply]
  · intro fresh number statement trace present live onRow
    obtain ⟨compiled, there⟩ := known.compiled present
    have tracked := known.tracked number statement compiled present there
    obtain ⟨trace', guarded⟩ := tracked.guarded
    obtain rfl := Option.some.inj (live.symm.trans guarded.live)
    have positioned := guarded.describes.row_iff.mpr onRow
    obtain ⟨below, -⟩ := List.getElem?_eq_some_iff.mp present
    refine ⟨statement.columnCount, ?_, fun answers => ⟨?_, fun accessor index => ?_⟩⟩
    · unfold currentColumns
      rw [there, Option.bind_some, fresh number statement compiled present there positioned]
      exact tracked.captured
    · simp only [CsgdbHandle.call, CsgdbHandle.statementCall, present, Session.call]
    · have live' : (Session.mk state.handle.shared statement).statement.raw = some trace :=
        live
      rw [← Session.accessor_reaches_iff answers.engine live' positioned accessor index]
      unfold CsgdbHandle.Reaches
      simp only [CsgdbHandle.call, CsgdbHandle.statementCall, present,
        List.getElem?_set_self below, ne_eq, Option.some.injEq]

end EngineHandle

/-! ## Runs -/

/-- The column counts of C statements are current in every state of a run exactly when
every step of it that starts a statement and finds a row finds the text of the statement
with as many columns as it was prepared with. -/
theorem column_counts_current_iff {Schema : Type} (columns : SqlText → Schema → Option Int)
    (schema : Schema) (events : List (HandleEvent × Schema)) :
    EveryState (fun state event => state.after columns event.1 event.2)
        (EngineHandle.ColumnsCurrent columns) (.opened schema) events ↔
      EveryStep (fun state event => state.after columns event.1 event.2)
        (fun state event => EngineHandle.KeepsColumns columns state event.1) (.opened schema)
        events := by
  have known : EngineHandle.Known columns (.opened schema) :=
    EngineHandle.opened_known schema
  apply @everyState_iff_everyStep _ _ _ (EngineHandle.Known columns)
  · exact fun state event known => known.after event.1 event.2
  · intro state event known current
    rw [EngineHandle.columnsCurrent_iff (known.after event.1 event.2)]
    exact EngineHandle.fresh_after_iff known
      ((EngineHandle.columnsCurrent_iff known).mp current) event.1 event.2
  · exact known
  · exact (EngineHandle.columnsCurrent_iff known).mpr (EngineHandle.opened_fresh schema)

/-- Answers of an engine whose steps find a row. -/
def rowAnswers : DatabaseAnswers :=
  { quietAnswers with engine := { quietAnswers.engine with result := fun _ => sqliteRow } }

/-- `SELECT * FROM notes` is prepared while the table has two columns, and stepped when an
`ALTER TABLE` has added a third one, which no accessor can read. -/
theorem added_column_is_out_of_range :
    ¬ EveryState (fun state event => state.after (fun _ columns => some columns) event.1 event.2)
      (EngineHandle.ColumnsCurrent fun _ columns => some columns) (.opened 2)
      [(.call quietAnswers (.prepareV2 (some "SELECT * FROM notes".toUTF8.toList) (-1) true
          true), 2),
        (.call quietAnswers (.exec (.text "ALTER TABLE notes ADD COLUMN extra TEXT")), 3),
        (.call rowAnswers (.statement 0 .step), 3)] := by
  intro current
  obtain ⟨count, engineCount, answered⟩ := current.2.2.2 0 _ _ rfl rfl rfl
  obtain rfl := Option.some.inj engineCount
  cases (answered quietAnswers).1

end Csgdb.Ffi
