/-
Module: Csgdb.Proofs.StatementAutomaton
Purpose: The state word of a C statement follows the engine statement, and its guards let
  only calls through that the engine statement is ready for.
Trusted boundary: none
Main exports: Disciplined, CallEffect, call_effect, Guarded,
  statement_automaton_protects_engine
-/
import Csgdb.Ffi.Statement
import Mathlib.Tactic.Common

namespace Csgdb.Ffi

/-! ## What the engine statement may be asked for -/

/-- Every engine call was made when the engine statement was ready for it: steps unless
the last one ended or failed, bindings while it is reset, values while it stands on a
row. -/
inductive Disciplined (parameterCount columnCount : Int) : RawStatement → Prop
  | prepared : Disciplined parameterCount columnCount []
  | step {earlier : RawStatement} (result : Int)
      (before : Disciplined parameterCount columnCount earlier)
      (unfinished : lastStep earlier = none ∨ lastStep earlier = some sqliteRow) :
      Disciplined parameterCount columnCount (.result .step result :: earlier)
  | reset {earlier : RawStatement} (result : Int)
      (before : Disciplined parameterCount columnCount earlier) :
      Disciplined parameterCount columnCount (.result .reset result :: earlier)
  | clearBindings {earlier : RawStatement} (result : Int)
      (before : Disciplined parameterCount columnCount earlier)
      (isReset : lastStep earlier = none) :
      Disciplined parameterCount columnCount (.result .clearBindings result :: earlier)
  | bind {earlier : RawStatement} (index : Int) (value : BoundValue) (result : Int)
      (before : Disciplined parameterCount columnCount earlier)
      (isReset : lastStep earlier = none)
      (inRange : 1 ≤ index ∧ index ≤ parameterCount) :
      Disciplined parameterCount columnCount (.result (.bind index value) result :: earlier)
  | column {earlier : RawStatement} (read : ColumnRead) (index : Int)
      (before : Disciplined parameterCount columnCount earlier)
      (onRow : lastStep earlier = some sqliteRow)
      (inRange : 0 ≤ index ∧ index < columnCount) :
      Disciplined parameterCount columnCount (.read (.column read index) :: earlier)
  | columnName {earlier : RawStatement} (index : Int)
      (before : Disciplined parameterCount columnCount earlier)
      (inRange : 0 ≤ index ∧ index < columnCount) :
      Disciplined parameterCount columnCount (.read (.columnName index) :: earlier)
  | parameterIndex {earlier : RawStatement} (name : List UInt8)
      (before : Disciplined parameterCount columnCount earlier) :
      Disciplined parameterCount columnCount (.read (.parameterIndex name) :: earlier)
  | parameterName {earlier : RawStatement} (index : Int)
      (before : Disciplined parameterCount columnCount earlier) :
      Disciplined parameterCount columnCount (.read (.parameterName index) :: earlier)

/-- What the automaton lets through, by the state word and the captured counts. -/
def CsgdbStatement.permits (statement : CsgdbStatement) : StatementCall → Prop
  | .bindNull index | .bindInt index _ | .bindInt64 index _ | .bindDouble index _
  | .bindText index _ _ | .bindBlob index _ _ =>
      statement.state = .ready ∧ 1 ≤ index ∧ index ≤ statement.parameterCount
  | .step => statement.state = .ready ∨ statement.state = .row
  | .clearBindings => statement.state = .ready
  | .columnName index => 0 ≤ index ∧ index < statement.columnCount
  | .columnType index | .columnInt index | .columnInt64 index | .columnDouble index
  | .columnText index | .columnBlob index | .columnBytes index
  | .columnBlobView index _ _ =>
      statement.state = .row ∧ 0 ≤ index ∧ index < statement.columnCount
  | .reset | .resetAndClearBindings | .bindParameterCount | .bindParameterIndex _
  | .bindParameterName _ | .columnCount => True

/-! ## What a call does -/

/-- The state behind a step. -/
def StatementState.stepped (result : Int) : StatementState :=
  if result = sqliteRow then .row else if result = sqliteDone then .done else .failed

/-- What one call can do to a live statement. -/
inductive CallEffect (statement : CsgdbStatement) (trace : RawStatement) :
    CsgdbStatement → Prop
  | unchanged : CallEffect statement trace statement
  | bound (index : Int) (value : BoundValue) (result : Int)
      (ready : statement.state = .ready)
      (inRange : 1 ≤ index ∧ index ≤ statement.parameterCount) :
      CallEffect statement trace
        { statement with raw := some (.result (.bind index value) result :: trace) }
  | cleared (result : Int) (ready : statement.state = .ready) :
      CallEffect statement trace
        { statement with raw := some (.result .clearBindings result :: trace) }
  | stepped (result : Int) (unfinished : statement.state = .ready ∨ statement.state = .row) :
      CallEffect statement trace
        { statement with
          raw := some (.result .step result :: trace), state := .stepped result }
  | reset (result : Int) :
      CallEffect statement trace
        { statement with raw := some (.result .reset result :: trace), state := .ready }
  | resetAndCleared (resetResult clearResult : Int) :
      CallEffect statement trace
        { statement with
          raw := some
            (.result .clearBindings clearResult :: .result .reset resetResult :: trace)
          state := .ready }
  | named (index : Int) (inRange : 0 ≤ index ∧ index < statement.columnCount) :
      CallEffect statement trace
        { statement with raw := some (.read (.columnName index) :: trace) }
  | parameterIndex (name : List UInt8) :
      CallEffect statement trace
        { statement with raw := some (.read (.parameterIndex name) :: trace) }
  | parameterName (index : Int) :
      CallEffect statement trace
        { statement with raw := some (.read (.parameterName index) :: trace) }
  | column (read : ColumnRead) (index : Int) (onRow : statement.state = .row)
      (inRange : 0 ≤ index ∧ index < statement.columnCount) :
      CallEffect statement trace
        { statement with raw := some (.read (.column read index) :: trace) }
  | viewed (index : Int) (onRow : statement.state = .row)
      (inRange : 0 ≤ index ∧ index < statement.columnCount) :
      CallEffect statement trace
        { statement with
          raw := some (.read (.column .bytes index) :: .read (.column .blob index) :: trace) }

namespace Session

variable {answers : EngineAnswers} {session : Session} {trace : RawStatement}

@[simp] theorem setOk_statement : session.setOk.statement = session.statement := rfl

@[simp] theorem setCode_statement (code : Code) :
    (session.setCode code).2.statement = session.statement := rfl

@[simp] theorem setSqliteResult_statement (result : Int) :
    (session.setSqliteResult result).2.statement = session.statement := rfl

@[simp] theorem setState_statement (state : StatementState) :
    (session.setState state).statement = { session.statement with state := state } := rfl

theorem record_statement (live : session.statement.raw = some trace) (event : EngineEvent) :
    (session.record event).statement =
      { session.statement with raw := some (event :: trace) } := by
  unfold record
  rw [live]
  rfl

theorem engineResult_eq (live : session.statement.raw = some trace) (call : ResultCall) :
    session.engineResult answers call =
      (answers.result call, session.record (.result call (answers.result call))) := by
  unfold engineResult
  rw [live]

theorem bindValue_effect (live : session.statement.raw = some trace) (index : Int)
    (value : BoundValue) :
    CallEffect session.statement trace (session.bindValue answers index value).2.statement ∧
      (¬ (session.statement.state = .ready ∧ 1 ≤ index ∧
          index ≤ session.statement.parameterCount) →
        (session.bindValue answers index value).2.statement = session.statement) := by
  unfold bindValue
  by_cases outside : index ≤ 0 ∨ index > session.statement.parameterCount
  · rw [if_pos outside]
    exact ⟨.unchanged, fun _ => rfl⟩
  · rw [if_neg outside]
    by_cases busy : session.statement.state ≠ .ready ∨ session.statement.raw = none
    · rw [if_pos busy]
      exact ⟨.unchanged, fun _ => rfl⟩
    · rw [if_neg busy]
      simp only [not_or, ne_eq, not_not] at busy
      have inRange : 1 ≤ index ∧ index ≤ session.statement.parameterCount := by omega
      simp only [engineResult_eq live, setSqliteResult_statement, record_statement live]
      exact ⟨.bound index value _ busy.1 inRange, fun refused => absurd ⟨busy.1, inRange⟩ refused⟩

theorem clearBindings_effect (live : session.statement.raw = some trace) :
    CallEffect session.statement trace (session.clearBindings answers).2.statement ∧
      (session.statement.state ≠ .ready →
        (session.clearBindings answers).2.statement = session.statement) := by
  unfold clearBindings statementReadyOperation
  by_cases busy : session.statement.state ≠ .ready ∨ session.statement.raw = none
  · rw [if_pos busy]
    exact ⟨.unchanged, fun _ => rfl⟩
  · rw [if_neg busy]
    simp only [not_or, ne_eq, not_not] at busy
    simp only [engineResult_eq live, setSqliteResult_statement, record_statement live]
    exact ⟨.cleared _ busy.1, fun refused => absurd busy.1 refused⟩

theorem step_effect (live : session.statement.raw = some trace) :
    CallEffect session.statement trace (session.step answers).2.statement ∧
      (¬ (session.statement.state = .ready ∨ session.statement.state = .row) →
        (session.step answers).2.statement = session.statement) := by
  unfold step
  by_cases ended : session.statement.state = .done ∨ session.statement.state = .failed
  · rw [if_pos ended]
    exact ⟨.unchanged, fun _ => rfl⟩
  · rw [if_neg ended]
    have unfinished : session.statement.state = .ready ∨ session.statement.state = .row := by
      cases state : session.statement.state <;> simp [state] at ended ⊢
    constructor
    · have stepped := @CallEffect.stepped session.statement trace (answers.result .step) unfinished
      unfold StatementState.stepped at stepped
      simp only [engineResult_eq live]
      by_cases onRow : answers.result .step = sqliteRow
      · simpa only [if_pos onRow, setOk_statement, setState_statement,
          record_statement live] using stepped
      · by_cases atEnd : answers.result .step = sqliteDone
        · simpa only [if_neg onRow, if_pos atEnd, setOk_statement, setState_statement,
            record_statement live] using stepped
        · simpa only [if_neg onRow, if_neg atEnd, setCode_statement, setState_statement,
            record_statement live] using stepped
    · intro refused
      exact absurd unfinished refused

theorem reset_effect (live : session.statement.raw = some trace) :
    CallEffect session.statement trace (session.reset answers).2.statement := by
  unfold reset
  simp only [engineResult_eq live, setSqliteResult_statement, setState_statement,
    record_statement live]
  exact .reset _

theorem resetAndClearBindings_effect (live : session.statement.raw = some trace) :
    CallEffect session.statement trace (session.resetAndClearBindings answers).2.statement := by
  have resetTrace : ((session.record (.result .reset (answers.result .reset))).setState
      .ready).statement.raw = some (.result .reset (answers.result .reset) :: trace) := by
    rw [setState_statement, record_statement live]
  unfold resetAndClearBindings
  simp only [engineResult_eq live, engineResult_eq resetTrace]
  split
  case isTrue =>
    rw [setSqliteResult_statement, record_statement resetTrace, setState_statement,
      record_statement live]
    exact .resetAndCleared _ _
  case isFalse =>
    rw [setCode_statement, record_statement resetTrace, setState_statement,
      record_statement live]
    exact .resetAndCleared _ _

theorem withStatementMetadata_effect (live : session.statement.raw = some trace)
    (default : CValue) {call : ReadCall}
    (effect : CallEffect session.statement trace
      { session.statement with raw := some (.read call :: trace) }) :
    CallEffect session.statement trace
      (session.withStatementMetadata answers default call).2.statement := by
  unfold withStatementMetadata engineRead
  rw [if_neg (by simp [live])]
  rw [setOk_statement, record_statement live]
  exact effect

theorem withColumnMetadata_effect (live : session.statement.raw = some trace) (index : Int)
    (default : CValue) :
    CallEffect session.statement trace
        (session.withColumnMetadata answers index default (.columnName index)).2.statement ∧
      (¬ (0 ≤ index ∧ index < session.statement.columnCount) →
        (session.withColumnMetadata answers index default (.columnName index)).2.statement =
          session.statement) := by
  unfold withColumnMetadata engineRead
  rw [if_neg (by simp [live])]
  by_cases outside : index < 0 ∨ index ≥ session.statement.columnCount
  · rw [if_pos outside]
    exact ⟨.unchanged, fun _ => rfl⟩
  · rw [if_neg outside, setOk_statement, record_statement live]
    have inRange : 0 ≤ index ∧ index < session.statement.columnCount := by omega
    exact ⟨.named index inRange, fun refused => absurd inRange refused⟩

theorem withRowColumn_effect (live : session.statement.raw = some trace) (index : Int)
    (default : CValue) (read : ColumnRead) :
    CallEffect session.statement trace
        (session.withRowColumn answers index default read).2.statement ∧
      (¬ (session.statement.state = .row ∧ 0 ≤ index ∧
          index < session.statement.columnCount) →
        (session.withRowColumn answers index default read).2.statement =
          session.statement) := by
  unfold withRowColumn engineRead
  by_cases away : session.statement.raw = none ∨ session.statement.state ≠ .row
  · rw [if_pos away]
    exact ⟨.unchanged, fun _ => rfl⟩
  · rw [if_neg away]
    simp only [not_or, ne_eq, not_not] at away
    by_cases outside : index < 0 ∨ index ≥ session.statement.columnCount
    · rw [if_pos outside]
      exact ⟨.unchanged, fun _ => rfl⟩
    · rw [if_neg outside, setOk_statement, record_statement live]
      have inRange : 0 ≤ index ∧ index < session.statement.columnCount := by omega
      exact ⟨.column read index away.2 inRange,
        fun refused => absurd ⟨away.2, inRange⟩ refused⟩

theorem columnBlobView_effect (live : session.statement.raw = some trace) (index : Int)
    (hasData hasLength : Bool) :
    CallEffect session.statement trace
        (session.columnBlobView answers index hasData hasLength).2.statement ∧
      (¬ (session.statement.state = .row ∧ 0 ≤ index ∧
          index < session.statement.columnCount) →
        (session.columnBlobView answers index hasData hasLength).2.statement =
          session.statement) := by
  unfold columnBlobView engineRead
  by_cases absent : (!hasData || !hasLength) = true
  · rw [if_pos absent]
    exact ⟨.unchanged, fun _ => rfl⟩
  · rw [if_neg absent]
    by_cases away : session.statement.raw = none ∨ session.statement.state ≠ .row
    · rw [if_pos away]
      exact ⟨.unchanged, fun _ => rfl⟩
    · rw [if_neg away]
      simp only [not_or, ne_eq, not_not] at away
      by_cases outside : index < 0 ∨ index ≥ session.statement.columnCount
      · rw [if_pos outside]
        exact ⟨.unchanged, fun _ => rfl⟩
      · rw [if_neg outside]
        have inRange : 0 ≤ index ∧ index < session.statement.columnCount := by omega
        have blobRead : (session.record (.read (.column .blob index))).statement.raw =
            some (.read (.column .blob index) :: trace) := by rw [record_statement live]
        have viewed := @CallEffect.viewed session.statement trace index away.2 inRange
        refine ⟨?_, fun refused => absurd ⟨away.2, inRange⟩ refused⟩
        dsimp only
        by_cases negative : answers.columnBytes index < 0
        · rw [if_pos negative, setCode_statement, record_statement blobRead,
            record_statement live]
          exact viewed
        · rw [if_neg negative, setOk_statement, record_statement blobRead,
            record_statement live]
          exact viewed

/-- Every call has one of the effects, and a call that the automaton does not permit has
none. -/
theorem call_effect (answers : EngineAnswers) (live : session.statement.raw = some trace)
    (call : StatementCall) :
    CallEffect session.statement trace (session.call answers call).2.statement ∧
      (¬ session.statement.permits call →
        (session.call answers call).2.statement = session.statement) := by
  cases call with
  | bindParameterCount | columnCount => exact ⟨.unchanged, fun _ => rfl⟩
  | bindParameterIndex name =>
      refine ⟨?_, fun refused => absurd trivial refused⟩
      cases name with
      | none => exact .unchanged
      | some name =>
          exact withStatementMetadata_effect live _ (.parameterIndex name)
  | bindParameterName index =>
      exact ⟨withStatementMetadata_effect live _ (.parameterName index),
        fun refused => absurd trivial refused⟩
  | bindNull index | bindInt index value | bindInt64 index value | bindDouble index bits =>
      exact bindValue_effect live index _
  | bindText index value length =>
      simp only [call, status]
      rcases bindText_cases answers session index value length with ⟨bound, same⟩ | refused
      · rw [same]
        exact bindValue_effect live index bound
      · rw [refused]
        exact ⟨.unchanged, fun _ => rfl⟩
  | bindBlob index value length =>
      simp only [call, status]
      rcases bindBlob_cases answers session index value length with ⟨bound, same⟩ | refused
      · rw [same]
        exact bindValue_effect live index bound
      · rw [refused]
        exact ⟨.unchanged, fun _ => rfl⟩
  | step => exact step_effect live
  | reset => exact ⟨reset_effect live, fun refused => absurd trivial refused⟩
  | clearBindings => exact clearBindings_effect live
  | resetAndClearBindings =>
      exact ⟨resetAndClearBindings_effect live, fun refused => absurd trivial refused⟩
  | columnName index => exact withColumnMetadata_effect live index _
  | columnType index | columnInt index | columnInt64 index | columnDouble index
  | columnText index | columnBlob index | columnBytes index =>
      exact withRowColumn_effect live index _ _
  | columnBlobView index hasData hasLength =>
      exact columnBlobView_effect live index hasData hasLength

end Session

/-! ## The simulation -/

/-- The state word tells what the last step since the last reset returned. -/
def StatementState.Describes : StatementState → Option Int → Prop
  | .ready, last => last = none
  | .row, last => last = some sqliteRow
  | .done, last => last = some sqliteDone
  | .failed, last => ∃ result, last = some result ∧ result ≠ sqliteRow ∧ result ≠ sqliteDone

theorem StatementState.Describes.row_iff {state : StatementState} {last : Option Int}
    (describes : state.Describes last) : state = .row ↔ last = some sqliteRow := by
  cases state with
  | ready => simp [show last = none from describes]
  | row => simp [show last = some sqliteRow from describes]
  | done => simp [show last = some sqliteDone from describes, sqliteRow, sqliteDone]
  | failed =>
      obtain ⟨result, rfl, notRow, -⟩ := describes
      simp [notRow]

theorem StatementState.Describes.ready_iff {state : StatementState} {last : Option Int}
    (describes : state.Describes last) : state = .ready ↔ last = none := by
  cases state with
  | ready => simp [show last = none from describes]
  | row => simp [show last = some sqliteRow from describes]
  | done => simp [show last = some sqliteDone from describes]
  | failed =>
      obtain ⟨result, rfl, -, -⟩ := describes
      simp

/-- A live statement whose engine calls were all made in time and whose state word is
right. -/
structure Guarded (statement : CsgdbStatement) (trace : RawStatement) : Prop where
  live : statement.raw = some trace
  disciplined : Disciplined statement.parameterCount statement.columnCount trace
  describes : statement.state.Describes (lastStep trace)

theorem StatementState.describes_stepped (result : Int) :
    (StatementState.stepped result).Describes (some result) := by
  unfold StatementState.stepped
  by_cases onRow : result = sqliteRow
  · rw [if_pos onRow, onRow]
    rfl
  · by_cases atEnd : result = sqliteDone
    · rw [if_neg onRow, if_pos atEnd, atEnd]
      rfl
    · rw [if_neg onRow, if_neg atEnd]
      exact ⟨result, rfl, onRow, atEnd⟩

/-- One call keeps the state word right and the engine calls in time. -/
theorem CallEffect.guarded {statement after : CsgdbStatement} {trace : RawStatement}
    (guarded : Guarded statement trace) (effect : CallEffect statement trace after) :
    after.parameterCount = statement.parameterCount ∧
      after.columnCount = statement.columnCount ∧ ∃ next, Guarded after next := by
  obtain ⟨live, disciplined, describes⟩ := guarded
  cases effect with
  | unchanged => exact ⟨rfl, rfl, trace, live, disciplined, describes⟩
  | bound index value result ready inRange =>
      have isReset : lastStep trace = none := by rwa [ready] at describes
      exact ⟨rfl, rfl, _, rfl, .bind index value result disciplined isReset inRange, describes⟩
  | cleared result ready =>
      have isReset : lastStep trace = none := by rwa [ready] at describes
      exact ⟨rfl, rfl, _, rfl, .clearBindings result disciplined isReset, describes⟩
  | stepped result unfinished =>
      have stands : lastStep trace = none ∨ lastStep trace = some sqliteRow := by
        rcases unfinished with ready | row
        · left
          rwa [ready] at describes
        · right
          rwa [row] at describes
      exact ⟨rfl, rfl, _, rfl, .step result disciplined stands,
        StatementState.describes_stepped result⟩
  | reset result => exact ⟨rfl, rfl, _, rfl, .reset result disciplined, rfl⟩
  | resetAndCleared resetResult clearResult =>
      exact ⟨rfl, rfl, _, rfl,
        .clearBindings clearResult (.reset resetResult disciplined) rfl, rfl⟩
  | named index inRange =>
      exact ⟨rfl, rfl, _, rfl, .columnName index disciplined inRange, describes⟩
  | parameterIndex name =>
      exact ⟨rfl, rfl, _, rfl, .parameterIndex name disciplined, describes⟩
  | parameterName index =>
      exact ⟨rfl, rfl, _, rfl, .parameterName index disciplined, describes⟩
  | column read index onRow inRange =>
      have stands : lastStep trace = some sqliteRow := by rwa [onRow] at describes
      exact ⟨rfl, rfl, _, rfl, .column read index disciplined stands inRange, describes⟩
  | viewed index onRow inRange =>
      have stands : lastStep trace = some sqliteRow := by rwa [onRow] at describes
      exact ⟨rfl, rfl, _, rfl,
        .column .bytes index (.column .blob index disciplined stands inRange) stands inRange,
        describes⟩

/-- A call that leaves the engine statement alone leaves the whole statement alone. -/
theorem CallEffect.eq_of_raw_eq {statement after : CsgdbStatement} {trace : RawStatement}
    (live : statement.raw = some trace) (effect : CallEffect statement trace after)
    (same : after.raw = statement.raw) : after = statement := by
  cases effect with
  | unchanged => rfl
  | _ =>
      rw [live, Option.some.injEq] at same
      have longer := congrArg List.length same
      simp only [List.length_cons] at longer
      omega

/-! ## Runs -/

/-- A statement as `prepare` hands it out. -/
def preparedSession (shared : SharedDatabase) (parameterCount columnCount : Int) : Session where
  shared := shared
  statement :=
    { raw := some [], state := .ready, parameterCount := parameterCount,
      columnCount := columnCount }

/-- A sequence of calls, each with what the engine answers during it. -/
def Session.run (session : Session) : List (EngineAnswers × StatementCall) → Session
  | [] => session
  | (answers, call) :: rest => (session.call answers call).2.run rest

theorem Session.run_guarded {session : Session} {trace : RawStatement}
    (guarded : Guarded session.statement trace)
    (calls : List (EngineAnswers × StatementCall)) :
    (session.run calls).statement.parameterCount = session.statement.parameterCount ∧
      (session.run calls).statement.columnCount = session.statement.columnCount ∧
      ∃ last, Guarded (session.run calls).statement last := by
  induction calls generalizing session trace with
  | nil => exact ⟨rfl, rfl, trace, guarded⟩
  | cons first rest inductionHypothesis =>
      obtain ⟨answers, call⟩ := first
      have effect := (Session.call_effect answers guarded.live call).1
      obtain ⟨sameParameters, sameColumns, next, guardedNext⟩ := effect.guarded guarded
      obtain ⟨runParameters, runColumns, last⟩ := inductionHypothesis guardedNext
      exact ⟨runParameters.trans sameParameters, runColumns.trans sameColumns, last⟩

/-- The automaton of a C statement protects the engine.  After any calls on a prepared
statement, whatever the engine answered, every engine call was made when the engine
statement was ready for it, the state word tells what the last step since the last reset
returned, and a further call that is refused, because the automaton does not permit it or
because it does not get to the engine, leaves the statement as it is. -/
theorem statement_automaton_protects_engine (shared : SharedDatabase)
    (parameterCount columnCount : Int) (calls : List (EngineAnswers × StatementCall)) :
    let session := (preparedSession shared parameterCount columnCount).run calls
    session.statement.parameterCount = parameterCount ∧
      session.statement.columnCount = columnCount ∧
      ∃ trace, session.statement.raw = some trace ∧
        Disciplined parameterCount columnCount trace ∧
        (session.statement.state = .row ↔ lastStep trace = some sqliteRow) ∧
        (session.statement.state = .ready ↔ lastStep trace = none) ∧
        ∀ (answers : EngineAnswers) (call : StatementCall),
          ¬ session.statement.permits call ∨
              (session.call answers call).2.statement.raw = session.statement.raw →
            (session.call answers call).2.statement = session.statement := by
  have prepared : Guarded (preparedSession shared parameterCount columnCount).statement [] :=
    ⟨rfl, .prepared, rfl⟩
  obtain ⟨sameParameters, sameColumns, trace, live, disciplined, describes⟩ :=
    Session.run_guarded prepared calls
  intro session
  refine ⟨sameParameters, sameColumns, trace, live, ?_, describes.row_iff,
    describes.ready_iff, ?_⟩
  · rwa [sameParameters, sameColumns] at disciplined
  · rintro answers call (refused | untouched)
    · exact (Session.call_effect answers live call).2 refused
    · exact (Session.call_effect answers live call).1.eq_of_raw_eq live untouched

end Csgdb.Ffi
