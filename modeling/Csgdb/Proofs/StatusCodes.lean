/-
Module: Csgdb.Proofs.StatusCodes
Purpose: Which calls of the C interface publish the status code that they return, and the
  runs in which every returned code can be read back.
Trusted boundary: none
Main exports: Returned.published, CsgdbHandle.unpublished, call_published, ReadsBack,
  Publishes, codes_read_back_iff
-/
import Csgdb.Ffi.Handle
import Csgdb.Foundation.EventRun

namespace Csgdb.Ffi

open Foundation (EveryStep everyStep_congr)

/-- What the status word should say behind a call that returned a code. -/
def Returned.published : Returned → Code
  | .code status => status
  | .row | .done => .ok

namespace SharedDatabase

variable (shared : SharedDatabase)

@[simp] theorem setOk_lastCode : shared.setOk.lastCode = .ok := by
  unfold setOk
  by_cases same : shared.lastCode ≠ .ok
  · rw [if_pos same]
  · rw [if_neg same]
    exact not_not.mp same

@[simp] theorem setCode_lastCode (code : Code) : (shared.setCode code).2.lastCode = code := rfl

theorem setSqliteResult_published (result : Int) :
    (shared.setSqliteResult result).2.lastCode = (shared.setSqliteResult result).1 := by
  unfold setSqliteResult
  by_cases isOk : result = sqliteOk
  · rw [if_pos isOk]
    exact shared.setOk_lastCode
  · rw [if_neg isOk]
    rfl

end SharedDatabase

/-! ## Statements -/

namespace Session

variable {answers : EngineAnswers} {session : Session}

/-- The status word says what was returned. -/
def Published (answer : Code × Session) : Prop :=
  answer.2.shared.lastCode = answer.1

theorem setCode_published (code : Code) : Published (session.setCode code) := rfl

theorem setSqliteResult_published (result : Int) :
    Published (session.setSqliteResult result) :=
  session.shared.setSqliteResult_published result

/-- A binding publishes its code, also when it is refused. -/
theorem bindValue_published (index : Int) (value : BoundValue) :
    Published (session.bindValue answers index value) := by
  unfold bindValue
  split
  case isTrue => exact setCode_published _
  case isFalse =>
    split
    case isTrue => exact setCode_published _
    case isFalse => exact setSqliteResult_published _

theorem bindText_published (index : Int) (value : Option (List UInt8)) (length : Int) :
    Published (session.bindText answers index value length) := by
  rcases bindText_cases answers session index value length with ⟨bound, same⟩ | refused
  · rw [same]
    exact bindValue_published index bound
  · rw [refused]
    exact setCode_published _

theorem bindBlob_published (index : Int) (value : Option (List UInt8)) (length : Int) :
    Published (session.bindBlob answers index value length) := by
  rcases bindBlob_cases answers session index value length with ⟨bound, same⟩ | refused
  · rw [same]
    exact bindValue_published index bound
  · rw [refused]
    exact setCode_published _

/-- A step publishes its code; a row and the end have codes of their own. -/
theorem step_published :
    (session.step answers).2.shared.lastCode = (session.step answers).1.published := by
  unfold step
  split
  case isTrue => rfl
  case isFalse =>
    dsimp only
    split
    case isTrue => exact SharedDatabase.setOk_lastCode _
    case isFalse =>
      split
      case isTrue => exact SharedDatabase.setOk_lastCode _
      case isFalse => rfl

theorem reset_published : Published (session.reset answers) :=
  setSqliteResult_published _

/-- Clearing publishes its code, also when it is refused. -/
theorem clearBindings_published : Published (session.clearBindings answers) := by
  unfold clearBindings statementReadyOperation
  split
  case isTrue => exact setCode_published _
  case isFalse => exact setSqliteResult_published _

theorem resetAndClearBindings_published :
    Published (session.resetAndClearBindings answers) := by
  unfold resetAndClearBindings
  dsimp only
  split
  case isTrue => exact setSqliteResult_published _
  case isFalse => exact setCode_published _

/-- A blob view publishes its code on each of its exits. -/
theorem columnBlobView_published (index : Int) (hasData hasLength : Bool)
    {code : Returned}
    (returned : (session.columnBlobView answers index hasData hasLength).1.status =
      some code) :
    (session.columnBlobView answers index hasData hasLength).2.shared.lastCode =
      code.published := by
  unfold columnBlobView at returned ⊢
  dsimp only at returned ⊢
  split at returned
  case isTrue absent =>
    rw [if_pos absent]
    obtain rfl := Option.some.inj returned
    rfl
  case isFalse absent =>
    rw [if_neg absent]
    split at returned
    case isTrue away =>
      rw [if_pos away]
      obtain rfl := Option.some.inj returned
      rfl
    case isFalse away =>
      rw [if_neg away]
      split at returned
      case isTrue outside =>
        rw [if_pos outside]
        obtain rfl := Option.some.inj returned
        rfl
      case isFalse outside =>
        rw [if_neg outside]
        split at returned
        case isTrue negative =>
          rw [if_pos negative]
          obtain rfl := Option.some.inj returned
          rfl
        case isFalse negative =>
          rw [if_neg negative]
          obtain rfl := Option.some.inj returned
          exact SharedDatabase.setOk_lastCode _

theorem status_published {answer : Code × Session} (published : Published answer)
    {code : Returned} (returned : (status answer).1.status = some code) :
    (status answer).2.shared.lastCode = code.published := by
  obtain rfl := Option.some.inj returned
  exact published

/-- Every call on a statement publishes the code that it returns. -/
theorem call_published (call : StatementCall) {code : Returned}
    (returned : (session.call answers call).1.status = some code) :
    (session.call answers call).2.shared.lastCode = code.published := by
  cases call with
  | bindNull index | bindInt index value | bindInt64 index value | bindDouble index bits =>
      exact status_published (bindValue_published index _) returned
  | bindText index value length =>
      exact status_published (bindText_published index value length) returned
  | bindBlob index value length =>
      exact status_published (bindBlob_published index value length) returned
  | step =>
      obtain rfl := Option.some.inj returned
      exact step_published
  | reset => exact status_published reset_published returned
  | clearBindings => exact status_published clearBindings_published returned
  | resetAndClearBindings => exact status_published resetAndClearBindings_published returned
  | columnBlobView index hasData hasLength =>
      exact columnBlobView_published index hasData hasLength returned
  | _ => cases returned

end Session

/-! ## Handles -/

namespace CsgdbHandle

variable {answers : DatabaseAnswers} {handle : CsgdbHandle}

/-- The exits that return a code without publishing it: a script that is no string, a
script on a poisoned connection, and a preparation without an output. -/
def unpublished (handle : CsgdbHandle) : ApiCall → Option Code
  | .exec .null | .exec .invalidUtf8 => some .invalidArgument
  | .exec (.text _) => if handle.shared.poisoned then some .storage else none
  | .prepareV2 _ _ hasStatement _ | .prepareV3 _ _ _ hasStatement _ =>
      if hasStatement then none else some .invalidArgument
  | _ => none

def Published (answer : Code × CsgdbHandle) : Prop :=
  answer.2.shared.lastCode = answer.1

theorem setCode_published (code : Code) : Published (handle.setCode code) := rfl

theorem finish_published (result : Result Unit) : Published (handle.finish result) := by
  cases result with
  | ok => exact handle.shared.setOk_lastCode
  | error error => exact setCode_published _

theorem status_published {answer : Code × CsgdbHandle} (published : Published answer)
    {code : Returned} (returned : (status answer).1.status = some code) :
    (status answer).2.shared.lastCode = code.published := by
  obtain rfl := Option.some.inj returned
  exact published

theorem busyTimeout_published (timeoutMs : Int) :
    Published (handle.busyTimeout answers timeoutMs) := by
  unfold busyTimeout
  split
  case isTrue => exact setCode_published _
  case isFalse =>
    split
    case isTrue => exact setCode_published _
    case isFalse => exact finish_published _

theorem walAutocheckpoint_published (frames : Int) :
    Published (handle.walAutocheckpoint answers frames) := by
  unfold walAutocheckpoint
  split
  case isTrue => exact setCode_published _
  case isFalse =>
    split
    case isTrue => exact setCode_published _
    case isFalse => exact finish_published _

theorem releaseMemory_published : Published (handle.releaseMemory answers) := by
  unfold releaseMemory
  split
  case isTrue => exact setCode_published _
  case isFalse => exact finish_published _

/-- A checkpoint that returns a status has published it. -/
theorem walCheckpointV2_published (name : CString) (mode : Int)
    (hasWalFrames hasCheckpointed : Bool) {code : Returned}
    (returned : (handle.walCheckpointV2 answers name mode hasWalFrames hasCheckpointed).1.status
      = some code) :
    (handle.walCheckpointV2 answers name mode hasWalFrames hasCheckpointed).2.shared.lastCode =
      code.published := by
  unfold walCheckpointV2 at returned ⊢
  cases parsed : optionalCString name with
  | error rejection =>
      simp only [parsed] at returned ⊢
      obtain rfl := Option.some.inj returned
      rfl
  | ok name =>
      cases checked : checkpointMode mode with
      | none =>
          simp only [parsed, checked] at returned ⊢
          obtain rfl := Option.some.inj returned
          rfl
      | some mode =>
          simp only [parsed, checked] at returned ⊢
          by_cases poisoned : handle.shared.poisoned = true
          · rw [if_pos poisoned] at returned ⊢
            obtain rfl := Option.some.inj returned
            rfl
          · rw [if_neg poisoned] at returned ⊢
            cases ran : answers.checkpointDatabase name mode with
            | error error =>
                simp only [ran] at returned ⊢
                obtain rfl := Option.some.inj returned
                rfl
            | ok result =>
                simp only [ran] at returned ⊢
                by_cases busy : result.busy = true
                · rw [if_pos busy] at returned ⊢
                  obtain rfl := Option.some.inj returned
                  rfl
                · rw [if_neg busy] at returned ⊢
                  obtain rfl := Option.some.inj returned
                  exact handle.shared.setOk_lastCode

/-- A preparation publishes its code when it was given a place for the statement. -/
theorem prepareStatement_published (sql : Option (List UInt8)) (length : Int)
    (flags : UInt32) (hasTail : Bool) {code : Returned}
    (returned : (handle.prepareStatement answers sql length flags true hasTail).1.status =
      some code) :
    (handle.prepareStatement answers sql length flags true hasTail).2.shared.lastCode =
      code.published := by
  unfold prepareStatement at returned ⊢
  simp only [Bool.not_true, Bool.false_eq_true, if_false] at returned ⊢
  cases sql with
  | none =>
      obtain rfl := Option.some.inj returned
      rfl
  | some sql =>
      dsimp only at returned ⊢
      by_cases refused : length < -1 ∨ flags &&& ~~~1 ≠ 0
      · rw [if_pos refused] at returned ⊢
        obtain rfl := Option.some.inj returned
        rfl
      · rw [if_neg refused] at returned ⊢
        by_cases poisoned : handle.shared.poisoned = true
        · rw [if_pos poisoned] at returned ⊢
          obtain rfl := Option.some.inj returned
          rfl
        · rw [if_neg poisoned] at returned ⊢
          by_cases failed : (answers.prepare sql length flags).result ≠ sqliteOk
          · rw [if_pos failed] at returned ⊢
            obtain rfl := Option.some.inj returned
            rfl
          · rw [if_neg failed] at returned ⊢
            by_cases created : (answers.prepare sql length flags).hasRaw = true
            · rw [if_pos created] at returned ⊢
              obtain rfl := Option.some.inj returned
              exact SharedDatabase.setOk_lastCode _
            · rw [if_neg created] at returned ⊢
              obtain rfl := Option.some.inj returned
              exact SharedDatabase.setOk_lastCode _

/-- A call on a statement publishes its code on the handle of its database. -/
theorem statementCall_published (number : Nat) (call : StatementCall) {code : Returned}
    (returned : (handle.statementCall answers number call).1.status = some code) :
    (handle.statementCall answers number call).2.shared.lastCode = code.published := by
  unfold statementCall at returned ⊢
  split at returned
  case h_1 statement live => exact Session.call_published call returned
  case h_2 => cases returned

/-- A release of a statement publishes its code on the handle of its database. -/
theorem finalize_published (number : Nat) {code : Returned}
    (returned : (handle.finalize answers number).1.status = some code) :
    (handle.finalize answers number).2.shared.lastCode = code.published := by
  unfold finalize at returned ⊢
  split at returned
  case h_1 statement live =>
    obtain rfl := Option.some.inj returned
    exact handle.shared.setSqliteResult_published _
  case h_2 => cases returned

/-- A call that does not leave through an unpublished exit publishes its code. -/
theorem call_published {call : ApiCall} (publishes : handle.unpublished call = none)
    {code : Returned} (returned : (handle.call answers call).1.status = some code) :
    (handle.call answers call).2.shared.lastCode = code.published := by
  cases call with
  | exec sql =>
      cases sql with
      | null | invalidUtf8 => cases publishes
      | text sql =>
          have unpoisoned : ¬ handle.shared.poisoned = true := by
            intro poisoned
            simp [unpublished, poisoned] at publishes
          apply status_published ?_ returned
          unfold exec
          simp only [cString]
          rw [if_neg unpoisoned]
          exact finish_published _
  | busyTimeout timeoutMs => exact status_published (busyTimeout_published timeoutMs) returned
  | walAutocheckpoint frames =>
      exact status_published (walAutocheckpoint_published frames) returned
  | walCheckpointV2 name mode hasWalFrames hasCheckpointed =>
      exact walCheckpointV2_published name mode hasWalFrames hasCheckpointed returned
  | releaseMemory => exact status_published releaseMemory_published returned
  | prepareV2 sql length hasStatement hasTail =>
      cases hasStatement with
      | false => cases publishes
      | true => exact prepareStatement_published sql length 0 hasTail returned
  | prepareV3 sql length flags hasStatement hasTail =>
      cases hasStatement with
      | false => cases publishes
      | true => exact prepareStatement_published sql length flags hasTail returned
  | statement number call => exact statementCall_published number call returned
  | finalize number => exact finalize_published number returned
  | errcode =>
      obtain rfl := Option.some.inj returned
      rfl
  | _ => cases returned

/-- An unpublished exit returns its code and leaves the handle as it is. -/
theorem call_unpublished (answers : DatabaseAnswers) {call : ApiCall} {code : Code}
    (unpublishes : handle.unpublished call = some code) :
    (handle.call answers call).1.status = some (.code code) ∧
      (handle.call answers call).2 = handle := by
  cases call with
  | exec sql =>
      cases sql with
      | null | invalidUtf8 =>
          obtain rfl := Option.some.inj unpublishes
          exact ⟨rfl, rfl⟩
      | text sql =>
          by_cases poisoned : handle.shared.poisoned = true
          · simp only [unpublished, if_pos poisoned, Option.some.injEq] at unpublishes
            subst unpublishes
            simp only [CsgdbHandle.call, status, exec, cString, if_pos poisoned, Reply.status,
              and_self]
          · simp [unpublished, poisoned] at unpublishes
  | prepareV2 sql length hasStatement hasTail | prepareV3 sql length flags hasStatement hasTail =>
      cases hasStatement with
      | false =>
          obtain rfl := Option.some.inj unpublishes
          exact ⟨rfl, rfl⟩
      | true => cases unpublishes
  | _ => cases unpublishes

end CsgdbHandle

/-! ## Runs -/

/-- What the call returns is what `csgdb_errcode` reads next: an error code as it is, a
success as the code without an error. -/
def ReadsBack (handle : CsgdbHandle) (answers : DatabaseAnswers) (call : ApiCall) : Prop :=
  ∀ returned, (handle.call answers call).1.status = some returned →
    ∀ later, ((handle.call answers call).2.call later .errcode).1 =
      .code (.code returned.published)

/-- The call does not leave through an unpublished exit, unless the status word holds the
code of that exit already. -/
def Publishes (handle : CsgdbHandle) (call : ApiCall) : Prop :=
  ∀ code, handle.unpublished call = some code → handle.currentCode = code

/-- A code is read back exactly when the call publishes it. -/
theorem readsBack_iff (handle : CsgdbHandle) (answers : DatabaseAnswers) (call : ApiCall) :
    ReadsBack handle answers call ↔ Publishes handle call := by
  constructor
  · intro readsBack code unpublishes
    obtain ⟨returned, unchanged⟩ := CsgdbHandle.call_unpublished answers unpublishes
    have read := readsBack _ returned answers
    rw [unchanged] at read
    exact Returned.code.inj (Reply.code.inj read)
  · intro publishes returned isReturned later
    cases exit : handle.unpublished call with
    | none =>
        have published := CsgdbHandle.call_published exit isReturned
        exact congrArg (fun code => Reply.code (.code code)) published
    | some code =>
        obtain ⟨returnedCode, unchanged⟩ := CsgdbHandle.call_unpublished answers exit
        rw [returnedCode, Option.some.injEq] at isReturned
        subst isReturned
        rw [unchanged]
        exact congrArg (fun code => Reply.code (.code code)) (publishes code exit)

/-- The handle behind an event. -/
def CsgdbHandle.after (handle : CsgdbHandle) : HandleEvent → CsgdbHandle
  | .call answers call => (handle.call answers call).2
  | .poison => handle.poison

/-- A property of the calls among the events. -/
def OfCall (property : CsgdbHandle → DatabaseAnswers → ApiCall → Prop)
    (handle : CsgdbHandle) : HandleEvent → Prop
  | .call answers call => property handle answers call
  | .poison => True

theorem ofCall_congr {one two : CsgdbHandle → DatabaseAnswers → ApiCall → Prop}
    (same : ∀ handle answers call, one handle answers call ↔ two handle answers call)
    (handle : CsgdbHandle) (event : HandleEvent) :
    OfCall one handle event ↔ OfCall two handle event := by
  cases event with
  | call answers call => exact same handle answers call
  | poison => exact Iff.rfl

/-- The codes of a run can all be read back from the status word exactly when none of its
calls leaves through an unpublished exit that the status word contradicts. -/
theorem codes_read_back_iff (events : List HandleEvent) :
    EveryStep CsgdbHandle.after (OfCall ReadsBack) .opened events ↔
      EveryStep CsgdbHandle.after (OfCall fun handle _ call => Publishes handle call)
        .opened events :=
  everyStep_congr (ofCall_congr readsBack_iff)

/-- Answers of a database on which everything succeeds. -/
def quietAnswers : DatabaseAnswers where
  engine := { result := fun _ => sqliteOk, read := fun _ => .int 0, columnBytes := fun _ => 0 }
  executeBatch := fun _ => .ok ()
  changes := 0
  totalChanges := 0
  lastInsertRowid := 0
  isAutocommit := true
  isReadonly := fun _ => .ok false
  transactionState := fun _ => .ok .none
  setBusyTimeout := fun _ => .ok ()
  setWalAutocheckpoint := fun _ => .ok ()
  checkpointDatabase := fun _ _ =>
    .ok { walFrames := none, checkpointedFrames := none, busy := false }
  releaseMemory := .ok ()
  prepare := fun _ _ _ =>
    { result := sqliteOk, hasRaw := true, tail := .pointer none, parameterCount := 0,
      columnCount := 1 }
  finalize := sqliteOk

/-- A null script is refused, and the status word still reports no error. -/
theorem null_script_is_not_read_back :
    ¬ EveryStep CsgdbHandle.after (OfCall ReadsBack) .opened
      [.call quietAnswers (.exec .null)] := by
  intro readsBack
  have read := readsBack.1 (.code .invalidArgument) rfl quietAnswers
  cases read

end Csgdb.Ffi
