/-
Module: Csgdb.Proofs.WalPressure
Purpose: How long the pressure on the log lasts, and which checkpoints end it.
Trusted boundary: the engine may answer a checkpoint with lock contention and without
  frame counts; a checkpoint of another attached database reports the counts of that one.
Main exports: Relieves, ReportsMain, Throughout, pressure_held_until_relief
-/
import Csgdb.Core.Basic
import Csgdb.Proofs.WalMaintenance

namespace Csgdb.Pool

open Storage

variable {Data Value Channel : Type} {engine : TransactionEngine Data}

/-! ## Relief -/

/-- The engine finds the main database under its name in any case. -/
def IsMain (databaseName : Option String) : Prop :=
  databaseName.map foldName = some (foldName "main")

instance : DecidablePred IsMain := fun databaseName =>
  inferInstanceAs (Decidable (databaseName.map foldName = some (foldName "main")))

/-- The job replaces or disables the policy, or it records a checkpoint of the main
database with known frame counts of which no more remain than the soft limit. -/
def Relieves (engine : TransactionEngine Data) (automatic : Result CheckpointResult)
    (job : WriterJob Data Value Channel) (writer : Writer Data) : Prop :=
  job.changesPolicy = true ∨
    ∃ databaseName result remaining,
      recordedCheckpoint engine automatic job writer = some (databaseName, result) ∧
        IsMain databaseName ∧ result.remainingFrames = some remaining ∧
          remaining ≤ writer.runtime.maintenance.walSoftLimitFrames

/-- Under pressure the job records only checkpoints that are of the main database with
known frame counts, or that report more frames than the soft limit. -/
def ReportsMain (engine : TransactionEngine Data) (automatic : Result CheckpointResult)
    (job : WriterJob Data Value Channel) (writer : Writer Data) : Prop :=
  writer.runtime.walPressure = true →
    ∀ databaseName result,
      recordedCheckpoint engine automatic job writer = some (databaseName, result) →
        (IsMain databaseName ∧ result.remainingFrames.isSome) ∨
          writer.runtime.maintenance.walSoftLimitFrames < result.remainingFrames.getD 0

/-- A job that records a checkpoint changes no policy. -/
theorem recorded_keepsPolicy {automatic : Result CheckpointResult}
    {job : WriterJob Data Value Channel} {writer : Writer Data}
    {entry : Option String × CheckpointResult}
    (recorded : recordedCheckpoint engine automatic job writer = some entry) :
    job.changesPolicy = false := by
  cases job with
  | exclusive operation => rfl
  | group jobs => rfl
  | maintenance operation checkpointed changed =>
      cases operation with
      | checkpointDatabase databaseName mode => rfl
      | setWalAutocheckpoint => cases recorded
      | setAutomaticWalMaintenance options => cases recorded

/-- Under pressure exactly such a job keeps the pressure or relieves it. -/
theorem pressureKept_iff {automatic : Result CheckpointResult}
    {job : WriterJob Data Value Channel} {writer : Writer Data}
    (pressed : writer.runtime.walPressure = true) :
    ((handleJob engine automatic job writer).1.runtime.walPressure = true ∨
        Relieves engine automatic job writer) ↔
      ReportsMain engine automatic job writer := by
  rw [handleJob_walPressure]
  unfold Relieves ReportsMain
  cases recorded : recordedCheckpoint engine automatic job writer with
  | none =>
      constructor
      · intro _ _ databaseName result isRecorded
        cases isRecorded
      · intro _
        cases changes : job.changesPolicy with
        | true => exact .inr (.inl rfl)
        | false => exact .inl pressed
  | some entry =>
      obtain ⟨databaseName, result⟩ := entry
      have keeps : job.changesPolicy = false := recorded_keepsPolicy recorded
      simp only [keeps, Bool.false_eq_true, if_false, WriterRuntime.pressureAfter,
        decide_eq_true_eq, gt_iff_lt, false_or]
      constructor
      · rintro (above | ⟨name, same, remaining, isRecorded, main, known, few⟩)
          - databaseName' result' isRecorded'
        · cases isRecorded'
          exact .inr above
        · cases isRecorded
          cases isRecorded'
          exact .inl ⟨main, by rw [known]; rfl⟩
      · intro reports
        rcases reports pressed databaseName result rfl with ⟨main, known⟩ | above
        · obtain ⟨remaining, isKnown⟩ := Option.isSome_iff_exists.mp known
          by_cases few : remaining ≤ writer.runtime.maintenance.walSoftLimitFrames
          · exact .inr ⟨databaseName, result, remaining, rfl, main, isKnown, few⟩
          · rw [isKnown]
            exact .inl (Nat.lt_of_not_le few)
        · exact .inl above

/-! ## Runs -/

/-- Something holds of every turn of a run, in the state in which its job starts. -/
def Throughout
    (holds : Result CheckpointResult → WriterJob Data Value Channel → Writer Data → Prop)
    (engine : TransactionEngine Data) :
    List (WriterJob Data Value Channel × Result CheckpointResult) → Writer Data → Prop
  | [], _ => True
  | (job, automatic) :: rest, writer =>
      holds automatic job writer ∧
        Throughout holds engine rest (handleJob engine automatic job writer).1

/-- A counted write retries a passive checkpoint whenever automatic maintenance is on. -/
def Retries (engine : TransactionEngine Data) (automatic : Result CheckpointResult)
    (job : WriterJob Data Value Channel) (writer : Writer Data) : Prop :=
  (handleJob engine automatic job writer).2.counted = true →
    (automaticCheckpoint engine job writer = some .passive ↔
      writer.runtime.maintenance.enabled = true)

theorem afterWriteProgram_pressed {runtime : WriterRuntime}
    (pressed : runtime.walPressure = true) (metrics : PoolMetrics) :
    (runtime.afterWriteProgram metrics).mode =
      if runtime.maintenance.enabled then some .passive else none := by
  unfold WriterRuntime.afterWriteProgram
  cases runtime.maintenance.enabled with
  | false => rfl
  | true =>
      rw [pressed]
      rfl

theorem retries_of_pressure {automatic : Result CheckpointResult}
    {job : WriterJob Data Value Channel} {writer : Writer Data}
    (pressed : writer.runtime.walPressure = true) : Retries engine automatic job writer := by
  have mode : (writer.runtime.afterWriteProgram writer.metrics).mode = some .passive ↔
      writer.runtime.maintenance.enabled = true := by
    rw [afterWriteProgram_pressed pressed]
    cases writer.runtime.maintenance.enabled <;> simp
  intro counted
  cases job with
  | exclusive operation => exact mode
  | group jobs =>
      rw [handleJob_group_counted] at counted
      rw [automaticCheckpoint_group, if_pos counted]
      exact mode
  | maintenance operation checkpointed changed => cases counted

/-- Pressure stays on, and is retried against at every counted write, through any part of
a run in which no job relieves it, provided that under pressure the writer records only
checkpoints that are of the main database with known frame counts or report more frames
than the soft limit. -/
theorem pressure_held_until_relief (engine : TransactionEngine Data)
    (options : WalMaintenanceOptions) (connection : Connection Data)
    (before rest : List (WriterJob Data Value Channel × Result CheckpointResult))
    (pressed : (writerMain engine before
      (Writer.new options connection)).runtime.walPressure = true)
    (reports : Throughout (ReportsMain engine) engine rest
      (writerMain engine before (Writer.new options connection)))
    (unrelieved : Throughout
      (fun automatic job writer => ¬Relieves engine automatic job writer) engine rest
      (writerMain engine before (Writer.new options connection))) :
    (writerMain engine rest
        (writerMain engine before (Writer.new options connection))).runtime.walPressure =
      true ∧
    Throughout (Retries engine) engine rest
      (writerMain engine before (Writer.new options connection)) := by
  generalize writerMain engine before (Writer.new options connection) = writer at *
  induction rest generalizing writer with
  | nil => exact ⟨pressed, trivial⟩
  | cons entry rest inductionHypothesis =>
      obtain ⟨job, automatic⟩ := entry
      have next : (handleJob engine automatic job writer).1.runtime.walPressure = true :=
        ((pressureKept_iff pressed).mpr reports.1).resolve_right unrelieved.1
      obtain ⟨held, retried⟩ := inductionHypothesis _ next reports.2 unrelieved.2
      exact ⟨held, retries_of_pressure pressed, retried⟩

/-- Two writes of which the second finds the log over its limit. -/
def pressedJobs : List (WriterJob Unit Unit Unit × Result CheckpointResult) :=
  [(emptyWrite, mainReports 5 5), (emptyWrite, mainReports 12 2)]

/-- The pressure is lost, without relief, to a checkpoint that reports lock contention
and no counts, and to one of another database. -/
theorem pressure_lost_without_relief :
    let writer := writerMain steadyEngine pressedJobs
      (Writer.new everySecondWrite unitConnection)
    let busy := checkpointDatabase (some "main") (.counted true (-1) (-1))
    let attached : WriterJob Unit Unit Unit :=
      .maintenance (.checkpointDatabase (some "archive") .passive)
        (checkpointDatabase (some "archive") (.counted false 0 0)) (.ok ())
    writer.runtime.walPressure = true ∧
      ¬Relieves steadyEngine busy emptyWrite writer ∧
      (handleJob steadyEngine busy emptyWrite writer).1.runtime.walPressure = false ∧
      ¬Relieves steadyEngine busy attached writer ∧
      (handleJob steadyEngine busy attached writer).1.runtime.walPressure = false := by
  refine ⟨rfl, ?_, rfl, ?_, rfl⟩
  · rintro (changes | ⟨databaseName, result, remaining, recorded, -, known, -⟩)
    · cases changes
    · cases recorded
      cases known
  · rintro (changes | ⟨databaseName, result, remaining, recorded, main, -, -⟩)
    · cases changes
    · cases recorded
      exact absurd main (by decide)

/-- A write that finds six frames left, and a failed checkpoint, keep the pressure. -/
theorem pressure_held_through_retries :
    let writer := writerMain steadyEngine pressedJobs
      (Writer.new everySecondWrite unitConnection)
    let rest := [(emptyWrite, mainReports 12 6), (emptyWrite, .error storageFailed)]
    (writerMain steadyEngine rest writer).runtime.walPressure = true ∧
      Throughout (Retries steadyEngine) steadyEngine rest writer := by
  intro writer rest
  refine pressure_held_until_relief steadyEngine everySecondWrite unitConnection
    pressedJobs rest rfl ?_ ?_
  · refine ⟨?_, ?_, trivial⟩
    · intro _ databaseName result recorded
      cases recorded
      exact .inr (by decide)
    · intro _ databaseName result recorded
      cases recorded
  · refine ⟨?_, ?_, trivial⟩
    · rintro (changes | ⟨databaseName, result, remaining, recorded, -, known, few⟩)
      · cases changes
      · cases recorded
        cases known
        exact absurd few (by decide)
    · rintro (changes | ⟨databaseName, result, remaining, recorded, -⟩)
      · cases changes
      · cases recorded

end Csgdb.Pool
