/-
Module: Csgdb.Pool.SeparateTransactions
Purpose: What group commit is meant to be: every job in a transaction of its own,
  one after another; and what a job of ordinary statements does to the data.
Trusted boundary: none
Main exports: separateJob, separateJobs, JobEffect, jobEffect, checkedEffect,
  serialState, serialAnswers, NoAbort, separateJobs_ordinary
-/
import Csgdb.Pool.GroupCommit

namespace Csgdb.Pool

open Storage

variable {Data Channel : Type} (engine : TransactionEngine Data)

/-- The engine when no control statement fails. -/
def faultless : TransactionEngine Data :=
  { engine with fault := fun _ => none }

/-! ## One transaction a job -/

/-- The statements of a batch, up to the first that fails. -/
def executeStatements : List (Command Data) → List Nat → Connection Data →
    Connection Data × Result (List Nat)
  | [], changes, connection => (connection, .ok changes)
  | statement :: rest, changes, connection =>
      match execute engine statement connection with
      | (next, .ok statementChanges) =>
          executeStatements rest (changes ++ [statementChanges]) next
      | (next, .error error) => (next, .error error)

/-- A job in a transaction of its own, rolled back at its first failure. -/
def separateJob (statements : List (Command Data)) (connection : Connection Data) :
    Connection Data × Result (List Nat) :=
  match beginTransaction engine connection with
  | (next, .error error) => (next, .error error)
  | (next, .ok ()) =>
      match executeStatements engine statements [] next with
      | (last, .error error) => (dropTransaction last, .error error)
      | (last, .ok changes) =>
          match commitTransaction engine last with
          | (done, .error error) => (done, .error error)
          | (done, .ok ()) => (done, .ok changes)

def separateJobs : List (GroupableWrite Data Channel) → Connection Data →
    Connection Data × List (GroupWriteResponse Channel)
  | [], connection => (connection, [])
  | job :: rest, connection =>
      let (next, answer) := separateJob engine job.statements connection
      let (last, answers) := separateJobs rest next
      (last, (job.response, answer) :: answers)

/-! ## Ordinary statements -/

/-- What the statements of a job do to the data they see. -/
inductive JobEffect (Data : Type) where
  | finished (changes : List Nat) (after : Data)
  | failed (error : Error)
  | aborted (error : Error)

def JobEffect.prepend (changes : Nat) : JobEffect Data → JobEffect Data
  | .finished rest after => .finished (changes :: rest) after
  | .failed error => .failed error
  | .aborted error => .aborted error

/-- The effect of ordinary statements; a control statement has none of its own. -/
def jobEffect : List (Command Data) → Data → JobEffect Data
  | [], data => .finished [] data
  | .ordinary behaviour :: rest, data =>
      match behaviour data with
      | .done changes after => (jobEffect rest after).prepend changes
      | .failed error _ => .failed error
      | .aborted error => .aborted error
  | _ :: _, _ => .failed storageFailed

/-- The data after a job: that of its effect when it finished, else as before. -/
def JobEffect.stateFrom (before : Data) : JobEffect Data → Data
  | .finished _ after => after
  | _ => before

def JobEffect.answer : JobEffect Data → Result (List Nat)
  | .finished changes _ => .ok changes
  | .failed error => .error error
  | .aborted error => .error error

/-- The effect of a job whose own commit checks the deferred constraints. -/
def checkedEffect (pending : Data → Bool) (statements : List (Command Data))
    (data : Data) : JobEffect Data :=
  match jobEffect statements data with
  | .finished changes after =>
      if pending after then .failed constraintViolation else .finished changes after
  | effect => effect

section Serial

variable (effect : List (Command Data) → Data → JobEffect Data)

/-- The jobs one after another, a failed one without effect. -/
def serialState : List (GroupableWrite Data Channel) → Data → Data
  | [], data => data
  | job :: rest, data => serialState rest ((effect job.statements data).stateFrom data)

def serialAnswers : List (GroupableWrite Data Channel) → Data →
    List (GroupWriteResponse Channel)
  | [], _ => []
  | job :: rest, data =>
      (job.response, (effect job.statements data).answer) ::
        serialAnswers rest ((effect job.statements data).stateFrom data)

/-- No job makes the engine abort its transaction. -/
def NoAbort : List (GroupableWrite Data Channel) → Data → Prop
  | [], _ => True
  | job :: rest, data =>
      (∀ error, effect job.statements data ≠ .aborted error) ∧
        NoAbort rest ((effect job.statements data).stateFrom data)

end Serial

/-- A job without transaction control. -/
def GroupableWrite.isOrdinary (job : GroupableWrite Data Channel) : Prop :=
  ∀ statement ∈ job.statements, statement.isOrdinary = true

/-! ## Separate transactions of ordinary jobs -/

variable {engine}

/-- Ordinary statements behind an open transaction. -/
theorem executeStatements_ordinary {current : OpenTransaction Data} :
    ∀ {statements : List (Command Data)} {changes : List Nat} {connection : Connection Data},
      (∀ statement ∈ statements, statement.isOrdinary = true) →
      connection.transaction = some current →
        match jobEffect statements current.data with
        | .finished counted after => ∃ next,
            executeStatements engine statements changes connection =
              (next, .ok (changes ++ counted)) ∧
            next.committed = connection.committed ∧
            next.controls = connection.controls ∧
            next.transaction = some { current with data := after }
        | .failed error => ∃ next left,
            executeStatements engine statements changes connection = (next, .error error) ∧
            next.committed = connection.committed ∧
            next.controls = connection.controls ∧
            next.transaction = some { current with data := left }
        | .aborted error => ∃ next,
            executeStatements engine statements changes connection = (next, .error error) ∧
            next.committed = connection.committed ∧
            next.controls = connection.controls ∧ next.transaction = none := by
  intro statements
  induction statements generalizing current with
  | nil =>
      intro changes connection _ isOpen
      exact ⟨connection, by simp [executeStatements], rfl, rfl, isOpen⟩
  | cons statement rest inductionHypothesis =>
      intro changes connection ordinary isOpen
      rw [List.forall_mem_cons] at ordinary
      cases statement with
      | ordinary behaviour =>
          have visible : connection.visible = current.data := by
            simp [Connection.visible, isOpen]
          cases ran : behaviour current.data with
          | done counted after =>
              have step : execute engine (.ordinary behaviour) connection =
                  ({ connection with
                      transaction := some { current with data := after }
                      changes := counted }, .ok counted) := by
                simp [execute, executeOrdinary, visible, ran, isOpen]
              have later := (@inductionHypothesis { current with data := after }
                (changes ++ [counted])
                { connection with
                  transaction := some { current with data := after }, changes := counted })
                ordinary.2 rfl
              simp only [jobEffect, ran, executeStatements, step]
              cases effect : jobEffect rest after with
              | finished counts final =>
                  rw [effect] at later
                  obtain ⟨next, ranRest, facts⟩ := later
                  exact ⟨next, by simpa using ranRest, facts⟩
              | failed error => rw [effect] at later; exact later
              | aborted error => rw [effect] at later; exact later
          | failed error left =>
              have step : execute engine (.ordinary behaviour) connection =
                  ({ connection with transaction := some { current with data := left } },
                    .error error) := by
                simp [execute, executeOrdinary, visible, ran, isOpen]
              simp only [jobEffect, ran, executeStatements, step]
              exact ⟨_, left, rfl, rfl, rfl, rfl⟩
          | aborted error =>
              have step : execute engine (.ordinary behaviour) connection =
                  (connection.rolledBack, .error error) := by
                simp [execute, executeOrdinary, visible, ran, isOpen]
              simp only [jobEffect, ran, executeStatements, step]
              exact ⟨_, rfl, rfl, rfl, rfl⟩
      | _ => simp [Command.isOrdinary] at ordinary

theorem beginTransaction_faultless {connection : Connection Data}
    (autocommit : connection.transaction = none) :
    beginTransaction (faultless engine) connection =
      ({ connection with
          transaction := some
            { data := connection.committed, savepoints := [], explicit := true }
          controls := connection.controls + 1 }, .ok ()) := by
  simp [beginTransaction, executeBatch, execute, faultless, executeControl, autocommit]

theorem commitTransaction_faultless {connection : Connection Data}
    {current : OpenTransaction Data} (isOpen : connection.transaction = some current) :
    commitTransaction (faultless engine) connection =
      if engine.pending current.data then
        ({ connection with transaction := none, controls := connection.controls + 1 },
          .error constraintViolation)
      else
        ({ connection with
            committed := current.data, transaction := none
            controls := connection.controls + 1 }, .ok ()) := by
  by_cases pending : engine.pending current.data
  · simp [commitTransaction, executeBatch, execute, faultless, executeControl, isOpen, commitOpen,
      pending, dropTransaction, Connection.rolledBack]
  · simp [commitTransaction, executeBatch, execute, faultless, executeControl, isOpen, commitOpen,
      pending, dropTransaction, Connection.rolledBack]

/-- A job of ordinary statements in its own transaction. -/
theorem separateJob_ordinary {statements : List (Command Data)}
    {connection : Connection Data}
    (ordinary : ∀ statement ∈ statements, statement.isOrdinary = true)
    (autocommit : connection.transaction = none) :
    ∃ next, separateJob (faultless engine) statements connection =
        (next, (checkedEffect engine.pending statements connection.committed).answer) ∧
      next.committed = (checkedEffect engine.pending statements
        connection.committed).stateFrom connection.committed ∧
      next.transaction = none := by
  have ran := (@executeStatements_ordinary _ (faultless engine)
    { data := connection.committed, savepoints := [], explicit := true } _ []
    { connection with
      transaction := some
        { data := connection.committed, savepoints := [], explicit := true }
      controls := connection.controls + 1 }) ordinary rfl
  unfold separateJob checkedEffect
  rw [beginTransaction_faultless autocommit]
  cases effect : jobEffect statements connection.committed with
  | finished changes after =>
      simp only [effect, List.nil_append] at ran
      obtain ⟨last, ranOk, sameCommitted, -, isOpen⟩ := ran
      simp only [ranOk, commitTransaction_faultless isOpen]
      by_cases pending : engine.pending after
      · simp [pending, JobEffect.answer, JobEffect.stateFrom, sameCommitted]
      · simp [pending, JobEffect.answer, JobEffect.stateFrom]
  | failed error =>
      simp only [effect] at ran
      obtain ⟨last, left, ranFailed, sameCommitted, -⟩ := ran
      simp only [ranFailed]
      exact ⟨_, rfl, sameCommitted, rfl⟩
  | aborted error =>
      simp only [effect] at ran
      obtain ⟨last, ranFailed, sameCommitted, -⟩ := ran
      simp only [ranFailed]
      exact ⟨_, rfl, sameCommitted, rfl⟩

/-- Jobs of ordinary statements, each in its own transaction. -/
theorem separateJobs_ordinary :
    ∀ {jobs : List (GroupableWrite Data Channel)} {connection : Connection Data},
      (∀ job ∈ jobs, job.isOrdinary) → connection.transaction = none →
        (separateJobs (faultless engine) jobs connection).2 =
            serialAnswers (checkedEffect engine.pending) jobs connection.committed ∧
          (separateJobs (faultless engine) jobs connection).1.committed =
            serialState (checkedEffect engine.pending) jobs connection.committed
  | [], _, _, _ => ⟨rfl, rfl⟩
  | job :: rest, connection, ordinary, autocommit => by
      rw [List.forall_mem_cons] at ordinary
      obtain ⟨next, ran, committed, nextAutocommit⟩ :=
        (@separateJob_ordinary _ engine) ordinary.1 autocommit
      obtain ⟨answers, state⟩ := separateJobs_ordinary ordinary.2 nextAutocommit
      simp only [separateJobs, ran, serialAnswers, serialState, answers, state, committed,
        and_self]

end Csgdb.Pool
