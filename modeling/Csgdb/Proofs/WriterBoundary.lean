/-
Module: Csgdb.Proofs.WriterBoundary
Purpose: When no job of the writer leaves a transaction open for the next one.
Trusted boundary: none
Main exports: SettledScript, Settled, JobSettled, CleanStart, SettledRun,
  no_transaction_leaks, failed_script_leaks_transaction
-/
import Csgdb.Pool.Writer
import Csgdb.Proofs.GroupCommit

namespace Csgdb.Pool

open Storage

variable {Data Value Channel : Type} {engine : TransactionEngine Data}

/-! ## Transactions that a text opens -/

/-- The statements of a script that succeed, up to the first that fails. -/
def executedPrefix (engine : TransactionEngine Data) :
    List (Command Data) → Connection Data → List (Command Data)
  | [], _ => []
  | command :: rest, connection =>
      match execute engine command connection with
      | (next, .ok _) => command :: executedPrefix engine rest next
      | (_, .error _) => []

def openAfter (script : List (Command Data)) (current : OpenText) : OpenText :=
  script.foldl (fun opened command => afterText command.text opened) current

/-- A script ends every transaction that it begins before it stops. -/
def SettledScript (engine : TransactionEngine Data) (script : List (Command Data))
    (connection : Connection Data) : Prop :=
  openAfter (executedPrefix engine script connection) none = none

mutual
/-- Every text that a callback runs outside of transaction values is settled. -/
def Settled (engine : TransactionEngine Data) :
    Callback Data Value → Connection Data → Prop
  | .ends _, _ => True
  | .inspect next, connection => Settled engine (next connection.visible) connection
  | .execute command next, connection =>
      SettledScript engine [command] connection ∧
        match execute engine command connection with
        | (after, answer) => Settled engine (next answer) after
  | .executeBatch script next, connection =>
      SettledScript engine script connection ∧
        match executeBatch engine script connection with
        | (after, answer) => Settled engine (next answer) after
  | .transaction refused body, connection =>
      match beginTransaction engine connection with
      | (after, .error error) => Settled engine (refused error) after
      | (after, .ok ()) => SettledScope engine body after

/-- The same for what follows a transaction value; inside it any text may run. -/
def SettledScope (engine : TransactionEngine Data) :
    TransactionScope Data Value → Connection Data → Prop
  | .inspect next, connection => SettledScope engine (next connection.visible) connection
  | .execute command next, connection =>
      match execute engine command connection with
      | (after, answer) => SettledScope engine (next answer) after
  | .executeBatch script next, connection =>
      match executeBatch engine script connection with
      | (after, answer) => SettledScope engine (next answer) after
  | .commit next, connection =>
      match commitTransaction engine connection with
      | (after, answer) => Settled engine (next answer) after
  | .rollback next, connection =>
      match rollbackTransaction engine connection with
      | (after, answer) => Settled engine (next answer) after
  | .drop next, connection => Settled engine next (dropTransaction connection)
  | .panics, _ => True
end

/-- The condition on one job in the state in which it starts; only exclusive
callbacks can fail it. -/
def JobSettled (engine : TransactionEngine Data) (job : WriterJob Data Value Channel)
    (connection : Connection Data) : Prop :=
  match job with
  | .exclusive operation => Settled engine operation connection
  | _ => True

/-! ## Texts and connections -/

/-- The connection has the transaction open that the text says. -/
def Matches (current : OpenText) (connection : Connection Data) : Prop :=
  current = connection.transaction.map fun opened =>
    (opened.explicit, opened.savepoints.map Prod.fst)

theorem Matches.autocommit {connection : Connection Data}
    (matching : Matches none connection) : connection.transaction = none := by
  cases state : connection.transaction with
  | none => rfl
  | some opened => simp [Matches, state] at matching

theorem savepointNames_map (name : String) (saved : List (String × Data)) :
    savepointNames name (saved.map Prod.fst) =
      (savepointsFrom name saved).map (List.map Prod.fst) := by
  induction saved with
  | nil => rfl
  | cons entry older inductionHypothesis =>
      rw [List.map_cons, savepointNames, savepointsFrom, inductionHypothesis]
      split <;> rfl

/-- A successful control statement does what its text says. -/
theorem executeControl_matches {command : Command Data} {current : OpenText}
    {connection : Connection Data} (isControl : command.isOrdinary = false)
    (matching : Matches current connection)
    (ok : (executeControl engine command connection).2.isOk = true) :
    Matches (afterText command.text current)
      (executeControl engine command connection).1 := by
  unfold Matches at matching
  cases state : connection.transaction with
  | none =>
      rw [state] at matching
      subst matching
      cases command with
      | begin => simp [executeControl, state, afterText, Command.text, ControlText.run, Matches]
      | savepoint name =>
          simp [executeControl, state, afterText, Command.text, ControlText.run, Matches]
      | ordinary behaviour => cases isControl
      | _ => simp only [executeControl, state] at ok; cases ok
  | some opened =>
      rw [state] at matching
      subst matching
      cases command with
      | ordinary behaviour => cases isControl
      | begin => simp only [executeControl, state] at ok; cases ok
      | commit =>
          simp only [executeControl, state, commitOpen] at ok ⊢
          cases pending : engine.pending opened.data with
          | true => rw [pending] at ok; cases ok
          | false => simp [Matches, afterText, Command.text, ControlText.run]
      | rollback =>
          simp [executeControl, state, afterText, Command.text, ControlText.run, Matches,
            Connection.rolledBack]
      | savepoint name =>
          simp [executeControl, state, afterText, Command.text, ControlText.run, Matches]
      | release name =>
          simp only [executeControl, state, releaseOpen, afterText, Command.text,
            ControlText.run, Option.map_some, savepointNames_map] at ok ⊢
          cases found : savepointsFrom name opened.savepoints with
          | none => rw [found] at ok; cases ok
          | some kept =>
              rw [found] at ok
              have sameTail : (kept.map Prod.fst).tail.isEmpty = kept.tail.isEmpty := by
                rw [← List.map_tail, List.isEmpty_map]
              simp only [Option.map_some, sameTail] at ok ⊢
              cases outermost : kept.tail.isEmpty && !opened.explicit with
              | false => simp [Matches]
              | true =>
                  rw [outermost] at ok
                  simp only [↓reduceIte, commitOpen] at ok ⊢
                  cases pending : engine.pending opened.data with
                  | true => rw [pending] at ok; cases ok
                  | false => simp [Matches]
      | rollbackTo name =>
          simp only [executeControl, state, rollbackToOpen, afterText, Command.text,
            ControlText.run, Option.map_some, savepointNames_map] at ok ⊢
          cases found : savepointsFrom name opened.savepoints with
          | none => rw [found] at ok; cases ok
          | some kept =>
              cases kept with
              | nil => rw [found] at ok; cases ok
              | cons entry older => simp [Matches]

/-- A successful statement does what its text says. -/
theorem execute_matches {command : Command Data} {current : OpenText}
    {connection : Connection Data} (matching : Matches current connection)
    (ok : (execute engine command connection).2.isOk = true) :
    Matches (afterText command.text current) (execute engine command connection).1 := by
  cases kind : command.isOrdinary with
  | false =>
      rw [execute_control kind] at ok ⊢
      cases faulty : engine.fault connection.controls with
      | none =>
          rw [faulty] at ok
          exact (@executeControl_matches _ engine _ _
            { connection with controls := connection.controls + 1 }) kind matching ok
      | some fault =>
          rw [faulty] at ok
          cases fault with
          | refused error => cases ok
          | aborted error => cases ok
  | true =>
      cases command with
      | ordinary behaviour =>
          unfold Matches at matching ⊢
          simp only [execute, executeOrdinary] at ok ⊢
          cases ran : behaviour connection.visible with
          | done changes after =>
              cases state : connection.transaction with
              | none =>
                  rw [state] at matching
                  simp only [autocommitStatement]
                  split <;> simpa [afterText, Command.text, ControlText.run, state] using matching
              | some opened =>
                  rw [state] at matching
                  simpa [afterText, Command.text, ControlText.run] using matching
          | failed error left =>
              simp only [ran] at ok
              cases state : connection.transaction with
              | none =>
                  simp only [state, autocommitStatement] at ok
                  split at ok <;> cases ok
              | some opened => rw [state] at ok; cases ok
          | aborted error => simp only [ran] at ok; cases ok
      | _ => cases kind

/-- A statement that fails in autocommit mode leaves it on. -/
theorem execute_error_autocommit {command : Command Data} {connection : Connection Data}
    (autocommit : connection.transaction = none)
    (failed : (execute engine command connection).2.isOk = false) :
    (execute engine command connection).1.transaction = none := by
  cases kind : command.isOrdinary with
  | false =>
      rw [execute_control kind] at failed ⊢
      cases faulty : engine.fault connection.controls with
      | none =>
          rw [faulty] at failed
          cases command with
          | begin => simp only [executeControl, autocommit] at failed; cases failed
          | savepoint name => simp only [executeControl, autocommit] at failed; cases failed
          | ordinary behaviour => cases kind
          | _ => simp [executeControl, autocommit]
      | some fault =>
          cases fault with
          | refused error => exact autocommit
          | aborted error => rfl
  | true =>
      cases command with
      | ordinary behaviour =>
          simp only [execute, executeOrdinary, autocommit]
          cases behaviour connection.visible with
          | done changes after => simp only [autocommitStatement]; split <;> rfl
          | failed error left => simp only [autocommitStatement]; split <;> exact autocommit
          | aborted error => rfl
      | _ => cases kind

/-- A script from any open text: the statements that succeeded decide whether a
transaction is open, unless the next one failed behind an open one. -/
theorem executeBatch_settled {script : List (Command Data)} {current : OpenText}
    {connection : Connection Data} (matching : Matches current connection)
    (settled : openAfter (executedPrefix engine script connection) current = none) :
    (executeBatch engine script connection).1.transaction = none := by
  induction script generalizing current connection with
  | nil =>
      have closed : current = none := settled
      subst closed
      exact matching.autocommit
  | cons command rest inductionHypothesis =>
      unfold executedPrefix at settled
      unfold executeBatch
      have step := (@execute_matches _ engine command) matching
      have stop := (@execute_error_autocommit _ engine command connection)
      cases ran : execute engine command connection with
      | mk next answer =>
          rw [ran] at step stop settled
          cases answer with
          | ok count => exact inductionHypothesis (step rfl) settled
          | error error =>
              have closed : current = none := settled
              subst closed
              exact stop matching.autocommit rfl

theorem SettledScript.autocommit {script : List (Command Data)}
    {connection : Connection Data} (settled : SettledScript engine script connection)
    (autocommit : connection.transaction = none) :
    (executeBatch engine script connection).1.transaction = none :=
  (@executeBatch_settled _ _ _ none) (by simp [Matches, autocommit]) settled

/-- A text without `BEGIN` and `SAVEPOINT` is settled in autocommit mode. -/
theorem settledScript_of_not_opening {script : List (Command Data)}
    {connection : Connection Data}
    (plain : ∀ command ∈ script, afterText command.text none = none) :
    SettledScript engine script connection := by
  unfold SettledScript
  induction script generalizing connection with
  | nil => rfl
  | cons command rest inductionHypothesis =>
      rw [List.forall_mem_cons] at plain
      unfold executedPrefix
      cases ran : execute engine command connection with
      | mk next answer =>
          cases answer with
          | ok count =>
              simp only [openAfter, List.foldl_cons, plain.1]
              exact inductionHypothesis plain.2
          | error error => rfl

/-! ## Jobs -/

theorem beginTransaction_error {connection : Connection Data} {error : Error}
    {after : Connection Data} (autocommit : connection.transaction = none)
    (ran : beginTransaction engine connection = (after, .error error)) :
    after.transaction = none := by
  cases faulty : engine.fault connection.controls with
  | none =>
      rw [beginTransaction_ok autocommit faulty] at ran
      cases ran
  | some fault =>
      obtain ⟨next, same, -, closed, -⟩ := begin_fault autocommit faulty
      rw [same] at ran
      obtain ⟨rfl, -⟩ := Prod.mk.inj ran
      exact closed

mutual
/-- A settled callback ends in autocommit mode, however it ends. -/
theorem runCallback_autocommit {connection : Connection Data} :
    ∀ callback : Callback Data Value, Settled engine callback connection →
      connection.transaction = none →
        (runCallback engine callback connection).1.transaction = none
  | .ends outcome, _, autocommit => autocommit
  | .inspect next, settled, autocommit => by
      unfold Settled at settled
      unfold runCallback
      exact runCallback_autocommit _ settled autocommit
  | .execute command next, settled, autocommit => by
      unfold Settled at settled
      unfold runCallback
      have closed := settled.1.autocommit autocommit
      rw [executeBatch_singleton] at closed
      exact runCallback_autocommit _ settled.2 closed
  | .executeBatch script next, settled, autocommit => by
      unfold Settled at settled
      unfold runCallback
      exact runCallback_autocommit _ settled.2 (settled.1.autocommit autocommit)
  | .transaction refused body, settled, autocommit => by
      unfold Settled at settled
      unfold runCallback
      cases ran : beginTransaction engine connection with
      | mk after answer =>
          rw [ran] at settled
          cases answer with
          | error error =>
              exact runCallback_autocommit _ settled (beginTransaction_error autocommit ran)
          | ok value => exact runScope_autocommit body settled

/-- Whatever runs in a transaction value, the value ends the transaction. -/
theorem runScope_autocommit {connection : Connection Data} :
    ∀ scope : TransactionScope Data Value, SettledScope engine scope connection →
      (runScope engine scope connection).1.transaction = none
  | .inspect next, settled => by
      unfold SettledScope at settled
      unfold runScope
      exact runScope_autocommit _ settled
  | .execute command next, settled => by
      unfold SettledScope at settled
      unfold runScope
      exact runScope_autocommit _ settled
  | .executeBatch script next, settled => by
      unfold SettledScope at settled
      unfold runScope
      exact runScope_autocommit _ settled
  | .commit next, settled => by
      unfold SettledScope at settled
      unfold runScope
      exact runCallback_autocommit _ settled rfl
  | .rollback next, settled => by
      unfold SettledScope at settled
      unfold runScope
      exact runCallback_autocommit _ settled rfl
  | .drop next, settled => by
      unfold SettledScope at settled
      unfold runScope
      exact runCallback_autocommit _ settled rfl
  | .panics, _ => rfl
end

/-- The shared transaction of a group never outlives it, whatever its jobs run. -/
theorem groupTransaction_autocommit {jobs : List (GroupableWrite Data Channel)}
    {connection : Connection Data} (autocommit : connection.transaction = none) :
    (groupTransaction engine jobs connection).1.transaction = none := by
  unfold groupTransaction
  cases ran : beginTransaction engine connection with
  | mk next answer =>
      cases answer with
      | error error => exact beginTransaction_error autocommit ran
      | ok value =>
          simp only [finishGroup]
          cases (runGroupJobs engine none jobs next).2.2 with
          | some error => rfl
          | none =>
              cases committed : commitTransaction engine
                  (runGroupJobs engine none jobs next).1 with
              | mk last finished =>
                  have closed : last = dropTransaction last := by
                    rw [commitTransaction] at committed
                    rw [← (Prod.mk.inj committed).1]
                    rfl
                  cases finished with
                  | ok value => exact congrArg Connection.transaction closed
                  | error error => exact congrArg Connection.transaction closed

/-- A settled job leaves the connection in autocommit mode. -/
theorem handleJob_autocommit {automatic : Result CheckpointResult}
    {job : WriterJob Data Value Channel} {writer : Writer Data}
    (settled : JobSettled engine job writer.connection)
    (autocommit : writer.connection.transaction = none) :
    (handleJob engine automatic job writer).1.connection.transaction = none := by
  cases job with
  | exclusive operation => exact runCallback_autocommit operation settled autocommit
  | group jobs =>
      simp only [handleJob]
      split
      · exact groupTransaction_autocommit autocommit
      · exact groupTransaction_autocommit autocommit
  | maintenance operation checkpointed changed =>
      simpa only [handleJob, Writer.completed, Maintenance.perform_connection]
        using autocommit

/-! ## Runs -/

/-- What a job may rely on when it starts: no transaction is open, `BEGIN` fails only
when the engine itself fails it, and an `Ok` answer to `execute_batch` means that
what its script left is committed. -/
structure CleanStart (engine : TransactionEngine Data) (Value Channel : Type)
    (job : WriterJob Data Value Channel) (writer : Writer Data) : Prop where
  autocommit : writer.connection.transaction = none
  begins : engine.fault writer.connection.controls = none →
    (beginTransaction engine writer.connection).2 = .ok ()
  scriptCommitted : ∀ (script : List (Command Data)) (value : Value)
    (automatic : Result CheckpointResult),
    job = .exclusive (poolExecuteBatch script value) →
      (handleJob engine automatic job writer).2 = .exclusive (.ok value) →
        (executeBatch engine script writer.connection).2 = .ok () ∧
          (handleJob engine automatic job writer).1.connection.committed =
            (executeBatch engine script writer.connection).1.visible

theorem Connection.visible_of_autocommit {connection : Connection Data}
    (autocommit : connection.transaction = none) :
    connection.committed = connection.visible := by
  rw [Connection.visible, autocommit]

theorem cleanStart {job : WriterJob Data Value Channel} {writer : Writer Data}
    (settled : JobSettled engine job writer.connection)
    (autocommit : writer.connection.transaction = none) :
    CleanStart engine Value Channel job writer where
  autocommit := autocommit
  begins := by
    intro healthy
    rw [beginTransaction_ok autocommit healthy]
  scriptCommitted := by
    intro script value automatic sameJob answered
    have closed := (@handleJob_autocommit _ _ _ _ automatic) settled autocommit
    subst sameJob
    constructor
    · simp only [handleJob, poolExecuteBatch, runCallback, Outcome.response] at answered
      cases ran : (executeBatch engine script writer.connection).2 with
      | ok done => rfl
      | error error => rw [ran] at answered; cases answered
    · exact Connection.visible_of_autocommit closed

/-- Every job of a run is settled in the state in which it starts. -/
def SettledRun (engine : TransactionEngine Data) :
    List (WriterJob Data Value Channel × Result CheckpointResult) → Writer Data → Prop
  | [], _ => True
  | (job, automatic) :: rest, writer =>
      JobSettled engine job writer.connection ∧
        SettledRun engine rest (handleJob engine automatic job writer).1

/-- In every run of the writer in which all jobs are settled, every job starts
clean, and the writer stops clean. -/
theorem no_transaction_leaks (engine : TransactionEngine Data)
    (jobs : List (WriterJob Data Value Channel × Result CheckpointResult))
    (writer : Writer Data) (autocommit : writer.connection.transaction = none)
    (settled : SettledRun engine jobs writer) :
    (∀ earlier job later, jobs = earlier ++ job :: later →
      CleanStart engine Value Channel job.1 (writerMain engine earlier writer)) ∧
    (writerMain engine jobs writer).connection.transaction = none := by
  induction jobs generalizing writer with
  | nil =>
      refine ⟨fun earlier job later split => ?_, autocommit⟩
      cases earlier <;> cases split
  | cons first rest inductionHypothesis =>
      have next := inductionHypothesis (handleJob engine first.2 first.1 writer).1
        (handleJob_autocommit settled.1 autocommit) settled.2
      refine ⟨fun earlier job later split => ?_, next.2⟩
      cases earlier with
      | nil =>
          obtain ⟨rfl, -⟩ := List.cons.inj split
          exact cleanStart settled.1 autocommit
      | cons head earlier =>
          obtain ⟨rfl, tail⟩ := List.cons.inj split
          exact next.1 earlier job later tail

/-- A writer that has not run yet, over a database of so many rows. -/
def idleWriter (stored : Nat) : Writer Nat :=
  .new { enabled := true, checkpointIntervalCommits := 2, walSoftLimitFrames := 0 }
    (idleConnection stored)

/-- A script in a transaction of its own, a script that fails in autocommit mode, a
transaction value that a failed statement makes the callback drop, a panic inside a
transaction value, and a group. -/
def settledJobs : List (WriterJob Nat Unit Nat × Result CheckpointResult) :=
  [(.exclusive (poolExecuteBatch [.begin, insertRows 1, .commit] ()),
      .error storageFailed),
    (.exclusive (poolExecuteBatch [insertRows 2, violateConstraint] ()),
      .error storageFailed),
    (.exclusive (.transaction (fun error => .ends (.returned (.error error)))
        (.executeBatch [insertRows 4, violateConstraint] fun answer =>
          .drop (.ends (.returned answer)))),
      .error storageFailed),
    (.exclusive (.transaction (fun error => .ends (.returned (.error error)))
        (.execute (insertRows 8) fun _ => .panics)),
      .error storageFailed),
    (.group mixedGroup, .error storageFailed),
    (.exclusive (poolExecuteBatch [insertRows 16] ()), .error storageFailed)]

theorem settled_jobs_leak_nothing :
    (writerMain (faultAt 99 storageFailed) settledJobs
      (idleWriter 0)).connection.transaction = none ∧
    (writerMain (faultAt 99 storageFailed) settledJobs
      (idleWriter 0)).connection.committed = 23 := by
  have settled : SettledRun (faultAt 99 storageFailed) settledJobs (idleWriter 0) :=
    ⟨⟨rfl, trivial⟩, ⟨settledScript_of_not_opening (by decide), trivial⟩, trivial, trivial,
      trivial, ⟨settledScript_of_not_opening (by decide), trivial⟩, trivial⟩
  exact ⟨(no_transaction_leaks _ settledJobs (idleWriter 0) rfl settled).2, by decide⟩

/-- A script that fails behind its own `BEGIN`, then two scripts and a group of other
clients. -/
def leakingJobs : List (WriterJob Nat Unit Nat × Result CheckpointResult) :=
  [(.exclusive (poolExecuteBatch [.begin, insertRows 1, violateConstraint] ()),
      .error storageFailed),
    (.exclusive (poolExecuteBatch [insertRows 2] ()), .error storageFailed)]

/-- After the failed script its transaction is open at the start of the next job; the
next script is answered `Ok` though nothing is committed, a group fails for all of
its jobs, and a rollback discards the acknowledged row. -/
theorem failed_script_leaks_transaction :
    let after (count : Nat) :=
      writerMain (faultAt 99 storageFailed) (leakingJobs.take count) (idleWriter 0)
    (after 1).connection.transaction.isSome = true ∧
    (handleJob (faultAt 99 storageFailed) (.error storageFailed)
      (.exclusive (poolExecuteBatch [insertRows 2] ()) : WriterJob Nat Unit Nat)
      (after 1)).2 = .exclusive (.ok ()) ∧
    (after 2).connection.committed = 0 ∧
    ((executeGroupCommit (faultAt 99 storageFailed) mixedGroup (after 2).connection
      (after 2).metrics).2.2.responses.all fun response => !response.2.isOk) = true ∧
    (execute (faultAt 99 storageFailed) .rollback (after 2).connection).1.visible = 0 := by
  refine ⟨rfl, rfl, rfl, rfl, rfl⟩

end Csgdb.Pool
