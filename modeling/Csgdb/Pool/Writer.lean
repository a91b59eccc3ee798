/-
Module: Csgdb.Pool.Writer
Purpose: The jobs of the writer thread and the loop that runs them on the one
  writer connection.
Trusted boundary: a callback is any finite program over the operations of a
  `Database`; what it computes in between is not modelled.  The answers of
  checkpoints come from the engine.
Main exports: Callback, TransactionScope, runCallback, poolExecuteBatch, WriterJob,
  Writer, handleJob, writerMain
-/
import Csgdb.Pool.GroupCommit

namespace Csgdb.Pool

open Storage

variable {Data Value Channel : Type}

/-! ## Callbacks -/

/-- A panic, or a returned result. -/
inductive Outcome (Value : Type) where
  | returned (result : Result Value)
  | panicked

mutual
/-- A program over a `Database`: it looks at the visible data, runs single statements
and scripts, opens transaction values, and returns or panics. -/
inductive Callback (Data Value : Type) : Type where
  | ends (outcome : Outcome Value)
  | inspect (next : Data → Callback Data Value)
  | execute (command : Command Data) (next : Result Nat → Callback Data Value)
  | executeBatch (script : List (Command Data)) (next : Result Unit → Callback Data Value)
  | transaction (refused : Error → Callback Data Value)
      (body : TransactionScope Data Value)

/-- A program over a transaction value; the database is borrowed by it until the
value is committed, rolled back or dropped, or a panic unwinds through it. -/
inductive TransactionScope (Data Value : Type) : Type where
  | inspect (next : Data → TransactionScope Data Value)
  | execute (command : Command Data) (next : Result Nat → TransactionScope Data Value)
  | executeBatch (script : List (Command Data))
      (next : Result Unit → TransactionScope Data Value)
  | commit (next : Result Unit → Callback Data Value)
  | rollback (next : Result Unit → Callback Data Value)
  | drop (next : Callback Data Value)
  | panics
end

variable (engine : TransactionEngine Data)

mutual
def runCallback : Callback Data Value → Connection Data → Connection Data × Outcome Value
  | .ends outcome, connection => (connection, outcome)
  | .inspect next, connection => runCallback (next connection.visible) connection
  | .execute command next, connection =>
      match execute engine command connection with
      | (after, answer) => runCallback (next answer) after
  | .executeBatch script next, connection =>
      match executeBatch engine script connection with
      | (after, answer) => runCallback (next answer) after
  | .transaction refused body, connection =>
      match beginTransaction engine connection with
      | (after, .error error) => runCallback (refused error) after
      | (after, .ok ()) => runScope body after

def runScope : TransactionScope Data Value → Connection Data →
    Connection Data × Outcome Value
  | .inspect next, connection => runScope (next connection.visible) connection
  | .execute command next, connection =>
      match execute engine command connection with
      | (after, answer) => runScope (next answer) after
  | .executeBatch script next, connection =>
      match executeBatch engine script connection with
      | (after, answer) => runScope (next answer) after
  | .commit next, connection =>
      match commitTransaction engine connection with
      | (after, answer) => runCallback (next answer) after
  | .rollback next, connection =>
      match rollbackTransaction engine connection with
      | (after, answer) => runCallback (next answer) after
  | .drop next, connection => runCallback next (dropTransaction connection)
  | .panics, connection => (dropTransaction connection, .panicked)
end

/-- The callback of `DatabasePool::execute_batch`. -/
def poolExecuteBatch (script : List (Command Data)) (value : Value) :
    Callback Data Value :=
  .executeBatch script fun answer => .ends (.returned (answer.map fun () => value))

/-! ## Jobs -/

def writeTaskPanicked : Error :=
  { code := .writeTaskPanicked, message := "a database writer callback panicked" }

/-- `catch_unwind` around an exclusive operation. -/
def Outcome.response : Outcome Value → Result Value
  | .returned result => result
  | .panicked => .error writeTaskPanicked

/-- The exclusive operations of the pool itself. -/
inductive Maintenance where
  | checkpointDatabase (databaseName : Option String) (mode : CheckpointMode)
  | setWalAutocheckpoint
  | setAutomaticWalMaintenance (options : WalMaintenanceOptions)
deriving Repr, DecidableEq

inductive MaintenanceAnswer where
  | checkpoint (result : CheckpointResult)
  | policy
deriving Repr, DecidableEq

/-- A dequeued job: a client's exclusive callback, a group, or an exclusive operation
of the pool with what the engine answers to a checkpoint or to a change of policy. -/
inductive WriterJob (Data Value Channel : Type) where
  | exclusive (operation : Callback Data Value)
  | group (jobs : List (GroupableWrite Data Channel))
  | maintenance (operation : Maintenance) (checkpointed : Result CheckpointResult)
      (changed : Result Unit)

/-- What a job is answered. -/
inductive WriterAnswer (Value Channel : Type) where
  | exclusive (response : Result Value)
  | group (responses : List (GroupWriteResponse Channel))
  | maintenance (response : Result MaintenanceAnswer)

/-- The state of the writer thread between two jobs. -/
structure Writer (Data : Type) where
  connection : Connection Data
  runtime : WriterRuntime
  metrics : PoolMetrics

/-- The writer when its thread starts; the pool has published its policy by then. -/
def Writer.new (maintenance : WalMaintenanceOptions) (connection : Connection Data) :
    Writer Data where
  connection := connection
  runtime := .new maintenance
  metrics := { automaticMaintenanceEnabled := maintenance.enabled }

/-- `after_write` on the state of the writer. -/
def Writer.afterWrite (automatic : Result CheckpointResult) (writer : Writer Data) :
    Writer Data :=
  let (runtime, metrics) := writer.runtime.afterWrite automatic writer.metrics
  { writer with runtime := runtime, metrics := metrics }

def Writer.completed (jobCount : Nat) (writer : Writer Data) : Writer Data :=
  { writer with metrics := writer.metrics.completed jobCount }

/-- An exclusive operation of the pool that changes the policy when it succeeds. -/
def Writer.setPolicy (changed : Result Unit) (enabled : Bool)
    (change : WriterRuntime → WriterRuntime) (writer : Writer Data) :
    Writer Data × Result MaintenanceAnswer :=
  match changed with
  | .error error => (writer, .error error)
  | .ok () =>
      ({ writer with
          runtime := change writer.runtime
          metrics := { writer.metrics with
            automaticMaintenanceEnabled := enabled, walPressureActive := false } },
        .ok .policy)

/-- The closures that the pool itself submits. -/
def Maintenance.perform (checkpointed : Result CheckpointResult) (changed : Result Unit)
    (writer : Writer Data) : Maintenance → Writer Data × Result MaintenanceAnswer
  | .checkpointDatabase _ _ =>
      match checkpointed with
      | .error error => (writer, .error error)
      | .ok result =>
          let (runtime, metrics) :=
            writer.runtime.recordCheckpoint result false writer.metrics
          ({ writer with runtime := runtime, metrics := metrics },
            .ok (.checkpoint result))
  | .setWalAutocheckpoint =>
      writer.setPolicy changed false WriterRuntime.disableAutomaticMaintenance
  | .setAutomaticWalMaintenance options =>
      writer.setPolicy changed options.enabled (.setAutomaticMaintenance options)

/-- The pool's own operations leave the connection alone. -/
theorem Maintenance.perform_connection (operation : Maintenance)
    (checkpointed : Result CheckpointResult) (changed : Result Unit)
    (writer : Writer Data) :
    (operation.perform checkpointed changed writer).1.connection = writer.connection := by
  cases operation <;> cases checkpointed <;> cases changed <;> rfl

/-- One turn of the writer loop; `automatic` is what a passive checkpoint would
answer after it. -/
def handleJob (automatic : Result CheckpointResult) (job : WriterJob Data Value Channel)
    (writer : Writer Data) : Writer Data × WriterAnswer Value Channel :=
  match job with
  | .exclusive operation =>
      let (connection, outcome) := runCallback engine operation writer.connection
      let maintained := Writer.afterWrite automatic { writer with connection := connection }
      (maintained.completed 1, .exclusive outcome.response)
  | .group jobs =>
      let (connection, metrics, completion) :=
        executeGroupCommit engine jobs writer.connection writer.metrics
      let written := { writer with connection := connection, metrics := metrics }
      (if completion.committed then Writer.afterWrite automatic written else written,
        .group completion.responses)
  | .maintenance operation checkpointed changed =>
      let (after, response) := operation.perform checkpointed changed writer
      (after.completed 1, .maintenance response)

/-- The writer loop on the jobs that it dequeues. -/
def writerMain : List (WriterJob Data Value Channel × Result CheckpointResult) →
    Writer Data → Writer Data
  | [], writer => writer
  | (job, automatic) :: rest, writer =>
      writerMain rest (handleJob engine automatic job writer).1

end Csgdb.Pool
